import LookupEnums.Database.Affinity

/-! # Expressions and selections

What a statement computes from the columns of a row, and what it selects. Forms that others express are
read as those: a range as two comparisons, a pattern with an escape as a call. -/

namespace LookupEnums.Sql

inductive UnaryOp
  | minus
  | plus
  | complement
  | not
  deriving DecidableEq, Repr

inductive BinaryOp
  | or
  | and
  | equal
  | unequal
  | less
  | atMost
  | greater
  | atLeast
  | same
  | different
  | bitAnd
  | bitOr
  | shiftLeft
  | shiftRight
  | add
  | subtract
  | multiply
  | divide
  | remainder
  | concat
  deriving DecidableEq, Repr

/-- What is known of a nested selection: how its first result is compared, and the columns from outside
that it depends on. -/
structure NestedShape where
  affinity : Option Affinity := none
  collation : Option Collation := none
  outside : List (Option String × String) := []
  deriving Repr

/-- How a source is joined with those before it: in any order, after them, or after them and keeping
their rows without a partner. -/
inductive JoinKind
  | free
  | fixed
  | outer
  deriving DecidableEq, Repr

/-- Which columns of a source have to be the same as those before it. -/
inductive Sharing
  | nothing
  | columns (names : List String)
  | everything
  deriving DecidableEq, Repr

inductive Combination
  | unionAll
  | union
  | except
  | intersection
  deriving DecidableEq, Repr

mutual

inductive Expr
  | literal (d : Datum)
  /-- A column, of one table if it says so. In double quotes, a text if there is no such column. -/
  | column (table : Option String) (name : String) (isQuoted : Bool)
  | unary (op : UnaryOp) (e : Expr)
  | binary (op : BinaryOp) (a b : Expr)
  | oneOf (e : Expr) (items : List Expr)
  /-- Conditions with a result after each, and a last result if none holds. -/
  | choose (parts : List Expr)
  | cast (e : Expr) (type : String)
  | collated (e : Expr) (c : Collation)
  | call (function : String) (arguments : List Expr)
  /-- A function of the distinct data in a group. -/
  | distinctCall (function : String) (e : Expr)
  /-- The number of rows in a group. -/
  | countRows
  /-- The first result of a selection. -/
  | nested (s : Selection) (shape : NestedShape)
  /-- Whether a selection has any row. -/
  | anyRow (s : Selection) (shape : NestedShape)
  /-- Whether the first result of some row of a selection is equal. -/
  | among (e : Expr) (s : Selection) (shape : NestedShape)

inductive Result
  /-- All columns, of one table if it says so. -/
  | all (table : Option String)
  /-- An expression with the name it is given, or else as it was written. -/
  | single (e : Expr) (name : Option String) (written : String)

inductive Origin
  | named (name : String)
  | selected (s : Selection)

structure Source where
  origin : Origin
  name : String
  join : JoinKind
  condition : Option Expr
  sharing : Sharing

structure IndexedColumn where
  expr : Expr
  collation : Option Collation := none
  descending : Bool := false

structure Part where
  isDistinct : Bool := false
  results : List Result
  sources : List Source := []
  condition : Option Expr := none
  groupBy : List Expr := []
  having : Option Expr := none

structure Selection where
  /-- Views that are only known here. -/
  views : List View := []
  first : Part
  further : List (Combination × Part) := []
  orderBy : List IndexedColumn := []
  limit : Option Expr := none
  offset : Option Expr := none

structure View where
  name : String
  columns : List String := []
  selection : Selection

end

namespace Expr

mutual

def mentions : Expr → List (Option String × String)
  | literal _ | countRows => []
  | column table name _ => [(table, name)]
  | unary _ e | cast e _ | collated e _ | distinctCall _ e => mentions e
  | binary _ a b => mentions a ++ mentions b
  | oneOf e items => mentions e ++ mentionsOfAll items
  | choose parts => mentionsOfAll parts
  | call _ arguments => mentionsOfAll arguments
  | nested _ shape | anyRow _ shape => shape.outside
  | among e _ shape => mentions e ++ shape.outside

def mentionsOfAll : List Expr → List (Option String × String)
  | [] => []
  | e :: rest => mentions e ++ mentionsOfAll rest

end

/-- The functions that take a group of rows; two of them only with a single argument. -/
def groupFunctions : List String :=
  ["count", "sum", "total", "avg", "group_concat"]

def isGroupCall (function : String) (arguments : List Expr) : Bool :=
  groupFunctions.contains function
    || (["min", "max"].contains function && arguments.length == 1)

mutual

def isGrouping : Expr → Bool
  | countRows | distinctCall _ _ => true
  | literal _ | column _ _ _ => false
  | unary _ e | cast e _ | collated e _ => isGrouping e
  | binary _ a b => isGrouping a || isGrouping b
  | oneOf e items => isGrouping e || anyGrouping items
  | choose parts => anyGrouping parts
  | nested _ _ | anyRow _ _ => false
  | among e _ _ => isGrouping e
  | call function arguments => isGroupCall function arguments || anyGrouping arguments

def anyGrouping : List Expr → Bool
  | [] => false
  | e :: rest => isGrouping e || anyGrouping rest

end

mutual

def isLike : Expr → Expr → Bool
  | literal d, literal c => d = c
  | column t n _, column u m _ => t = u && n = m
  | countRows, countRows => true
  | unary op e, unary oq f => op = oq && isLike e f
  | binary op a b, binary oq c d => op = oq && isLike a c && isLike b d
  | oneOf e s, oneOf f t => isLike e f && areLike s t
  | choose s, choose t => areLike s t
  | cast e t, cast f u => t = u && isLike e f
  | collated e c, collated f d => c = d && isLike e f
  | call f s, call g t => f = g && areLike s t
  | distinctCall f e, distinctCall g d => f = g && isLike e d
  | _, _ => false

def areLike : List Expr → List Expr → Bool
  | [], [] => true
  | e :: s, f :: t => isLike e f && areLike s t
  | _, _ => false

end

mutual

def replaced (f : Option String → String → Option Expr) : Expr → Expr
  | column table name isQuoted => (f table name).getD (column table name isQuoted)
  | literal d => literal d
  | countRows => countRows
  | unary op e => unary op (replaced f e)
  | binary op a b => binary op (replaced f a) (replaced f b)
  | oneOf e items => oneOf (replaced f e) (replacedAll f items)
  | choose parts => choose (replacedAll f parts)
  | cast e type => cast (replaced f e) type
  | collated e c => collated (replaced f e) c
  | call function arguments => call function (replacedAll f arguments)
  | distinctCall function e => distinctCall function (replaced f e)
  | nested s shape => nested s shape
  | anyRow s shape => anyRow s shape
  | among e s shape => among (replaced f e) s shape

def replacedAll (f : Option String → String → Option Expr) : List Expr → List Expr
  | [] => []
  | e :: rest => replaced f e :: replacedAll f rest

end

mutual

def extremes : Expr → List (String × Expr)
  | literal _ | column _ _ _ | countRows => []
  | unary _ e | cast e _ | collated e _ => extremes e
  | binary _ a b => extremes a ++ extremes b
  | oneOf e items => extremes e ++ extremesOfAll items
  | choose parts => extremesOfAll parts
  | call function [e] => if ["min", "max"].contains function then [(function, e)] else extremes e
  | call _ arguments => extremesOfAll arguments
  | distinctCall function e =>
    if ["min", "max"].contains function then [(function, e)] else extremes e
  | nested _ _ | anyRow _ _ => []
  | among e _ _ => extremes e

def extremesOfAll : List Expr → List (String × Expr)
  | [] => []
  | e :: rest => extremes e ++ extremesOfAll rest

end

mutual

def described (look : Selection → NestedShape) : Expr → Expr
  | column table name isQuoted => column table name isQuoted
  | literal d => literal d
  | countRows => countRows
  | unary op e => unary op (described look e)
  | binary op a b => binary op (described look a) (described look b)
  | oneOf e items => oneOf (described look e) (describedAll look items)
  | choose parts => choose (describedAll look parts)
  | cast e type => cast (described look e) type
  | collated e c => collated (described look e) c
  | call function arguments => call function (describedAll look arguments)
  | distinctCall function e => distinctCall function (described look e)
  | nested s _ => nested s (look s)
  | anyRow s _ => anyRow s (look s)
  | among e s _ => among (described look e) s (look s)

def describedAll (look : Selection → NestedShape) : List Expr → List Expr
  | [] => []
  | e :: rest => described look e :: describedAll look rest

end

def conjuncts : Expr → List Expr
  | binary .and a b => conjuncts a ++ conjuncts b
  | e => [e]

def disjuncts : Expr → List Expr
  | binary .or a b => disjuncts a ++ disjuncts b
  | e => [e]

def withoutCollation : Expr → Expr
  | collated e _ => withoutCollation e
  | e => e

end Expr

end LookupEnums.Sql
