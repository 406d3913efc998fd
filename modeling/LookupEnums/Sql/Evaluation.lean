import LookupEnums.Database.Relation
import LookupEnums.Sql.Function
import LookupEnums.Sql.Token

/-! # Evaluating expressions

An expression has a value in a scope, a row of each table in reach, and for groups of rows also in
the scopes of these. Comparisons turn an operand into the kind that the other one prefers. What
cannot be evaluated has no value. What a selection inside shows is asked for. -/

namespace LookupEnums.Sql

structure Binding where
  table : String
  columns : List Column
  data : List Datum
  number : Option Int := none

abbrev Scope := List Binding

abbrev Answers := Selection → Scope → Option Relation

namespace Binding

def rowNumberNames : List String := ["rowid", "oid", "_rowid_"]

def find? (b : Binding) (name : String) : Option (Column × Datum) :=
  (b.columns.zip b.data).find? fun (c, _) => sameName c.name name

def rowNumber? (b : Binding) (name : String) : Option (Column × Datum) :=
  if rowNumberNames.any (sameName name) then
    b.number.map fun n => ({ name, declared := some "INTEGER" }, .int n)
  else none

end Binding

namespace Scope

def reach (s : Scope) (table : Option String) : Scope :=
  match table with
  | none => s
  | some t => s.filter fun b => sameName b.table t

def find? (s : Scope) (table : Option String) (name : String) : Option (Column × Datum) :=
  ((s.reach table).findSome? (·.find? name)).or ((s.reach table).findSome? (·.rowNumber? name))

end Scope

namespace Expr

/-- The kind an expression prefers, if it has any preference. -/
def affinity? (s : Scope) : Expr → Option Affinity
  | column table name _ => (s.find? table name).bind fun (c, _) =>
    if c.isBare then none else some c.affinity
  | cast _ type => some (.ofDeclared (some type))
  | collated e _ => affinity? s e
  | nested _ shape => shape.affinity
  | _ => none

def collation? (s : Scope) : Expr → Option (Bool × Collation)
  | collated _ c => some (true, c)
  | column table name _ => (s.find? table name).map fun (c, _) => (false, c.collation)
  | cast e _ => collation? s e
  | unary .plus e => collation? s e
  | binary .concat a b =>
    match collation? s a, collation? s b with
    | some (true, c), _ | _, some (true, c) => some (true, c)
    | _, _ => none
  | _ => none

/-- The collation that two operands are compared by: the one said in so many words, or that of the
first column. -/
def comparison (s : Scope) (a b : Expr) : Collation :=
  match collation? s a, collation? s b with
  | some (true, c), _ => c
  | _, some (true, c) => c
  | some (_, c), _ => c
  | none, some (_, c) => c
  | none, none => .exact

def isNumeric (a : Affinity) : Bool :=
  a = .integer || a = .real || a = .numeric

/-- The affinity two operands are compared by: of two, a numeric one if there is such, or else the only
one. -/
def comparedBy : Option Affinity → Option Affinity → Option Affinity
  | some a, some b => some (if isNumeric a || isNumeric b then .numeric else .unchanged)
  | a, b => a.or b

def converted (a : Option Affinity) (d : Datum) : Datum :=
  match a, d with
  | some .text, d => Affinity.textPreferred d
  | some .unchanged, d | none, d => d
  | some _, .text s => (Affinity.number? s.toList).getD d
  | some _, d => d

def castTo (type : String) (d : Datum) : Datum :=
  if d.isNull then .null
  else match Affinity.ofDeclared (some type) with
    | .integer => .int d.toInt
    | .real => .real d.toReal
    | .text => d.toText
    | .numeric => match d.toNumber with
      | .real x => match d with
        | .real _ => d
        | _ => Affinity.wholeIfExact x
      | n => n
    | .unchanged => match d.toText, d with
      | _, .blob content => .blob content
      | .text t, _ => .blob t.toUTF8.toList
      | d, _ => d

def compared (s : Scope) (a b : Expr) (x y : Datum) : Ordering :=
  let preferred := comparedBy (affinity? s a) (affinity? s b)
  (converted preferred x).order (comparison s a b) (converted preferred y)

/-- Whether one of some data is the same as another, by an affinity and a collation; nothing among them
leaves it open. -/
def isOneOf (a : Option Affinity) (c : Collation) (d : Datum) (data : List Datum) : Datum :=
  if data.isEmpty then .int 0
  else if d.isNull then .null
  else
    let x := converted a d
    if data.any fun y => !y.isNull && x.order c (converted a y) == .eq then .int 1
    else if data.any Datum.isNull then .null
    else .int 0

def amongCollation (s : Scope) (e : Expr) (shape : NestedShape) : Collation :=
  (((collation? s e).map (·.2)).or shape.collation).getD .exact

def firstResults (r : Relation) : Option (List Datum) :=
  if r.isWhole then some (r.rows.map (·.headD .null)) else none

def chosen : List Datum → Datum
  | condition :: result :: rest => if condition.holds then result else chosen rest
  | [d] => d
  | [] => .null

def callCollation (s : Scope) (arguments : List Expr) : Collation :=
  ((arguments.findSome? (collation? s)).map (·.2)).getD .exact

section

variable (ask : Answers)

mutual

/-- The value in a scope; `group` holds the scopes of the rows of a group, if there is one. -/
def evaluate? (s : Scope) (group : Option (List Scope)) : Expr → Option Datum
  | literal d => some d
  | column table name isQuoted =>
    match s.find? table name with
    | some (_, d) => some d
    | none => if isQuoted && table.isNone then some (.text name) else none
  | unary op e => (evaluate? s group e).map op.apply
  | binary op a b => do
    let x ← evaluate? s group a
    let y ← evaluate? s group b
    let order := if op.isComparison then compared s a b x y else .eq
    return op.apply order x y
  | oneOf e items => do
    let d ← evaluate? s group e
    let data ← evaluateAll? s group items
    return isOneOf (affinity? s e) (((collation? s e).map (·.2)).getD .exact) d data
  | nested q _ => do
    let data ← firstResults (← ask q s)
    return data.headD .null
  | anyRow q _ => do
    let data ← firstResults (← ask q s)
    return .int (if data.isEmpty then 0 else 1)
  | among e q shape => do
    let d ← evaluate? s group e
    let data ← firstResults (← ask q s)
    return isOneOf (comparedBy shape.affinity (affinity? s e)) (amongCollation s e shape) d data
  | choose parts => (evaluateAll? s group parts).map chosen
  | cast e type => (evaluate? s group e).map (castTo type)
  | collated e _ => evaluate? s group e
  | call function arguments =>
    if isGroupCall function arguments then do
      let scopes ← group
      let rows ← scopes.mapM fun s => evaluateAll? s none arguments
      Function.resultOfRows? (callCollation s arguments) function rows
    else do
      let data ← evaluateAll? s group arguments
      Function.result? (callCollation s arguments) function data
  | distinctCall function e => do
    let data ← (← group).mapM fun s => evaluate? s none e
    let c := callCollation s [e]
    Function.groupResult? c function (Function.distinct c data)
  | countRows => group.map fun scopes => .int scopes.length

def evaluateAll? (s : Scope) (group : Option (List Scope)) : List Expr → Option (List Datum)
  | [] => some []
  | e :: rest => do
    let d ← evaluate? s group e
    let data ← evaluateAll? s group rest
    return d :: data

end

end

def noAnswers : Answers :=
  fun _ _ => none

def plainValue? (s : Scope) (e : Expr) : Option Datum :=
  evaluate? noAnswers s none e

end Expr

end LookupEnums.Sql
