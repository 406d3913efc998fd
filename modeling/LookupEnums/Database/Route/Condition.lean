import LookupEnums.Database.Route.Listing

/-! # Conditions

What the conditions of a selection say about single columns of its sources. A condition restricts a
column where it compares it with something that does not depend on the same source. Some restrictions
are not written but follow from a condition: that a column is not empty, or starts with a text. -/

namespace LookupEnums.Route
open Sql

inductive Test
  | equal
  | same
  | empty
  /-- Equal to one of so many data. -/
  | oneOf (count : Nat)
  | above
  | below
  /-- Not empty. -/
  | present
  /-- Between the least and the greatest text that starts with a given one. -/
  | startingWith
  deriving DecidableEq, Repr

namespace Test

def isEquality (t : Test) : Bool :=
  t = equal || t = same

/-- Whether all rows that pass share the data of the column, or few of them. -/
def isFixing : Test → Bool
  | equal | same | empty | oneOf _ => true
  | _ => false

end Test

structure Restriction where
  source : Nat
  place : Place
  test : Test
  /-- The sources that the column is compared with. -/
  needs : List Nat := []
  collation : Collation := .exact
  /-- The affinity of the comparison, if it has one. -/
  affinity : Option Affinity := none
  /-- How many powers of two the rows are taken to become fewer by, in tenths. -/
  reduction : Int := 0

structure Condition where
  id : Nat := 0
  /-- The condition it follows from, if it is not written. -/
  parent : Option Nat := none
  expr : Expr
  sources : List Nat
  /-- The source it joins, where rows without a partner are kept. -/
  joins : Option Nat := none
  restriction : Option Restriction := none
  /-- Lists of conditions of which one has to hold. -/
  alternatives : List (List Condition) := []

namespace Restriction

/-- Whether a part of a key is in the order that the test goes by. -/
def suits (r : Restriction) (p : KeyPart) : Bool :=
  p.place = some r.place &&
    (r.place = .rowNumber || r.test = .empty || r.test = .present ||
      (r.collation = p.collation && isSuited p.affinity))
where
  isSuited (a : Affinity) : Bool :=
    match r.affinity with
    | none | some .unchanged => true
    | some .text => a = .text
    | some _ => Expr.isNumeric a

end Restriction

namespace SourceShape

def locate? (sources : List SourceShape) (table : Option String) (name : String) :
    Option (Nat × Place) :=
  let inReach := sources.zipIdx.filter fun (s, _) => table.all (sameName s.name)
  (inReach.findSome? fun (s, k) => (s.place? name).map (k, ·)).or
    (inReach.findSome? fun (s, k) => (s.rowNumber? name).map (k, ·))

def mentioned (sources : List SourceShape) (e : Expr) : List Nat :=
  (e.mentions.filterMap fun (table, name) => (locate? sources table name).map (·.1)).eraseDups

def placeOf? (sources : List SourceShape) (e : Expr) : Option (Nat × Place) :=
  match e.withoutCollation with
  | .column table name _ => locate? sources table name
  | _ => none

def scope (sources : List SourceShape) : Scope :=
  sources.map (·.blank)

end SourceShape

namespace Condition
open SourceShape

def testsOf : BinaryOp → Option (Test × Test)
  | .equal => some (.equal, .equal)
  | .same => some (.same, .same)
  | .less | .atMost => some (.below, .above)
  | .greater | .atLeast => some (.above, .below)
  | _ => none

/-- The column at `e`, restricted by what depends on `needs`; nothing if that is the same source. -/
def restrict? (sources : List SourceShape) (e : Expr) (needs : List Nat) (r : Restriction) :
    Option Restriction :=
  (placeOf? sources e).bind fun (source, place) =>
    if needs.contains source then none else some { r with source, place, needs }

/-- Numbers next to zero are taken to be more common than others. -/
def reductionOf (test : Test) (other : Expr) : Int :=
  if !test.isEquality then 0
  else match other with
    | .literal (.int i) => if i.natAbs ≤ 1 then 10 else 20
    | _ => 20

def fixedStart (signs : List Char) (pattern : String) : String :=
  String.ofList (pattern.toList.takeWhile fun c => !signs.contains c)

/-- Whether a pattern restricts a column to texts that start alike. What could be a number is no such
start, unless the column prefers texts. -/
def hasStart (sources : List SourceShape) (e : Expr) (signs : List Char) (pattern : String) : Bool :=
  let start := fixedStart signs pattern
  !start.isEmpty && (e.affinity? (scope sources) = some .text || !mayBeNumber start.toList)
where
  mayBeNumber (s : List Char) : Bool :=
    s == ['-'] || (Affinity.number? s).isSome
      || (Affinity.number? (s.dropLast ++ (s.getLast?.map fun c => Char.ofNat (c.toNat + 1)).toList)).isSome

def nestedCount : Nat := 25

def restrictions (sources : List SourceShape) (e : Expr) :
    Option Restriction × List Restriction :=
  let s := scope sources
  match e with
  | .binary .same a (.literal .null) =>
    (restrict? sources a [] ⟨0, .rowNumber, .empty, [], .exact, none, 0⟩, [])
  | .binary .different a (.literal .null) =>
    (none, (restrict? sources a [] ⟨0, .rowNumber, .present, [], .exact, none, 0⟩).toList)
  | .binary op a b =>
    match testsOf op with
    | none => (none, [])
    | some (test, flipped) =>
      let collation := Expr.comparison s a b
      let affinity := Expr.comparedBy (b.affinity? s) (a.affinity? s)
      let direct := restrict? sources a (mentioned sources b)
        ⟨0, .rowNumber, test, [], collation, affinity, reductionOf test b⟩
      let turned := restrict? sources b (mentioned sources a)
        ⟨0, .rowNumber, flipped, [], collation, affinity, reductionOf flipped a⟩
      match direct with
      | some r => (some r, turned.toList)
      | none => (turned, [])
  | .oneOf a items =>
    let needs := (items.flatMap (mentioned sources)).eraseDups
    let collation := ((a.collation? s).map (·.2)).getD .exact
    (restrict? sources a needs ⟨0, .rowNumber, .oneOf items.length, [], collation, a.affinity? s, 0⟩,
      [])
  | .among a _ shape =>
    let needs := ((shape.outside.filterMap fun (table, name) => locate? sources table name).map
      (·.1)).eraseDups
    let collation := ((a.collation? s).map (·.2)).getD .exact
    let affinity := Expr.comparedBy shape.affinity (a.affinity? s)
    (restrict? sources a needs
      ⟨0, .rowNumber, .oneOf nestedCount, [], collation, affinity, 0⟩, [])
  | .call function [.literal (.text pattern), a] =>
    let (signs, collation) :=
      if function = "like" then (['%', '_'], Collation.caseless) else (['*', '?', '['], .exact)
    if ["like", "glob"].contains function && hasStart sources a signs pattern then
      (none, (restrict? sources a []
        ⟨0, .rowNumber, .startingWith, [], collation, a.affinity? s, 0⟩).toList)
    else (none, [])
  | _ => (none, [])

/-- Tests of one column for single data, of which one has to be passed, are one test for several. -/
def oneOfAll? (sources : List SourceShape) (parts : List Expr) : Option Restriction := do
  let s := scope sources
  let found ← parts.mapM fun e => do
    let r ← (restrictions sources e).1
    match e with
    | .binary .equal a b =>
      let own := (a, b)
      let (c, other) := if (placeOf? sources a) = some (r.source, r.place) then own else (b, a)
      if (other.affinity? s).all (some · == c.affinity? s) then some (r, c) else none
    | _ => none
  let (r, c) ← found.head?
  if found.all fun (q, _) => q.source = r.source && q.place = r.place then
    let needs := (found.flatMap fun (q, _) => q.needs).eraseDups
    let collation := ((c.collation? s).map (·.2)).getD .exact
    return { r with test := .oneOf parts.length, needs, collation, affinity := c.affinity? s,
                    reduction := 0 }
  else none

/-- Conditions in their order, and after them those that follow, of the last condition first. -/
def numbered (written : List (Condition × List Condition)) : List Condition :=
  let base := written.zipIdx.map fun ((c, _), id) => { c with id }
  let derived := (written.zipIdx.reverse.flatMap fun ((_, more), id) =>
    more.map fun c => { c with parent := some id }).zipIdx
  base ++ derived.map fun (c, k) => { c with id := base.length + k }

def mayBeEmpty (sources : List SourceShape) (e : Expr) : Bool :=
  match e.withoutCollation with
  | .column table name _ => match locate? sources table name with
    | some (k, place) => match sources[k]? with
      | some s => s.join = .outer || (place ≠ .rowNumber && !isRequired s name)
      | none => true
    | none => true
  | _ => true
where
  isRequired (s : SourceShape) (name : String) : Bool :=
    s.columns.any fun c => sameName c.name name && c.notNull

def settled (sources : List SourceShape) (e : Expr) : Expr :=
  match e with
  | .binary .same a (.literal .null) =>
    if mayBeEmpty sources a then e else .literal (.int 0)
  | .binary .different a (.literal .null) =>
    if mayBeEmpty sources a then e else .literal (.int 1)
  | e => e

def ofExpr (sources : List SourceShape) (joins : Option Nat) :
    (depth : Nat) → Expr → Condition × List Condition
  | 0, e => ({ expr := e, sources := mentioned sources e, joins }, [])
  | depth + 1, e =>
    let before := (joins.map List.range).getD []
    let all := ((mentioned sources e) ++ joins.toList).eraseDups
    let withBefore (r : Restriction) : Restriction :=
      { r with needs := (r.needs ++ before).eraseDups }
    let plain : Condition := { expr := e, sources := all, joins }
    let parts := e.disjuncts
    let (written, derived) :=
      if 1 < parts.length then (none, (oneOfAll? sources parts).toList)
      else restrictions sources e
    let alternatives :=
      if 1 < parts.length then
        parts.map fun p => numbered (p.conjuncts.map (ofExpr sources joins depth))
      else []
    ({ plain with restriction := written.map withBefore, alternatives },
      derived.map fun r => { plain with restriction := some (withBefore r) })

def alternativeDepth : Nat := 4

/-- All conditions of a selection: those that it states by itself, then those that its sources are
joined by. -/
def all (sources : List SourceShape) (stated : List (Option Nat × Expr)) : List Condition :=
  numbered <| stated.flatMap fun (joins, e) =>
    e.conjuncts.map fun part => ofExpr sources joins alternativeDepth (settled sources part)

def located (sources : List (Nat × SourceShape)) (e : Expr) : Expr :=
  e.replaced fun table name =>
    (locate? (sources.map (·.2)) table name).map fun (k, place) =>
      let source := ((sources[k]?).map (·.1)).getD k
      match place with
      | .rowNumber => .column (some (toString source)) "rowid" false
      | .column name => .column (some (toString source)) name false

def provesPresent (x e : Expr) : Bool :=
  e.isLike x || match e with
    | .oneOf a _ => provesPresent x a
    | .binary op a b => operators.contains op && (provesPresent x b || provesPresent x a)
    | .collated a _ | .unary _ a => provesPresent x a
    | _ => false
where
  operators : List BinaryOp :=
    [.equal, .unequal, .less, .atMost, .greater, .atLeast, .add, .subtract, .multiply, .divide,
      .remainder, .bitAnd, .bitOr, .shiftLeft, .shiftRight, .concat]

def implies (e goal : Expr) : Bool :=
  goal.disjuncts.any fun g => e.isLike g || match g with
    | .binary .different x (.literal .null) => provesPresent x e
    | _ => false

/-- Whether a condition on the rows of a source by itself is known to hold. -/
def isKnown (sources : List SourceShape) (conditions : List Condition) (source : Nat) (e : Expr) :
    Bool :=
  match sources[source]? with
  | none => false
  | some s =>
    let usable := conditions.filter fun c =>
      c.parent.isNone && (c.joins.isNone || c.joins = some source)
        && (s.join ≠ .outer || c.joins.isSome)
    let known := usable.map fun c => located (sources.zipIdx.map fun (s, k) => (k, s)) c.expr
    e.conjuncts.all fun part => known.any (implies · (located [(source, s)] part))

/-- The restriction of a source that a condition makes, as far as it may be used there: a source that
keeps rows without a partner is only restricted by the conditions that join it. -/
def restrictionOf? (sources : List SourceShape) (source : Nat) (c : Condition) :
    Option Restriction := do
  let r ← c.restriction
  let s ← sources[source]?
  if r.source = source && !r.needs.contains source
      && (s.join ≠ .outer || c.joins = some source) then some r else none

end Condition

end LookupEnums.Route
