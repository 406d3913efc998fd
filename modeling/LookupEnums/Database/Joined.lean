import LookupEnums.Database.Basic
import LookupEnums.Database.Route.Choice

/-! # Joined rows

The rows of the sources of a selection, joined along a route: for each row so far, those of the next
source in the order of its access that fulfil the conditions that can be judged by then. -/

namespace LookupEnums
open Sql Route

structure SourceRows where
  shape : SourceShape
  rows : List StoredRow
  isWhole : Bool

namespace SourceRows

/-- The rows of a table; those that have no number get one. -/
def ofTable (t : StoredTable) (name : String) : SourceRows :=
  let rows := t.rows.map t.completed
  { shape := { name, columns := t.columns.map (·.toColumn), table := some t }
    rows := if t.definition.hasRowNumbers then rows
      else rows.zipIdx.map fun (r, k) => { r with number := k }
    isWhole := t.isWhole }

def ofRelation (r : Relation) (name : String) : SourceRows :=
  { shape := { name, columns := r.columns }
    rows := r.rows.zipIdx.map fun (data, k) => ⟨k, data⟩
    isWhole := r.isWhole }

def binding (s : SourceRows) (row : StoredRow) : Binding :=
  match s.shape.table with
  | some t => t.binding s.shape.name row
  | none => { table := s.shape.name, columns := s.shape.columns, data := row.data }

/-- The columns by which an index orders rows that is made for some equalities: those that are needed
besides. -/
def preparedColumns (s : SourceRows) (q : Search) (source : Nat) : List String :=
  let needed : List String := match s.shape.table with
    | some t => (t.needed s.shape.used).map fun (c : DeclaredColumn) => c.name
    | none => (s.shape.columns.map fun (c : Column) => c.name).filter fun n => s.shape.used.any (sameName n)
  let equal := q.conditions.filterMap fun c =>
    (Condition.restrictionOf? q.sources source c).bind fun r =>
      if r.test.isEquality then some r.place else none
  needed.filter fun n => !equal.contains (.column n)

def listed (s : SourceRows) (l : Listing) : List StoredRow :=
  match s.shape.table, l.index with
  | some t, some i =>
    if l.isPrimary then s.rows else s.rows.mergeSort fun a b => t.indexOrder i a b != .gt
  | _, _ => s.rows

def prepared (s : SourceRows) (q : Search) (source : Nat) : List StoredRow :=
  let names := s.preparedColumns q source
  let key (row : StoredRow) : List Datum :=
    ((s.shape.columns.zip row.data).filter fun (c, _) => names.contains c.name).map (·.2)
  let order (a b : StoredRow) : Ordering :=
    ((key a).zipWith (fun x y => x.order .exact y) (key b)).foldl Ordering.then .eq
  s.rows.mergeSort fun a b => order a b != .gt

/-- The rows in the order of an access. Those of alternatives come one after the other, each with the
conditions of which its rows fulfil all. -/
def along (s : SourceRows) (q : Search) (a : Access) (isReversed : Bool) :
    List (List StoredRow × List Condition) :=
  let turned (rows : List StoredRow) : List StoredRow := if isReversed then rows.reverse else rows
  match a.way with
  | .listed l => [(turned (s.listed l), [])]
  | .prepared => [(turned (s.prepared q a.source), [])]
  | .alternatives choices => choices.map fun conditions =>
    let others := q.conditions.filter fun c => c.alternatives.isEmpty
    let q := { q with conditions := conditions ++ others, helpful := [] }
    let rows := match (Search.cheapest? (q.throughListings a.source [])).bind (·.listing?) with
      | some l => s.listed l
      | none => s.rows
    (rows, conditions.filter (·.parent.isNone))

end SourceRows

abbrev Joining := List (Nat × Binding)

abbrev Judge := Scope → Expr → Option Datum

namespace Joining

def scope (j : Joining) : Scope :=
  j.map (·.2)

def insert (source : Nat) (b : Binding) : Joining → Joining
  | [] => [(source, b)]
  | (k, c) :: rest => if source < k then (source, b) :: (k, c) :: rest else (k, c) :: insert source b rest

section

variable (judge : Judge)

def fulfils? (j : Joining) (conditions : List Condition) : Option Bool :=
  conditions.foldlM (fun holds c =>
    if holds then (judge j.scope c.expr).map (·.holds) else some false) true

/-- One row after another, each once, that fulfils all conditions together with the rows so far. -/
def partners? (j : Joining) (s : SourceRows) (source : Nat) (conditions : List Condition)
    (parts : List (List StoredRow × List Condition)) : Option (List Joining) := do
  let found ← parts.foldlM (fun (found : List (Int × Joining)) (rows, more) => do
    let fresh := rows.filter fun r => !found.any (·.1 = r.number)
    let joined ← fresh.filterMapM fun r => do
      let k := j.insert source (s.binding r)
      return if ← fulfils? judge k (conditions ++ more) then some (r.number, k) else none
    return found ++ joined) []
  return found.map (·.2)

def step? (q : Search) (sources : List SourceRows) (visited : List Nat) (joined : List Joining)
    (st : Route.Step) : Option (List Joining) := do
  let source := st.access.source
  let s ← sources[source]?
  let parts := s.along q st.access st.isReversed
  let written := q.conditions.filter (·.parent.isNone)
  let joining := written.filter (·.joins = some source)
  let judged := written.filter fun c =>
    c.joins.isNone && c.sources.contains source
      && c.sources.all fun k => k = source || visited.contains k
  let lists ← joined.mapM fun j =>
    if s.shape.join = .outer then do
      let found ← partners? judge j s source joining parts
      let found := if found.isEmpty then [j.insert source s.shape.blank] else found
      found.filterMapM fun k => do return if ← fulfils? judge k judged then some k else none
    else partners? judge j s source judged parts
  return lists.flatten

def along? (q : Search) (sources : List SourceRows) (steps : List Route.Step) : Option (List Scope) := do
  let constant := (q.conditions.filter (·.parent.isNone)).filter fun c => c.sources.isEmpty
  let start : List Joining := if ← fulfils? judge [] constant then [[]] else []
  let (_, joined) ← steps.foldlM (fun (visited, joined) st => do
    let joined ← step? judge q sources visited joined st
    return (visited ++ [st.access.source], joined)) ([], start)
  return joined.map (·.scope)

end

end Joining

end LookupEnums
