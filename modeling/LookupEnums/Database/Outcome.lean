import LookupEnums.Database.Basic

/-! # Rows of results

The rows of a selection: sorted by results or by other expressions, without repeats, and combined
with the rows of another one. -/

namespace LookupEnums
open Sql

structure OutcomeRow where
  data : List Datum
  scope : Scope
  group : Option (List Scope)

namespace OutcomeRow

/-- Rows in the order of keys, each with a collation and a direction; rows with equal keys stay in their
order. -/
def sortedBy (keys : List (Collation × Bool)) (keyed : List (List Datum × OutcomeRow)) :
    List OutcomeRow :=
  let order (a b : List Datum × OutcomeRow) : Ordering :=
    ((keys.zip (a.1.zip b.1)).map fun ((c, descending), x, y) =>
      if descending then (x.order c y).swap else x.order c y).foldl Ordering.then .eq
  (keyed.mergeSort fun a b => order a b != .gt).map (·.2)

/-- The column that combined rows are sorted by: by its number or its name. -/
def sortColumn? (columns : List Column) (c : IndexedColumn) : Option Nat :=
  match c.expr with
  | .literal (.int i) => if 1 ≤ i then some (i - 1).toNat else none
  | .column none name _ => columns.findIdx? fun k => sameName k.name name
  | _ => none

def sorted? (columns : List Column) (orderBy : List IndexedColumn) (rows : List OutcomeRow) :
    Option (List OutcomeRow) := do
  let places ← orderBy.mapM (sortColumn? columns)
  let chosen ← places.mapM fun k => columns[k]?
  let keys := (orderBy.zip chosen).map fun (c, k) => (c.collation.getD k.collation, c.descending)
  return sortedBy keys (rows.map fun row => (places.map fun k => row.data.getD k .null, row))

def sameData (columns : List Column) (a b : OutcomeRow) : Bool :=
  (columns.zip (a.data.zip b.data)).all fun (c, x, y) => x.order c.collation y == .eq

def withoutRepeats (columns : List Column) : List OutcomeRow → List OutcomeRow
  | [] => []
  | row :: rest => row :: (withoutRepeats columns rest).filter (!sameData columns row ·)

def byData (columns : List Column) (rows : List OutcomeRow) : List OutcomeRow :=
  rows.mergeSort fun a b =>
    ((columns.zip (a.data.zip b.data)).map fun (c, x, y) => x.order c.collation y).foldl
      Ordering.then .eq != .gt

def combine (columns : List Column) (c : Combination) (a b : List OutcomeRow) : List OutcomeRow :=
  match c with
  | .unionAll => a ++ b
  | .union => byData columns (withoutRepeats columns (a ++ b))
  | .except =>
    byData columns (withoutRepeats columns (a.filter fun x => !b.any (sameData columns x)))
  | .intersection =>
    byData columns (withoutRepeats columns (a.filter fun x => b.any (sameData columns x)))

end OutcomeRow

end LookupEnums
