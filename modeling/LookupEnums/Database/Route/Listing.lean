import LookupEnums.Database.Index
import LookupEnums.Sql.Selection

/-! # Sources and their listings

A source of a selection is a table or a relation that was read before. The rows of a table are listed
by their number, or by the columns of an index. A listing says how many rows are expected to share the
first columns of its key. -/

namespace LookupEnums.Route
open Sql

inductive Place
  | rowNumber
  | column (name : String)
  deriving DecidableEq, Repr

structure SourceShape where
  name : String
  columns : List Column
  /-- Nothing for a relation that was read before. -/
  table : Option StoredTable := none
  join : JoinKind := .free
  /-- The columns that are needed. -/
  used : List String := []
  rows : Int := Estimate.tableRows

structure KeyPart where
  /-- Nothing where an expression is listed. -/
  place : Option Place
  affinity : Affinity := .unchanged
  collation : Collation := .exact
  descending : Bool := false
  notNull : Bool := false

structure Listing where
  /-- Nothing where the rows are listed by their number. -/
  index : Option IndexDefinition
  parts : List KeyPart
  keyLength : Nat
  isUnique : Bool
  /-- Whether the table itself is kept in this order. -/
  isPrimary : Bool
  covers : Bool
  /-- The size of an entry beside that of a row, in fifteenths. -/
  weight : Int
  /-- The expected number of rows, and of those that share one part of the key, two parts, … -/
  shares : List Int

namespace SourceShape

def place? (s : SourceShape) (name : String) : Option Place :=
  match s.table with
  | some t => (t.column? name).map fun c =>
    if c.isRowNumber then .rowNumber else .column c.name
  | none => (s.columns.find? fun c => sameName c.name name).map fun c => .column c.name

def rowNumber? (s : SourceShape) (name : String) : Option Place :=
  match s.table with
  | some t =>
    if t.definition.hasRowNumbers && Binding.rowNumberNames.any (sameName name) then some .rowNumber
    else none
  | none => none

def blank (s : SourceShape) : Binding :=
  { table := s.name, columns := s.columns, data := s.columns.map fun _ => .null }

end SourceShape

namespace Listing

/-- The rows that are expected to share so many parts of a key: ten, nine, and so on down to five,
and one where the whole key tells rows apart. -/
def defaultShares (rows : Int) (keyLength : Nat) (isUnique : Bool) : List Int :=
  let shares := (([33, 32, 30, 28, 27] : List Int) ++ List.replicate keyLength 23).take keyLength
  rows :: (if isUnique then shares.dropLast ++ [0] else shares)

def byNumber (s : SourceShape) : Listing :=
  { index := none, parts := [{ place := some .rowNumber, notNull := true }], keyLength := 1
    isUnique := true, isPrimary := false, covers := true, weight := 15, shares := [s.rows, 0] }

def partOf (t : StoredTable) (c : IndexedColumn) : KeyPart :=
  match t.indexed? c with
  | some k =>
    { place := some (if k.isRowNumber then .rowNumber else .column k.name), affinity := k.affinity
      collation := t.collationOf c, descending := c.descending
      notNull := k.notNull || k.isRowNumber }
  | none => { place := none, collation := t.collationOf c, descending := c.descending }

def ofIndex (s : SourceShape) (t : StoredTable) (i : IndexDefinition) : Listing :=
  let number : List KeyPart :=
    if t.definition.hasRowNumbers then [{ place := some .rowNumber, notNull := true }] else []
  let isPrimary := t.isPrimaryIndex i
  { index := some i, parts := (t.heldColumns i).map (partOf t) ++ number
    keyLength := i.columns.length, isUnique := i.isUnique, isPrimary
    covers := isPrimary || t.covers i s.used
    weight := 15 * t.indexSize i / t.size
    shares := defaultShares (s.rows - if i.condition.isSome then 10 else 0) i.columns.length
      i.isUnique }

/-- The listings of a source, that by row number first; `holds` tells which conditions of indexes are
known to hold. -/
def all (holds : Expr → Bool) (s : SourceShape) : List Listing :=
  match s.table with
  | none => [byNumber s]
  | some t =>
    (if t.definition.hasRowNumbers then [byNumber s] else [])
      ++ (t.allIndexes.filter fun i => i.condition.all holds).map (ofIndex s t)

def isStrictlyUnique (l : Listing) : Bool :=
  l.isUnique && (l.parts.take l.keyLength).all (·.notNull)

end Listing

end LookupEnums.Route
