import LookupEnums.Database.Stored

/-! # Indexes of tables

Which indexes a table has, the columns they hold data of, how large they are beside the table, and the
order they put rows in. Sizes are estimated from the declared types.

Numbers of rows and costs are compared by ten times their logarithm to base two, rounded. The product
of two numbers is then the sum of their estimates.
-/

namespace LookupEnums.Estimate

def halved : (room n : Nat) → (tens : Nat) → Nat × Nat
  | 0, n, tens => (n, tens)
  | room + 1, n, tens => if n < 16 then (n, tens) else halved room (n / 2) (tens + 10)

/-- The estimate of a number, rounded down by eighths of a power. -/
def ofNat (n : Nat) : Nat :=
  if n < 2 then 0
  else
    let (eighths, tens) := halved (8 * n).log2 (8 * n) 0
    tens + [0, 2, 3, 5, 6, 7, 8, 9].getD (eighths - 8) 0

def gains : List Int :=
  [10, 10, 9, 9, 8, 8, 7, 7, 7, 6, 6, 6, 5, 5, 5, 4, 4, 4, 4, 3, 3, 3, 3, 3, 3, 2, 2, 2, 2, 2, 2, 2]

def add (a b : Int) : Int :=
  let gap := max a b - min a b
  max a b + (if gap < gains.length then gains.getD gap.toNat 0 else if gap < 50 then 1 else 0)

def logarithm (a : Int) : Int :=
  if a ≤ 10 then 0 else ofNat a.toNat - 33

def tableRows : Int := 200

end LookupEnums.Estimate

namespace LookupEnums

namespace DeclaredColumn
open Text

def declaredLength? (word : String) (declared : List Char) : Option Nat :=
  (cut? word.toList declared).bind fun (_, after) =>
    readDecimal? ((after.dropWhile (!·.isDigit)).takeWhile Char.isDigit)

def sizeOfLength (length : Nat) : Nat :=
  min 255 (length / 4 + 1)

def defaultLength : Nat := 16

/-- The estimated size of a column. Texts and bytes without a length count as sixteen of them, and
characters without one as none. -/
def size (c : DeclaredColumn) : Nat :=
  let declared := (c.declared.getD "").toList.map Char.toUpper
  if declared.isEmpty then 1
  else match c.affinity with
    | .text =>
      if occursIn "CHAR".toList declared then
        sizeOfLength ((declaredLength? "CHAR" declared).getD 0)
      else sizeOfLength defaultLength
    | .unchanged =>
      if occursIn "BLOB(".toList declared then
        sizeOfLength ((declaredLength? "BLOB(" declared).getD 0)
      else sizeOfLength defaultLength
    | _ => 1

end DeclaredColumn

namespace StoredTable
open Sql

def column? (t : StoredTable) (name : String) : Option DeclaredColumn :=
  t.columns.find? fun c => sameName c.name name

def indexed? (t : StoredTable) (c : IndexedColumn) : Option DeclaredColumn :=
  c.columnName?.bind t.column?

def collationOf (t : StoredTable) (c : IndexedColumn) : Collation :=
  c.collation.getD (((t.indexed? c).map (·.collation)).getD .exact)

def columnMark (t : StoredTable) (c : IndexedColumn) : Option String × Collation :=
  ((t.indexed? c).map (·.name), t.collationOf c)

def keyMark (t : StoredTable) (i : IndexDefinition) : List (Option String × Collation) :=
  i.columns.map t.columnMark

def keyIndexes (t : StoredTable) : List IndexDefinition :=
  t.definition.keys.foldl (fun found k =>
    let origin : IndexOrigin := if k.primary then .primaryKey else .uniqueKey
    let i : IndexDefinition := { columns := k.columns, isUnique := true, origin }
    match found.findIdx? fun j => t.keyMark j == t.keyMark i with
    | some n => found.modify n fun j => if k.primary then { j with origin } else j
    | none => found ++ [i]) []

def primaryColumns (t : StoredTable) : List IndexedColumn :=
  ((t.definition.keys.find? (·.primary)).map (·.columns)).getD []

def isPrimaryIndex (t : StoredTable) (i : IndexDefinition) : Bool :=
  !t.definition.hasRowNumbers && i.origin = .primaryKey

/-- The columns of which an index holds the data. In a table without row numbers these are also those
of the primary key, whose own index holds all. -/
def heldColumns (t : StoredTable) (i : IndexDefinition) : List IndexedColumn :=
  let further :=
    if t.definition.hasRowNumbers then []
    else if t.isPrimaryIndex i then
      (t.columns.filter (·.isStored)).map fun c => { expr := .column none c.name false }
    else t.primaryColumns
  i.columns ++ further.filter fun c => !(t.keyMark i).contains (t.columnMark c)

def indexSize (t : StoredTable) (i : IndexDefinition) : Nat :=
  let sizes := (t.heldColumns i).map fun c => ((t.indexed? c).map (·.size)).getD 1
  Estimate.ofNat (4 * (sizes.foldl (· + ·) 0 + if t.definition.hasRowNumbers then 1 else 0))

def size (t : StoredTable) : Nat :=
  let unnumbered := if t.columns.any (·.isRowNumber) then 0 else 1
  Estimate.ofNat (4 * ((t.columns.map (·.size)).foldl (· + ·) 0 + unnumbered))

def needed (t : StoredTable) (used : List String) : List DeclaredColumn :=
  let found := t.columns.filter fun c => used.any (sameName c.name)
  (if found.any (·.computed.isSome) then t.columns else found).filter (!·.isRowNumber)

/-- Whether an index suffices for the columns that are used. That an index of a unique key also holds
the primary key is not made use of. -/
def covers (t : StoredTable) (i : IndexDefinition) (used : List String) : Bool :=
  let columns := if i.origin = .uniqueKey then i.columns else t.heldColumns i
  let held := (columns.filterMap t.indexed?).filter (·.isStored)
  (t.needed used).all fun c => held.any (·.name = c.name)

/-- The columns that order an index: those of its key, and without row numbers those of the primary
key, each upwards. -/
def orderColumns (t : StoredTable) (i : IndexDefinition) : List IndexedColumn :=
  if t.definition.hasRowNumbers || t.isPrimaryIndex i then i.columns
  else i.columns ++ t.primaryColumns.map fun c => { c with descending := false }

/-- The order of two rows in an index. -/
def indexOrder (t : StoredTable) (i : IndexDefinition) (a b : StoredRow) : Ordering :=
  ((t.orderColumns i).map fun c =>
    let x := (c.expr.plainValue? [t.binding t.name a]).getD .null
    let y := (c.expr.plainValue? [t.binding t.name b]).getD .null
    let order := x.order (t.collationOf c) y
    if c.descending then order.swap else order).foldl Ordering.then .eq

def allIndexes (t : StoredTable) : List IndexDefinition :=
  (t.keyIndexes ++ t.indexes).reverse

end StoredTable

end LookupEnums
