import LookupEnums.Database.Datum
import LookupEnums.Database.Image
import LookupEnums.Database.Index
import LookupEnums.Database.Virtual
import LookupEnums.Sql.Selection

/-! # Contents of database files

A catalog lists what a database holds, with the statement that made each thing and the page where its
rows start. In a file, the catalog starts on the first page and can itself be read as a table.

A record starts with the kinds of its values: null, whole numbers of some bytes, a double, zero and
one, and bytes or texts of some length. The values follow in the same order.
-/

namespace LookupEnums

def Binary64.ofBits (n : Nat) : Binary64 :=
  let negative : Bool := n / Nat.pow 2 63 % 2 == 1
  let exponent : Nat := n / Nat.pow 2 52 % Nat.pow 2 11
  let fraction : Nat := n % Nat.pow 2 52
  if exponent = 2047 then (if fraction = 0 then .infinite negative else .nan)
  else if exponent = 0 then .finite negative fraction lowestExponent
  else .finite negative (Nat.pow 2 52 + fraction) ((exponent : Int) - 1075)

namespace Record

def sizeOf (kind : Nat) : Nat :=
  if kind ≤ 4 then kind
  else if kind = 5 then 6
  else if kind ≤ 7 then 8
  else if kind < 12 then 0
  else (kind - 12) / 2

def textOf (e : Text.Encoding) (content : List UInt8) : Datum :=
  match e.decode? content with
  | some s => .text s
  | none => .garbled content

def datum? (e : Text.Encoding) (b : ByteArray) (start kind : Nat) : Option Datum :=
  let size := sizeOf kind
  if kind = 0 then some .null
  else if kind ≤ 6 then (Image.number? b start size).map fun n => .int (Image.signed (8 * size) n)
  else if kind = 7 then (Image.number? b start 8).map fun n => .ofReal (.ofBits n)
  else if kind ≤ 9 then some (.int (kind - 8))
  else if kind < 12 || b.size < start + size then none
  else
    let content := (b.extract start (start + size)).toList
    some (if kind % 2 = 0 then .blob content else textOf e content)

def kinds? (b : ByteArray) (finish : Nat) : (room start : Nat) → Option (List Nat)
  | 0, _ => none
  | room + 1, start =>
    if finish ≤ start then some []
    else do
      let (kind, start) ← Image.compact? b start
      let rest ← kinds? b finish room start
      return kind :: rest

def dataFrom? (e : Text.Encoding) (b : ByteArray) : (start : Nat) → List Nat → Option (List Datum)
  | _, [] => some []
  | start, kind :: kinds => do
    let d ← datum? e b start kind
    let data ← dataFrom? e b (start + sizeOf kind) kinds
    return d :: data

def data? (e : Text.Encoding) (b : ByteArray) : Option (List Datum) := do
  let (finish, start) ← Image.compact? b 0
  let kinds ← kinds? b finish (finish + 1) start
  dataFrom? e b finish kinds

end Record

open Sql

structure CatalogEntry where
  kind : String
  name : String
  table : String
  root : Int
  statement : Option String

namespace CatalogEntry

def data (e : CatalogEntry) : List Datum :=
  [.text e.kind, .text e.name, .text e.table, .int e.root,
    (e.statement.map Datum.text).getD .null]

def ofData? : List Datum → Option CatalogEntry
  | [.text kind, .text name, .text table, .int root, .text statement] =>
    some ⟨kind, name, table, root, some statement⟩
  | [.text kind, .text name, .text table, .int root, .null] => some ⟨kind, name, table, root, none⟩
  | _ => none

def catalogNames : List String := ["sqlite_master", "sqlite_schema"]

def catalogStatement : String :=
  "CREATE TABLE x(type text,name text,tbl_name text,rootpage int,sql text)"

def tables (entries : List CatalogEntry) : List StoredTable :=
  catalogNames.filterMap fun name =>
    StoredTable.ofStatement? name catalogStatement (entries.map data)

def indexesOf (entries : List CatalogEntry) (table : String) : List IndexDefinition :=
  entries.filterMap fun e =>
    if e.kind = "index" && sameName e.table table then e.statement.bind IndexDefinition.ofStatement?
    else none

end CatalogEntry

namespace StoredTable

/-- The columns of a record in their order: without row numbers those of the primary key go first. -/
def recordColumns (t : StoredTable) : List DeclaredColumn :=
  let stored := t.columns.filter (·.isStored)
  if t.definition.hasRowNumbers then stored
  else
    let primary := ((t.definition.keys.find? (·.primary)).map (·.columns)).getD []
    let names := (primary.filterMap (·.columnName?)).filterMap fun n =>
      (stored.find? fun c => sameName c.name n).map (·.name)
    let names := names.eraseDups
    names.filterMap (fun n => stored.find? (·.name = n))
      ++ stored.filter fun c => !names.contains c.name

/-- The datum of a column as it comes out of a record: row numbers are not stored again, and real
numbers may be stored as whole ones. -/
def datumOf (number : Int) (stored : List (String × Datum)) (c : DeclaredColumn) : Datum :=
  if c.isRowNumber then .int number
  else
    let d := (stored.lookup c.name).getD c.default
    if c.affinity = .real then
      match d with
      | .int i => .real (.ofInt i)
      | d => d
    else d

def rowOf (t : StoredTable) (number : Int) (data : List Datum) : StoredRow :=
  let stored := (t.recordColumns.map (·.name)).zip data
  ⟨number, t.columns.map (datumOf number stored)⟩

def rowsOf (make : α → Option StoredRow) : List α → List StoredRow × Bool
  | [] => ([], true)
  | a :: rest => match make a with
    | some row =>
      let (rows, isWhole) := rowsOf make rest
      (row :: rows, isWhole)
    | none => ([], false)

def readRows (img : Image) (root : Nat) (t : StoredTable) : StoredTable :=
  let (rows, isWhole) :=
    if t.definition.hasRowNumbers then
      let (records, isWhole) := img.numberedRecords root
      let (rows, areWhole) := rowsOf (fun (n, b) =>
        (Record.data? img.encoding b).map (t.rowOf n)) records
      (rows, isWhole && areWhole)
    else
      let (records, isWhole) := img.unnumberedRecords root
      let (rows, areWhole) := rowsOf (fun b =>
        (Record.data? img.encoding b).map (t.rowOf 0)) records
      (rows, isWhole && areWhole)
  { t with rows, isWhole }

end StoredTable

namespace Database

/-- Adds what an entry of a catalog lists, other than virtual tables. -/
def withEntry (entries : List CatalogEntry) (img : Image) (db : Database) (e : CatalogEntry) :
    Database :=
  match e.kind, e.statement with
  | "table", some statement =>
    match TableDefinition.ofStatement? statement with
    | some definition =>
      let indexes := CatalogEntry.indexesOf entries e.name
      let t : StoredTable := { name := e.name, definition, indexes }
      { db with tables := db.tables ++ [t.readRows img e.root.toNat] }
    | none => match VirtualTable.ofStatement? statement with
      | some _ => db
      | none => { db with unreadable := db.unreadable ++ [e.name] }
  | "view", some statement =>
    match View.ofStatement? e.name statement with
    | some v => { db with views := db.views ++ [v] }
    | none => { db with unreadable := db.unreadable ++ [e.name] }
  | _, _ => db

def virtualTables (entries : List CatalogEntry) : List VirtualTable :=
  (entries.filter (·.kind = "table")).filterMap fun e =>
    e.statement.bind VirtualTable.ofStatement?

/-- The database in a file; an empty file is an empty one. Virtual tables are added when the tables
are there that keep their rows. -/
def ofBytes? (b : ByteArray) : Option Database :=
  if b.isEmpty then some { tables := CatalogEntry.tables [] }
  else do
    let img ← Image.ofBytes? b
    let (records, isWhole) := img.numberedRecords 1
    let entries ← records.mapM fun (_, r) =>
      (Record.data? img.encoding r).bind CatalogEntry.ofData?
    if isWhole then
      let db := entries.foldl (withEntry entries img) { tables := CatalogEntry.tables entries }
      some ((virtualTables entries).foldl (fun db v => v.addTo db) db)
    else none

def entriesOf (root : Int) (statement : String) (t : StoredTable) : List CatalogEntry :=
  ⟨"table", t.name, t.name, root, some statement⟩ ::
    (t.keyIndexes.zipIdx.map fun (_, n) =>
      ⟨"index", s!"sqlite_autoindex_{t.name}_{n + 1}", t.name, root + n + 1, none⟩)

/-- The database that is made of tables one after the other, each by a request of columns and with
rows in the order they are added. -/
def ofTables (requests : List (String × List ColumnRequest × List (List Datum))) : Database :=
  let made := requests.filterMap fun (name, columns, rows) =>
    let statement := ColumnRequest.statement name columns
    (StoredTable.ofStatement? name statement rows).map fun t => (t, statement)
  let entries := made.foldl (fun entries (t, statement) =>
    entries ++ entriesOf (entries.length + 2) statement t) []
  { tables := CatalogEntry.tables entries ++ made.map (·.1) }

end Database

end LookupEnums
