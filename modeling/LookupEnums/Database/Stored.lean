import LookupEnums.Sql.TableReading

/-! # Stored tables

What a database file holds of a table: its definition, its indexes in the order they were made, and
its rows in the order of their numbers. Computed data are filled in when the rows are read. -/

namespace LookupEnums

structure StoredRow where
  number : Int
  data : List Datum

structure StoredTable where
  name : String
  definition : Sql.TableDefinition
  indexes : List Sql.IndexDefinition := []
  rows : List StoredRow := []
  /-- Whether the rows could be read to the end. -/
  isWhole : Bool := true

namespace StoredTable

def isNamed (name : String) (t : StoredTable) : Bool :=
  Sql.sameName t.name name

def columns (t : StoredTable) : List DeclaredColumn :=
  t.definition.columns

def binding (t : StoredTable) (called : String) (row : StoredRow) : Sql.Binding :=
  { table := called
    columns := t.columns.map (·.toColumn)
    data := row.data
    number := if t.definition.hasRowNumbers then some row.number else none }

def nextNumber (t : StoredTable) : Int :=
  match t.rows.getLast? with
  | some row => row.number + 1
  | none => 1

/-- The number a new row asks for. -/
def askedNumber? : List (DeclaredColumn × Datum) → Option Int
  | [] => none
  | (c, .int i) :: rest => if c.isRowNumber then some i else askedNumber? rest
  | _ :: rest => askedNumber? rest

def insertInOrder (row : StoredRow) : List StoredRow → List StoredRow
  | [] => [row]
  | first :: rest =>
    if row.number < first.number then row :: first :: rest
    else first :: insertInOrder row rest

def insert (t : StoredTable) (data : List Datum) : StoredTable :=
  let stored := t.columns.zip data |>.map fun (c, d) => (c, c.affinity.store d)
  let number := (askedNumber? stored).getD t.nextNumber
  let shown := stored.map fun (c, d) => if c.isRowNumber then .int number else d
  { t with rows := insertInOrder ⟨number, shown⟩ t.rows }

def ofStatement? (name statement : String) (rows : List (List Datum)) : Option StoredTable :=
  (Sql.TableDefinition.ofStatement? statement).map fun definition =>
    rows.foldl insert { name, definition }

def withComputed (t : StoredTable) (row : StoredRow) (c : DeclaredColumn) : StoredRow :=
  match c.computed with
  | some ⟨expr, false⟩ =>
    let value := (expr.plainValue? [t.binding t.name row]).getD .null
    { row with data := (t.columns.zip row.data).map fun (k, d) =>
      if k.name = c.name then c.affinity.store value else d }
  | _ => row

/-- A row with its computed data. A column may be computed from later ones, so all are gone through
as often as there are columns. -/
def completed (t : StoredTable) (row : StoredRow) : StoredRow :=
  let computed := t.columns.filter (!·.isStored)
  computed.foldl (fun row _ => computed.foldl t.withComputed row) row

end StoredTable

structure ColumnRequest where
  name : String
  declared : Option String := none
  key : Bool := false
  notNull : Bool := false

namespace ColumnRequest

def inQuotes (name : String) : String :=
  "\"" ++ String.ofList (Text.replaceAll ['"'] ['"', '"'] name.toList) ++ "\""

def text (c : ColumnRequest) : String :=
  " ".intercalate ([inQuotes c.name] ++ c.declared.toList
    ++ (if c.key then ["PRIMARY KEY"] else []) ++ (if c.notNull then ["NOT NULL"] else []))

def statement (table : String) (columns : List ColumnRequest) : String :=
  s!"CREATE TABLE {inQuotes table} (" ++ ", ".intercalate (columns.map text) ++ ")"

end ColumnRequest

end LookupEnums
