import LookupEnums.Mapping.Document
import LookupEnums.Text.Blank

/-! # The line format of mappings

A text of one entry a line: the kind of the database and its connection, then tables, each
followed by its directives and its columns. Blank lines and lines that start with `#` do not
count. Reading yields the configuration that is then checked as a document. -/

namespace LookupEnums.MappingLines
open Text

structure NumberedLine where
  number : Nat
  content : List Char
  deriving DecidableEq, Repr

def isComment (line : List Char) : Bool :=
  (stripStart line).head? = some '#'

def significant (text : List Char) : List NumberedLine :=
  ((lines text).zipIdx 1).filterMap fun (line, number) =>
    if isAllBlank line || isComment line then none else some ⟨number, strip line⟩

structure ColumnEntry where
  column : String
  accessor : Option String := none
  template : Option String := none
  returns : Option String := none
  deriving DecidableEq, Repr

/-- A table as its lines leave it; a later `key` or `label` line replaces an earlier one. -/
structure TableEntry where
  table : String
  typeName : String
  key : Option String := none
  label : Option String := none
  attributes : List String := []
  columns : List ColumnEntry := []
  deriving DecidableEq, Repr

structure Entries where
  kind : String
  connection : String
  tables : List TableEntry
  deriving DecidableEq, Repr

def colons : List Char := [':', ':']

def directiveHead (name : String) : List Char :=
  colons ++ name.toList ++ colons

def directive? (name : String) (line : List Char) : Option (List Char) :=
  let head := directiveHead name
  if head.isPrefixOf line then some (strip (line.drop head.length)) else none

def filled? (s : List Char) : Option String :=
  if isAllBlank s then none else some (String.ofList (strip s))

def asSeparator : List Char := " as ".toList

/-- A column line has up to three parts: the column with the name of its accessor, the template
and the type returned. -/
def readColumn (line : NumberedLine) : Except MappingError ColumnEntry :=
  let parts := pieces colons line.content
  if parts.length > 3 then
    .error ⟨s!"Line {line.number}: expected <column> as <function>::<expression>::<type>", none⟩
  else
    let (column, accessor) := cutOrAll asSeparator (parts.getD 0 [])
    .ok { column := String.ofList (strip column)
          accessor := filled? accessor
          template := filled? (parts.getD 1 [])
          returns := filled? (parts.getD 2 []) }

def readTable (spec : List Char) : TableEntry :=
  let (table, typeName) := cutOrAll asSeparator spec
  let table := String.ofList (strip table)
  { table, typeName := (filled? typeName).getD table }

def addLine (t : TableEntry) (line : NumberedLine) : Except MappingError TableEntry :=
  if !colons.isPrefixOf line.content then
    (readColumn line).map fun c => { t with columns := t.columns ++ [c] }
  else match directive? "key" line.content with
    | some s => .ok { t with key := some (String.ofList s) }
    | none =>
      match directive? "label" line.content with
      | some s => .ok { t with label := some (String.ofList s) }
      | none =>
        match directive? "attribute" line.content with
        | some s => .ok { t with attributes := t.attributes ++ [String.ofList s] }
        | none =>
          .error ⟨s!"Line {line.number}: unknown directive {String.ofList (quoted line.content)}",
            none⟩

/-- The tables of the lines after the connection; `current` is the one whose lines are read. -/
def readTables (current : Option TableEntry) :
    List NumberedLine → Except MappingError (List TableEntry)
  | [] => .ok current.toList
  | line :: rest =>
    match directive? "table" line.content with
    | some spec => do
      let tables ← readTables (some (readTable spec)) rest
      return current.toList ++ tables
    | none =>
      match current with
      | none => .error ⟨s!"Line {line.number}: expected a ::table:: line", none⟩
      | some t => do
        let t ← addLine t line
        readTables (some t) rest

/-- Without a `key` line the first column is the key, and is then no mapped column. Without a
`label` line the key is the label. -/
def complete (t : TableEntry) : Except MappingError TableEntry := do
  let t ← match t.key, t.columns with
    | some _, _ => pure t
    | none, [] =>
      throw ⟨"needs a ::key:: line or at least one column line", some t.table⟩
    | none, c :: columns => pure { t with key := some c.column, columns }
  return { t with label := t.label.or t.key }

def databaseHead : List Char := "::database".toList

def readKind (line : List Char) : Except MappingError String :=
  match (pieces colons line)[2]?.bind filled? with
  | some kind => .ok kind
  | none =>
    .error ⟨"Please specify ::database::<adapter>, where <adapter> is sqlite, sqlalchemy, etc.",
      none⟩

def readLines : List NumberedLine → Except MappingError Entries
  | [] => .error ⟨"Mapping must start with a ::database::<adapter> line", none⟩
  | first :: rest =>
    if !databaseHead.isPrefixOf first.content then
      .error ⟨"Mapping must start with a ::database::<adapter> line", none⟩
    else do
      let kind ← readKind first.content
      match rest with
      | [] => throw ⟨"Missing database connection string.", none⟩
      | connection :: rest =>
        if colons.isPrefixOf connection.content then
          throw ⟨"Missing database connection string.", none⟩
        else
          let tables ← readTables none rest
          let tables ← tables.mapM complete
          return ⟨kind, String.ofList connection.content, tables⟩

def read (text : String) : Except MappingError Entries :=
  readLines (significant text.toList)

def connectionField (kind : String) : String :=
  if kind = "sqlite" then "path" else "url"

def entry (key : String) (v : Value) : Value × Value :=
  (.text key, v)

def optionalEntry (key : String) : Option String → List (Value × Value)
  | none => []
  | some s => [entry key (.text s)]

def ColumnEntry.toValue (c : ColumnEntry) : Value :=
  .dict (entry "column" (.text c.column) :: optionalEntry "function" c.accessor
    ++ optionalEntry "expression" c.template ++ optionalEntry "returns" c.returns)

def optionalText : Option String → Value
  | none => .null
  | some s => .text s

def TableEntry.toValue (t : TableEntry) : Value :=
  .dict [entry "table" (.text t.table), entry "type" (.text t.typeName),
    entry "key" (optionalText t.key), entry "label" (optionalText t.label),
    entry "attributes" (.list (t.attributes.map .text)),
    entry "columns" (.list (t.columns.map ColumnEntry.toValue))]

def Entries.toValue (e : Entries) : Value :=
  .dict [entry "source" (.dict
      [entry "type" (.text e.kind), entry (connectionField e.kind) (.text e.connection)]),
    entry "tables" (.list (e.tables.map TableEntry.toValue))]

def parse (text : String) : Except MappingError Value :=
  (read text).map Entries.toValue

end LookupEnums.MappingLines
