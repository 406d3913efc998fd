import LookupEnums.Table
import LookupEnums.Text.Cut

/-! # Mappings

Which tables become which generated types. A column mapping gives a type an accessor, a table
mapping gives a table its type, and a document holds the tables together with the source they are
read from. -/

namespace LookupEnums
open Text

structure ColumnMapping where
  table : String
  column : String
  accessor : String
  /-- Text around each literal. -/
  template : Option String
  /-- The name of the type the accessor returns, where it is not the column's own. -/
  returns : Option String
  deriving DecidableEq, Repr

namespace ColumnMapping

def placeholderChars (c : ColumnMapping) : List Char :=
  '%' :: c.column.toList ++ ['%']

def placeholder (c : ColumnMapping) : String :=
  String.ofList c.placeholderChars

def templateHolds (c : ColumnMapping) : Bool :=
  c.template.all fun t => occursIn c.placeholderChars t.toList

def render (c : ColumnMapping) (literal : String) : String :=
  match c.template with
  | none => literal
  | some t => String.ofList (replaceAll c.placeholderChars literal.toList t.toList)

end ColumnMapping

structure TableMapping where
  table : String
  typeName : String
  key : String
  label : String
  columns : List ColumnMapping
  attributes : List String
  /-- The rows, once they are loaded. -/
  data : Option TableData := none

namespace TableMapping

/-- What to select: the key, the label and the mapped columns, each once. -/
def queryColumns (m : TableMapping) : List String :=
  (m.key :: m.label :: m.columns.map (·.column)).eraseDups

def withData (m : TableMapping) (data : TableData) : TableMapping :=
  { m with data := some data }

end TableMapping

/-- A database by the kind of its adapter and what the adapter has to know. -/
structure SourceConfig where
  kind : String
  info : List (Value × Value)

structure MappingDocument where
  source : Option SourceConfig
  tables : List TableMapping

namespace MappingDocument

def typeNames (d : MappingDocument) : List String :=
  d.tables.map (·.typeName)

end MappingDocument

end LookupEnums
