import LookupEnums.Source.TypeName
import LookupEnums.Text.Quoted
import LookupEnums.Value.Basic

/-! # Table contents

The storage types and the rows of a table as a mapping needs them: of each row its key, its label
and its mapped cells. `ResultSet` is the answer of a store before the rows are taken apart. -/

namespace LookupEnums

structure StorageType where
  name : String
  nullable : Bool := true
  deriving DecidableEq, Repr

namespace StorageType

def isIntegral (t : StorageType) : Bool :=
  Source.isIntegral t.name

end StorageType

structure Row where
  key : Value
  label : Value
  /-- The mapped cells by column. -/
  cells : List (String × Value)

namespace Row

def cell (r : Row) (column : String) : Value :=
  (r.cells.lookup column).getD .null

end Row

structure TableData where
  table : String
  columns : List (String × StorageType)
  rows : List Row

namespace TableData

def storageType? (d : TableData) (column : String) : Option StorageType :=
  d.columns.lookup column

end TableData

inductive SchemaError
  | unknownTable (table : String)
  | unknownColumn (table column : String)
  deriving DecidableEq, Repr

namespace SchemaError

def message : SchemaError → String
  | unknownTable table => s!"Table not found in database: {Text.quotedString table}"
  | unknownColumn table column =>
    s!"Column {Text.quotedString column} not found in table {Text.quotedString table}"

end SchemaError

/-- Rows by column name, in the order the store returned them. -/
structure ResultSet where
  table : String
  columns : List (String × StorageType)
  rows : List (List (String × Value))

end LookupEnums
