import LookupEnums.Table
import LookupEnums.Value.Key
import LookupEnums.Value.Shown

/-! # Why a compilation fails

Each constructor is a cause; `CompileError.message` words it. -/

namespace LookupEnums
open Text

inductive CompileError
  | notLoaded (table : String)
  | duplicateType (typeName table : String)
  | schema (e : SchemaError)
  | duplicateMember (typeName member : String) (label : Value)
  | emptyIdentifier (typeName : String) (label : Value)
  | unresolvedKey (typeName : String) (value : Value) (referencedBy : Option String)
  | cycle (path : List String)
  | duplicateKey (typeName : String) (value : Value) (member : String)
  | unusableKey (fault : KeyFault)
  | missingCell (column : String)
  deriving Repr

namespace CompileError

def message : CompileError → String
  | notLoaded table => s!"Table {quotedString table}: table data has not been loaded"
  | duplicateType typeName table =>
    s!"Table {quotedString table}: type {quotedString typeName} is declared by more than one table"
  | schema e => e.message
  | duplicateMember typeName member label =>
    s!"Duplicate member {quotedString member} in {typeName} (from label {label.messageText})"
  | emptyIdentifier typeName label =>
    s!"Label {label.messageText} in {typeName} does not produce a valid member name"
  | unresolvedKey typeName value referencedBy =>
    s!"No such primary key in target table {typeName}: {value.messageText}" ++
      match referencedBy with
      | none => ""
      | some r => s!" (referenced by {r})"
  | cycle path => "Cyclic table reference: " ++ " -> ".intercalate path
  | duplicateKey typeName value member =>
    s!"Duplicate primary key {value.messageText} in {typeName} (already used by {member})"
  | unusableKey (.kind name) => s!"unhashable type: {quotedString name}"
  | unusableKey .signaling => "Cannot hash a signaling NaN value"
  | unusableKey .changing => "cannot hash writable memoryview object"
  | missingCell column => quotedString column

end CompileError

end LookupEnums
