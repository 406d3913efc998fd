import LookupEnums.Mapping.Basic
import LookupEnums.Mapping.Field

/-! # Checking mappings

Unchecked data becomes a mapping: names are filled in where they follow from others, each field is
checked, and only then what concerns a mapping as a whole: templates hold their placeholder, and
no column and no accessor of a table occurs twice. -/

namespace LookupEnums
open Text

namespace Checked

def notOf (type : String) : Checked α :=
  problem ("Input should be a valid dictionary or instance of " ++ type)

def neither (type : String) : Checked α :=
  problem ("Input should be a dictionary or an instance of " ++ type)

def wrongValue (reason : String) : Checked α :=
  problem ("Value error, " ++ reason)

end Checked

namespace ColumnMapping

def prepare (entries : List (Value × Value)) : List (Value × Value) :=
  if (Value.fieldOrNull "function" entries).isTruthy then entries
  else Value.setField "function" (Value.fieldOrNull "column" entries) entries

def checkTemplate (c : ColumnMapping) : Checked ColumnMapping :=
  if c.templateHolds then .ok c
  else Checked.wrongValue
    s!"expression for column {quotedString c.column} must contain {c.placeholder}"

def checkEntries (entries : List (Value × Value)) : Checked ColumnMapping := do
  let entries := prepare entries
  let (table, column, accessor, template, returns) ←
    (Field.required "table" Field.text entries).both
      ((Field.required "column" Field.nonEmptyText entries).both
        ((Field.required "function" Field.identifier entries).both
          ((Field.withDefault "expression" none (Field.optional Field.text) entries).both
            (Field.optionalAs (Field.named "returns" "return_type" entries) Field.nonEmptyText))))
  checkTemplate ⟨table, column, accessor, template, returns⟩

def check : Value → Checked ColumnMapping
  | .dict entries => checkEntries entries
  | _ => Checked.notOf "ColumnMapping"

end ColumnMapping

namespace StorageType

def check : Value → Checked StorageType
  | .dict entries => do
    let ((name, nullable), _) ←
      ((Field.required "name" Field.text entries).both
        (Field.withDefault "nullable" true Field.flag entries)).both (Field.textKeys entries)
    return ⟨name, nullable⟩
  | _ => Checked.neither "StorageType"

end StorageType

namespace Field

def entriesOf (check : Value → Checked α) : List (Value × Value) → Checked (List (String × α))
  | [] => .ok []
  | (k, v) :: rest => do
    let key := (text k).within (.name "[key]") |>.within (Step.ofKey k)
    let ((k, v), more) ← (key.both ((check v).within (Step.ofKey k))).both (entriesOf check rest)
    return (k, v) :: more

def dictionary (check : Value → Checked α) : Value → Checked (List (String × α))
  | .dict entries => entriesOf check entries
  | _ => Checked.problem "Input should be a valid dictionary"

end Field

namespace Row

def check : Value → Checked Row
  | .dict entries => do
    let ((key, label, cells), _) ←
      ((Field.required "primary_key" .ok entries).both
        ((Field.required "label" .ok entries).both
          (Field.required "values" (Field.dictionary .ok) entries))).both (Field.textKeys entries)
    return ⟨key, label, cells⟩
  | _ => Checked.neither "RowData"

end Row

namespace TableData

def check : Value → Checked TableData
  | .dict entries => do
    let ((table, columns, rows), _) ←
      ((Field.required "table" Field.text entries).both
        ((Field.required "columns" (Field.dictionary StorageType.check) entries).both
          (Field.withDefault "rows" [] (Field.tuple Row.check) entries))).both
        (Field.textKeys entries)
    return ⟨table, columns, rows⟩
  | _ => Checked.neither "TableData"

end TableData

namespace TableMapping

/-- What a column entry can be walked through as: a text by its characters, a dictionary by its
keys. -/
def columnEntries : Value → Checked (List Value)
  | .list items => .ok items
  | .text s => .ok (s.toList.map fun c => .text (String.singleton c))
  | .dict entries => .ok (entries.map (·.1))
  | .bytes _ content => .ok (content.map fun b => .int b.toNat)
  | v => if v.isTruthy then .error .notIterable else .ok []

def prepareColumn (table : Value) : Value → Value
  | .text s => .dict [(.text "column", .text s), (.text "table", table)]
  | .dict entries => .dict (Value.setField "table" table entries)
  | v => v

def prepareType (entries : List (Value × Value)) : List (Value × Value) :=
  if (Value.fieldOrNull "type" entries).isTruthy
    || (Value.fieldOrNull "type_name" entries).isTruthy then entries
  else Value.setField "type" (Value.fieldOrNull "table" entries) entries

def prepare (entries : List (Value × Value)) : Checked (List (Value × Value)) := do
  let table := Value.fieldOrNull "table" entries
  let columns ← columnEntries (Value.fieldOrNull "columns" entries)
  return Value.setField "columns" (.list (columns.map (prepareColumn table))) (prepareType entries)

def checkRepeats : (columns accessors : List String) → List ColumnMapping → Checked Unit
  | _, _, [] => .ok ()
  | columns, accessors, c :: rest =>
    if columns.contains c.column then
      Checked.wrongValue s!"column {quotedString c.column} is mapped more than once"
    else if accessors.contains c.accessor then
      Checked.wrongValue s!"accessor {quotedString c.accessor} is declared more than once"
    else checkRepeats (c.column :: columns) (c.accessor :: accessors) rest

def checkEntries (entries : List (Value × Value)) : Checked TableMapping := do
  let entries ← prepare entries
  let (table, typeName, key, label, columns, attributes, data) ←
    (Field.required "table" Field.nonEmptyText entries).both
      ((Field.requiredAs (Field.named "type" "type_name" entries) Field.dottedIdentifier).both
        ((Field.requiredAs (Field.named "key" "primary_key" entries) Field.nonEmptyText).both
          ((Field.required "label" Field.nonEmptyText entries).both
            ((Field.required "columns" (Field.tuple ColumnMapping.check) entries).both
              ((Field.withDefault "attributes" [] (Field.tuple Field.text) entries).both
                (Field.withDefault "data" none (Field.optional TableData.check) entries))))))
  checkRepeats [] [] columns
  return ⟨table, typeName, key, label, columns, attributes, data⟩

def check : Value → Checked TableMapping
  | .dict entries => checkEntries entries
  | _ => Checked.notOf "TableMapping"

end TableMapping

end LookupEnums
