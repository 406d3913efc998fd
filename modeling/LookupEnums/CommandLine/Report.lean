import LookupEnums.Config.Masking
import LookupEnums.Generation
import LookupEnums.Json.Printer
import LookupEnums.Summary
import LookupEnums.Terminal.Grid

/-! # Reports

What the commands show, as data, and the two formats of it: JSON, and a grid that has a row for
each object of a list or for each field of a single object. -/

namespace LookupEnums
open Text

namespace Summary

def accessorJson (a : AccessorSummary) : Json :=
  .obj [("name", .str a.name), ("returns", .str a.returns), ("foreign_key", .bool a.foreignKey),
    ("pk_coercion", .bool a.coercion), ("nullable", .bool a.nullable), ("cases", .int a.cases),
    ("missing", Json.strings a.missing)]

def memberJson (m : String × String) : Json :=
  .obj [("name", .str m.1), ("value", .str m.2)]

def membersJson (t : TypeSummary) : Json :=
  .arr (t.members.map memberJson)

def accessorsJson (t : TypeSummary) : Json :=
  .arr (t.accessors.map accessorJson)

def typeJson (t : TypeSummary) : Json :=
  .obj [("name", .str t.name), ("key_type", Json.optional .str t.keyType),
    ("attributes", Json.strings t.attributes), ("members", membersJson t),
    ("functions", accessorsJson t)]

def toJson (s : Summary) : Json :=
  .obj [("types", .arr (s.types.map typeJson)), ("external_types", Json.strings s.externalTypes)]

end Summary

namespace ConnectionReport

def toJson (r : ConnectionReport) : Json :=
  .obj [("source_type", .str r.kindName), ("connected", .bool r.connected),
    ("message", .str r.message), ("latency_ms", Json.optional (fun (n : Nat) => .int n) r.latency)]

end ConnectionReport

namespace Report

def adapterJson (k : AdapterKind) : Json :=
  .obj [("type", .str k.name), ("display_name", .str k.title),
    ("config_fields", Json.strings k.fields)]

def adapters : Json :=
  .arr (AdapterKind.all.map adapterJson)

def tableJson (m : TableMapping) : Json :=
  .obj [("table", .str m.table), ("type", .str m.typeName), ("key", .str m.key),
    ("label", .str m.label), ("accessors", Json.strings (m.columns.map (·.accessor)))]

def tables (d : MappingDocument) : Json :=
  .arr (d.tables.map tableJson)

/-- A source without its secrets, unless it holds what has no JSON form or cannot be searched. -/
def source? (s : SourceConfig) : Option Json := do
  let entries ← (Masking.entriesOf s.info).toOption
  let fields ← Json.ofEntries? [("type", .str s.kind)] entries
  return .obj fields

def document? (d : MappingDocument) : Option Json := do
  let source ← match d.source with
    | none => some .null
    | some s => source? s
  return .obj [("source", source), ("tables", tables d)]

def scalarCell : Json → List Char
  | .null => []
  | .bool b => (if b then "True" else "False").toList
  | .str s => s.toList
  | j => j.scalarText

def cell : Json → List Char
  | .arr items => joinWith ", ".toList (items.map scalarCell)
  | j => scalarCell j

def fieldsOf : Json → List (String × Json)
  | .obj fields => fields
  | _ => []

def shownCell (j : Json) : List Char :=
  Markup.escape (cell j)

/-- The grid of a report: the titles are the names of the first object's fields. -/
def grid? : Json → Option Grid
  | .arr (first :: rest) =>
    some ⟨some ((fieldsOf first).map (·.1.toList)),
      (first :: rest).map fun j => (fieldsOf j).map fun f => shownCell f.2⟩
  | .obj fields => some ⟨none, fields.map fun (k, j) => [k.toList, shownCell j]⟩
  | _ => none

/-- The lines of a report in a terminal of a width; an empty list is a pair of brackets. Wrong markup
shows nothing. -/
def lines? (width : Nat) (format : OutputFormat) (j : Json) : Option (List (List Char)) :=
  match format with
  | .json => some [j.indented.toList]
  | .table => match grid? j with
    | some g => g.draw? width
    | none => some [j.scalarText]

end Report

end LookupEnums
