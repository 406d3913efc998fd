import LookupEnums.Mapping.Load
import LookupEnums.Proofs.Config.Substitution

/-! # Variables in mapping files

Variables are replaced in the texts of a configuration and nowhere else. In the line format the lines
are read before that, so a value can become part of a text but never a line: the tables, their
attributes and columns and the keys of the configuration are those of the file.
-/
namespace LookupEnums

namespace Substitution
variable (env : Environment)

end Substitution

namespace MappingLines

def ColumnEntry.mapTexts (f : String → String) (c : ColumnEntry) : ColumnEntry :=
  ⟨f c.column, c.accessor.map f, c.template.map f, c.returns.map f⟩

def TableEntry.mapTexts (f : String → String) (t : TableEntry) : TableEntry :=
  ⟨f t.table, f t.typeName, t.key.map f, t.label.map f, t.attributes.map f,
    t.columns.map (ColumnEntry.mapTexts f)⟩

def Entries.rewrittenValue (f : String → String) (e : Entries) : Value :=
  .dict [entry "source" (.dict
      [entry "type" (.text (f e.kind)), entry (connectionField e.kind) (.text (f e.connection))]),
    entry "tables" (.list (e.tables.map fun t => (t.mapTexts f).toValue))]

variable (f : String → String)

theorem mapTexts_optionalText (x : Option String) :
    (optionalText x).mapTexts f = optionalText (x.map f) := by
  cases x <;> rfl

theorem ColumnEntry.mapTexts_toValue (c : ColumnEntry) :
    c.toValue.mapTexts f = (c.mapTexts f).toValue := by
  obtain ⟨column, accessor, template, returns⟩ := c
  cases accessor <;> cases template <;> cases returns <;> rfl

theorem TableEntry.mapTexts_toValue (t : TableEntry) :
    t.toValue.mapTexts f = (t.mapTexts f).toValue := by
  have hattributes : (t.attributes.map Value.text).map (Value.mapTexts f) =
      (t.attributes.map f).map Value.text := by
    rw [List.map_map, List.map_map]
    rfl
  have hcolumns : (t.columns.map ColumnEntry.toValue).map (Value.mapTexts f) =
      (t.columns.map (ColumnEntry.mapTexts f)).map ColumnEntry.toValue := by
    rw [List.map_map, List.map_map]
    exact List.map_congr_left fun c _ => c.mapTexts_toValue f
  simp only [TableEntry.toValue, TableEntry.mapTexts, entry, Value.mapTexts, Value.mapTextsOfEntries,
    Value.mapTextsOfItems_eq, mapTexts_optionalText, hattributes, hcolumns]

theorem Entries.mapTexts_toValue (e : Entries) : e.toValue.mapTexts f = e.rewrittenValue f := by
  have htables : (e.tables.map TableEntry.toValue).map (Value.mapTexts f) =
      e.tables.map fun t => (t.mapTexts f).toValue := by
    rw [List.map_map]
    exact List.map_congr_left fun t _ => t.mapTexts_toValue f
  simp only [Entries.toValue, Entries.rewrittenValue, entry, Value.mapTexts, Value.mapTextsOfEntries,
    Value.mapTextsOfItems_eq, htables]

end MappingLines

namespace MappingFile
open MappingLines (entry)

theorem fromUTF8?_toUTF8 (s : String) : String.fromUTF8? s.toUTF8 = some s :=
  dif_pos s.isValidUTF8

end MappingFile

end LookupEnums
