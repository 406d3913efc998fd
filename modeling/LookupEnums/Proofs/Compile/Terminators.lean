import LookupEnums.Proofs.Compile.Meaning
import LookupEnums.Proofs.Loading
import LookupEnums.Proofs.Mapping.Named
import LookupEnums.Proofs.Source.Layout

/-! # What the rows can do to the lines of the source

Where a mapping brings no text of its own into the source, all that the rows could bring in are the
names of members and literals. The names are free of terminators and so are the literals, but for
the line separator and the paragraph separator in texts: these two are written as they are.
-/
namespace LookupEnums
open Text Source

/-- No attributes, no templates and no names of returned types: nothing is copied from the mapping
into the source but its names. -/
structure TableMapping.Bare (m : TableMapping) : Prop where
  attributes : m.attributes = []
  columns : ∀ c ∈ m.columns, c.template = none ∧ c.returns = none

instance (m : TableMapping) : Decidable m.Bare :=
  decidable_of_iff (m.attributes = [] ∧ ∀ c ∈ m.columns, c.template = none ∧ c.returns = none)
    ⟨fun h => ⟨h.1, h.2⟩, fun h => ⟨h.attributes, h.columns⟩⟩

def TableData.TypesUnbroken (d : TableData) : Prop :=
  ∀ entry ∈ d.columns, ∀ c ∈ entry.2.name.toList, c ∉ terminators

theorem ColumnType.storageName_unbroken (t : ColumnType) :
    ∀ c ∈ t.storageName.toList, c ∉ terminators := by
  have hnames : ∀ name ∈ ["bool", "short", "long", "int", "double", "decimal", "string", "DateTime",
      "TimeSpan", "Guid", "byte[]", "object"], ∀ c ∈ name.toList, c ∉ terminators := by decide
  refine hnames t.storageName ?_
  cases t <;> simp [storageName]

/-- So the storage types of tables that were loaded end no line. -/
theorem Loading.typesUnbroken_of_loadAll {c : AdapterConfig} {ms loaded : List TableMapping} {w : World}
    (h : ending (loadAll c ms) w = .ok loaded) :
    ∀ m ∈ loaded, ∀ d, m.data = some d → d.TypesUnbroken := by
  intro m hm d hdata entry hentry
  obtain ⟨asked, r, d', ⟨a, v, hfetch⟩, hd, rfl⟩ := of_loadAll h hm
  obtain rfl := Option.some.inj hdata
  rw [(keeps_of_dataOf hd).1] at hentry
  obtain ⟨db, hselect⟩ := Adapter.of_fetch_ok hfetch
  obtain ⟨t, nullable, htype⟩ := Database.storageType_of_select hselect entry hentry
  rw [htype]
  exact t.storageName_unbroken

def TableData.TextsUnbroken (allowed : Char → Prop) (d : TableData) : Prop :=
  ∀ row ∈ d.rows, ∀ s : String,
    (row.key = .text s ∨ ∃ column, row.cells.lookup column = some (.text s)) →
    ∀ c ∈ s.toList, c ∈ separators → allowed c

namespace Plan

def HoldsChar (p : Plan) (c : Char) : Prop :=
  ∃ m ∈ p.mappings, ∃ d, m.data = some d ∧ ∃ row ∈ d.rows, ∃ s : String,
    (row.key = .text s ∨ ∃ column, row.cells.lookup column = some (.text s)) ∧ c ∈ s.toList

section
variable {p : Plan} {m : TableMapping} {d : TableData} {allowed : Char → Prop}

theorem unbroken_storage (htypes : d.TypesUnbroken) {column : String} {storage : StorageType}
    (h : d.storageType? column = some storage) : Unbroken allowed storage.name.toList := by
  obtain ⟨before, after, hsplit, -⟩ := List.lookup_eq_some_iff.mp h
  exact Unbroken.of_forall (htypes (column, storage) (by simp [hsplit]))

theorem unbroken_literal {expected : String} (hexpected : Unbroken allowed expected.toList) {v : Value}
    (h : ∀ s, v = .text s → ∀ c ∈ s.toList, c ∈ separators → allowed c) :
    Unbroken allowed (literal v expected).toList := by
  rw [literal, String.toList_ofList]
  exact unbroken_literalChars hexpected h

theorem enumUnbroken_finalDraft (hnamed : m.Named) (hbare : m.Bare) (htypes : d.TypesUnbroken)
    (htexts : d.TextsUnbroken allowed) {keyType : StorageType}
    (hkey : d.storageType? m.key = some keyType) :
    EnumUnbroken allowed ((p.finalDraft m d).enum m keyType) := by
  have hkeyType : Unbroken allowed keyType.name.toList := unbroken_storage htypes hkey
  refine ⟨unbroken_of_isDottedIdentifier hnamed.typeName, hbare.attributes, hkeyType, ?_⟩
  intro member hmember
  obtain ⟨row, hrow, rfl⟩ := List.mem_map.mp hmember
  refine ⟨unbroken_normalize allowed _, unbroken_literal hkeyType ?_⟩
  exact fun s hs => htexts row hrow s (Or.inl hs)

theorem unbroken_of_directCases {c : ColumnMapping}
    (htemplate : c.template = none) (hreturns : Unbroken allowed (d.returnName c).toList)
    (htexts : d.TextsUnbroken allowed) {case : String × String} (h : case ∈ p.directCases m d c) :
    Unbroken allowed case.1.toList ∧ Unbroken allowed case.2.toList := by
  have hrender : ∀ text, c.render text = text := by
    intro text
    rw [ColumnMapping.render, htemplate]
  unfold directCases casesOver at h
  split at h
  · cases h
  · obtain ⟨row, hrow, hcase⟩ := List.mem_filterMap.mp h
    obtain ⟨raw, hraw, hcase⟩ := Option.bind_eq_some_iff.mp hcase
    obtain ⟨expression, hexpression, rfl⟩ := Option.map_eq_some_iff.mp hcase
    refine ⟨unbroken_normalize allowed _, ?_⟩
    unfold directExpression? at hexpression
    split at hexpression
    · split at hexpression
      · cases hexpression
      · obtain ⟨target, -, rfl⟩ := Option.map_eq_some_iff.mp hexpression
        rw [hrender]
        exact unbroken_qualify hreturns (unbroken_normalize allowed _) _
    · split at hexpression
      · cases hexpression
      · cases hexpression
        rw [hrender]
        refine unbroken_literal hreturns ?_
        rintro s rfl
        exact htexts row hrow s (Or.inr ⟨c.column, hraw⟩)

theorem accessorUnbroken_finalDraft (hnamed : m.Named) (hbare : m.Bare) (htypes : d.TypesUnbroken)
    (htexts : d.TextsUnbroken allowed) {c : ColumnMapping} (hc : c ∈ m.columns)
    (hstorage : (d.storageType? c.column).isSome) :
    AccessorUnbroken allowed ((p.finalDraft m d).accessor m d c) := by
  obtain ⟨storage, hstorage⟩ := Option.isSome_iff_exists.mp hstorage
  obtain ⟨htemplate, hreturns⟩ := hbare.columns c hc
  have hreturns : Unbroken allowed (d.returnName c).toList := by
    rw [TableData.returnName_eq hstorage, ColumnMapping.returnName, hreturns]
    exact unbroken_storage htypes hstorage
  refine ⟨unbroken_of_isIdentifier (hnamed.accessors c hc),
    unbroken_of_isDottedIdentifier hnamed.typeName, hreturns, ?_⟩
  exact fun case hcase => unbroken_of_directCases htemplate hreturns htexts hcase

end

variable {p : Plan} {s : Session}

/-- No key, label or cell ends a line of the source, except with a line separator or a paragraph
separator within a text; all other ends of lines are those between the lines that were laid out. And
no text, whatever it holds, closes the quotes of its literal early. -/
theorem source_terminators (hw : ∀ m ∈ p.mappings, m.WellFormed) (hnamed : ∀ m ∈ p.mappings, m.Named)
    (hbare : ∀ m ∈ p.mappings, m.Bare)
    (htypes : ∀ m ∈ p.mappings, ∀ d, m.data = some d → d.TypesUnbroken) (h : p.compile = .ok () s) :
    (∀ l ∈ sourceLines s.env, ∀ c ∈ l.text.toList, c ∈ terminators →
      c ∈ separators ∧ p.HoldsChar c) ∧
    (∀ unit, ∃ ls rest, sourceLines s.env = ls ++ rest ∧ (∀ l ∈ rest, l.text = "") ∧
      (render unit s.env).toList = ['\n'].intercalate (ls.map (·.render unit)) ++ ['\n']) ∧
    ∀ (text expected : String) (after : List Char),
      (literalChars expected (.text text)).head? = some '"' ∧
      afterQuote? ((literalChars expected (.text text)).tail ++ after) = some after := by
  -- the only ends of lines let through on the way are separators that some text holds
  let allowed : Char → Prop := fun c => c ∈ separators ∧ p.HoldsChar c
  obtain ⟨-, henums, haccessors⟩ := perm_direct hw h
  have htexts : ∀ m ∈ p.mappings, ∀ d, m.data = some d → d.TextsUnbroken allowed :=
    fun m hm d hdata row hrow text htext c hc hend =>
      ⟨hend, m, hm, d, hdata, row, hrow, text, htext, hc⟩
  have hlines : LinesUnbroken allowed (sourceLines s.env) := by
    refine sourceLines_unbroken ?_ ?_
    · intro t ht
      obtain ⟨m, hm, d, keyType, hdata, hkey, rfl⟩ := mem_direct_enums.mp (henums.mem_iff.mp ht)
      exact enumUnbroken_finalDraft (hnamed m hm) (hbare m hm) (htypes m hm d hdata)
        (htexts m hm d hdata) hkey
    · intro a ha
      obtain ⟨m, hm, c, hc, d, hdata, hstorage, rfl⟩ :=
        mem_direct_accessors.mp (haccessors.mem_iff.mp ha)
      exact accessorUnbroken_finalDraft (hnamed m hm) (hbare m hm) (htypes m hm d hdata)
        (htexts m hm d hdata) hc hstorage
  refine ⟨fun l hl c hc hend => hlines l hl c hc hend, ?_, ?_⟩
  · refine render_eq_lines fun l hl hfeed => ?_
    have hseparator : '\n' ∈ separators := (hlines l hl '\n' hfeed (by decide)).1
    revert hseparator
    decide
  · intro text expected after
    rw [literalChars_text, List.tail_cons, List.append_assoc]
    exact ⟨rfl, afterQuote?_escapeChars _ _⟩

def notes : Plan where
  mappings := [
    { table := "note"
      typeName := "Note"
      key := "id"
      label := "title"
      columns := [⟨"note", "body", "Body", none, none⟩]
      attributes := []
      data := some ⟨"note", [("id", ⟨"int", false⟩), ("body", ⟨"string", false⟩)],
        [⟨.int 1, .text "First", [("body", .text "a\u2028b")]⟩]⟩ }]
  distinct := by decide

theorem notes_typesUnbroken : ∀ m ∈ notes.mappings, ∀ d, m.data = some d → d.TypesUnbroken := by
  intro m hm d hd
  rw [List.mem_singleton.mp hm] at hd
  cases hd
  unfold TableData.TypesUnbroken
  decide

theorem notes_compiles : notes.compiles = true := by decide +kernel

theorem source_terminators_notes : ∃ s, notes.compile = .ok () s ∧
    ∀ l ∈ sourceLines s.env, ∀ c ∈ l.text.toList, c ∈ terminators →
      c ∈ separators ∧ notes.HoldsChar c := by
  obtain ⟨s, hs⟩ := compiles_iff.mp notes_compiles
  exact ⟨s, hs, (source_terminators (by decide) (by decide) (by decide) notes_typesUnbroken hs).1⟩

/-- The separator ends the line of its case, in the middle of the literal. -/
theorem source_broken_notes : (∀ m ∈ notes.mappings, m.WellFormed ∧ m.Named ∧ m.Bare) ∧
    ∃ s, notes.compile = .ok () s ∧
      ∃ l ∈ sourceLines s.env, l.text = "case Note.First: return \"a\u2028b\";" ∧
        '\u2028' ∈ terminators ∧ '\u2028' ∈ l.text.toList := by
  refine ⟨by decide, ?_⟩
  obtain ⟨s, hs⟩ := compiles_iff.mp notes_compiles
  have hline : (match notes.compile with
      | .ok () s => (sourceLines s.env).any (·.text = "case Note.First: return \"a\u2028b\";")
      | .error _ _ => false) = true := by
    decide +kernel
  rw [hs] at hline
  obtain ⟨l, hl, htext⟩ := List.any_eq_true.mp hline
  have htext : l.text = "case Note.First: return \"a\u2028b\";" := of_decide_eq_true htext
  exact ⟨s, hs, l, hl, htext, by decide, by rw [htext]; decide⟩

end Plan

end LookupEnums
