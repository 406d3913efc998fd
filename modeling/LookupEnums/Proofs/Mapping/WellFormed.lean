import LookupEnums.Mapping.Check
import LookupEnums.Proofs.Keyed

/-! # Well-formed mappings

A mapping that passed its check maps no column twice and names no two accessors alike. Compilation
relies on both: accessors of one type are told apart by their names alone.
-/
namespace LookupEnums

/-- What the check of a mapping as a whole leaves. -/
structure TableMapping.WellFormed (m : TableMapping) : Prop where
  columns : (m.columns.map (·.column)).Nodup
  accessors : (m.columns.map (·.accessor)).Nodup

namespace TableMapping

instance (m : TableMapping) : Decidable m.WellFormed :=
  decidable_of_iff ((m.columns.map (·.column)).Nodup ∧ (m.columns.map (·.accessor)).Nodup)
    ⟨fun h => ⟨h.1, h.2⟩, fun h => ⟨h.columns, h.accessors⟩⟩

theorem nodup_of_checkRepeats {columns accessors : List String} {list : List ColumnMapping}
    (h : checkRepeats columns accessors list = .ok ()) :
    ((list.map (·.column)).Nodup ∧ ∀ c ∈ list, c.column ∉ columns) ∧
    ((list.map (·.accessor)).Nodup ∧ ∀ c ∈ list, c.accessor ∉ accessors) := by
  induction list generalizing columns accessors with
  | nil => simp
  | cons c rest ih =>
    unfold checkRepeats at h
    by_cases hc : c.column ∈ columns
    · simp [hc, Checked.wrongValue, Checked.problem] at h
    by_cases ha : c.accessor ∈ accessors
    · simp [hc, ha, Checked.wrongValue, Checked.problem] at h
    simp only [List.contains_eq_mem, hc, ha, decide_false, Bool.false_eq_true, ↓reduceIte] at h
    obtain ⟨hcolumns, haccessors⟩ := ih h
    exact ⟨Keyed.fresh_cons hc hcolumns, Keyed.fresh_cons ha haccessors⟩

/-- The check lets only well-formed mappings pass. -/
theorem wellFormed_of_check {v : Value} {m : TableMapping} (h : check v = .ok m) : m.WellFormed := by
  cases v with
  | dict entries =>
    change checkEntries entries = .ok m at h
    unfold checkEntries at h
    simp only [bind, Except.bind] at h
    split at h
    · cases h
    split at h
    · cases h
    split at h
    · cases h
    next hrepeats =>
      have hnodup := nodup_of_checkRepeats hrepeats
      cases h
      exact ⟨hnodup.1.1, hnodup.2.1⟩
  | _ => cases h

end TableMapping

end LookupEnums
