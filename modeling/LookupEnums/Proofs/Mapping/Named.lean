import LookupEnums.Mapping.Check
import LookupEnums.Proofs.Text.Cut

/-! # Named mappings

Types go by dotted names and accessors by plain ones; the check of a mapping lets nothing else
pass. So neither kind of name holds anything but letters, digits, underscores and dots.
-/
namespace LookupEnums
open Text

structure TableMapping.Named (m : TableMapping) : Prop where
  typeName : Field.isDottedIdentifier m.typeName.toList = true
  accessors : ∀ c ∈ m.columns, Field.isIdentifier c.accessor.toList = true

instance (m : TableMapping) : Decidable m.Named :=
  decidable_of_iff (Field.isDottedIdentifier m.typeName.toList = true ∧
    ∀ c ∈ m.columns, Field.isIdentifier c.accessor.toList = true)
    ⟨fun h => ⟨h.1, h.2⟩, fun h => ⟨h.typeName, h.accessors⟩⟩

namespace Checked
variable {α β : Type}

theorem of_bind {x : Checked α} {f : α → Checked β} {b : β} (h : (x >>= f) = .ok b) :
    ∃ a, x = .ok a ∧ f a = .ok b := by
  cases x with
  | ok a => exact ⟨a, rfl, h⟩
  | error e => cases h

theorem of_map {x : Checked α} {f : α → β} {b : β} (h : x.map f = .ok b) :
    ∃ a, x = .ok a ∧ f a = b := by
  cases x with
  | ok a => exact ⟨a, rfl, Except.ok.inj h⟩
  | error e => cases h

theorem both_eq_ok {x : Checked α} {y : Checked β} {a : α} {b : β} (h : both x y = .ok (a, b)) :
    x = .ok a ∧ y = .ok b := by
  cases x <;> cases y <;> cases h
  exact ⟨rfl, rfl⟩

theorem within_eq_ok {s : Step} {x : Checked α} {a : α} (h : within s x = .ok a) : x = .ok a := by
  cases x <;> cases h
  rfl

theorem of_items {check : α → Checked β} {n : Nat} {list : List α} {bs : List β}
    (h : itemsFrom check n list = .ok bs) : ∀ b ∈ bs, ∃ a, check a = .ok b := by
  induction list generalizing n bs with
  | nil =>
    cases h
    simp
  | cons a rest ih =>
    unfold itemsFrom at h
    obtain ⟨⟨b, bs⟩, hboth, rfl⟩ := of_map h
    obtain ⟨hb, hbs⟩ := both_eq_ok hboth
    rw [List.forall_mem_cons]
    exact ⟨⟨a, within_eq_ok hb⟩, ih hbs⟩

end Checked

namespace Field
variable {α : Type}

theorem of_matching {pattern : String} {holds : List Char → Bool} {v : Value} {s : String}
    (h : matching pattern holds v = .ok s) : holds s.toList = true := by
  unfold matching at h
  simp only [bind, Except.bind] at h
  split at h
  · cases h
  · split at h
    next hs =>
      cases h
      exact hs
    next => cases h

theorem of_requiredAs {field : Step × Option Value} {check : Value → Checked α} {a : α}
    (h : requiredAs field check = .ok a) : ∃ v, check v = .ok a := by
  have hcheck : (field.2.map check).getD missing = .ok a := Checked.within_eq_ok h
  cases hfield : field.2 with
  | none =>
    rw [hfield] at hcheck
    cases hcheck
  | some v =>
    rw [hfield] at hcheck
    exact ⟨v, hcheck⟩

end Field

theorem ColumnMapping.checkTemplate_eq_ok {c c' : ColumnMapping} (h : c.checkTemplate = .ok c') :
    c' = c ∧ c.templateHolds = true := by
  unfold checkTemplate at h
  split at h
  next hholds =>
    cases h
    exact ⟨rfl, hholds⟩
  next => cases h

/-- A column that passes its check has an accessor with a name, and its place in its template. -/
theorem ColumnMapping.of_check {v : Value} {c : ColumnMapping} (h : check v = .ok c) :
    Field.isIdentifier c.accessor.toList = true ∧ c.templateHolds = true := by
  cases v with
  | dict entries =>
    change checkEntries entries = .ok c at h
    unfold checkEntries at h
    obtain ⟨⟨table, column, accessor, template, returns⟩, hfields, htemplate⟩ :=
      Checked.of_bind h
    obtain ⟨rfl, hholds⟩ := checkTemplate_eq_ok htemplate
    obtain ⟨-, hfields⟩ := Checked.both_eq_ok hfields
    obtain ⟨-, hfields⟩ := Checked.both_eq_ok hfields
    obtain ⟨haccessor, -⟩ := Checked.both_eq_ok hfields
    obtain ⟨given, hgiven⟩ := Field.of_requiredAs haccessor
    exact ⟨Field.of_matching hgiven, hholds⟩
  | _ => cases h

/-- A table that passes its check has a dotted name for its type, and columns that pass theirs. -/
theorem TableMapping.of_check {v : Value} {m : TableMapping} (h : check v = .ok m) :
    Field.isDottedIdentifier m.typeName.toList = true ∧
    ∀ c ∈ m.columns, ∃ v, ColumnMapping.check v = .ok c := by
  cases v with
  | dict entries =>
    change checkEntries entries = .ok m at h
    unfold checkEntries at h
    obtain ⟨prepared, -, h⟩ := Checked.of_bind h
    obtain ⟨⟨table, typeName, key, label, columns, attributes, data⟩, hfields, h⟩ :=
      Checked.of_bind h
    obtain ⟨-, -, h⟩ := Checked.of_bind h
    cases h
    obtain ⟨-, hfields⟩ := Checked.both_eq_ok hfields
    obtain ⟨htype, hfields⟩ := Checked.both_eq_ok hfields
    obtain ⟨-, hfields⟩ := Checked.both_eq_ok hfields
    obtain ⟨-, hfields⟩ := Checked.both_eq_ok hfields
    obtain ⟨hcolumns, -⟩ := Checked.both_eq_ok hfields
    refine ⟨?_, ?_⟩
    · obtain ⟨given, hgiven⟩ := Field.of_requiredAs htype
      exact Field.of_matching hgiven
    · obtain ⟨given, hgiven⟩ := Field.of_requiredAs hcolumns
      cases given with
      | list items => exact Checked.of_items hgiven
      | _ => cases hgiven
  | _ => cases h

/-- The check lets only named mappings pass. -/
theorem TableMapping.named_of_check {v : Value} {m : TableMapping} (h : check v = .ok m) :
    m.Named := by
  obtain ⟨htype, hcolumns⟩ := of_check h
  refine ⟨htype, fun c hc => ?_⟩
  obtain ⟨given, hgiven⟩ := hcolumns c hc
  exact (ColumnMapping.of_check hgiven).1

end LookupEnums
