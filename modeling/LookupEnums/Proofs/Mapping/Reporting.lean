import LookupEnums.Mapping.Document

/-! # Checks that report

A check of data that refuses them lists what it met. So do checks that are put together from such, and
all checks of the parts of a mapping; one of them alone can end without a list.
-/
namespace LookupEnums
open Text

namespace Checked
variable {α β : Type} {x : Checked α} {y : Checked β}

def Reports (x : Checked α) : Prop :=
  ∀ r, x = .error r → ∃ p rest, r = .problems (p :: rest)

theorem reports_ok (a : α) : Reports (.ok a : Checked α) := nofun

theorem reports_problem (message : String) : Reports (problem message : Checked α) := by
  intro r hr
  cases hr
  exact ⟨_, _, rfl⟩

theorem Reports.within (h : Reports x) (s : Step) : Reports (x.within s) := by
  intro r hr
  cases x with
  | ok a => cases hr
  | error e =>
    obtain ⟨p, rest, rfl⟩ := h e rfl
    cases hr
    exact ⟨_, _, rfl⟩

theorem Reports.both (hx : Reports x) (hy : Reports y) : Reports (both x y) := by
  intro r hr
  cases x with
  | ok a =>
    cases y with
    | ok b => cases hr
    | error f =>
      cases hr
      exact hy _ rfl
  | error e =>
    obtain ⟨p, rest, rfl⟩ := hx e rfl
    cases y with
    | ok b =>
      cases hr
      exact ⟨p, rest, rfl⟩
    | error f =>
      obtain ⟨q, more, rfl⟩ := hy f rfl
      cases hr
      exact ⟨p, rest ++ q :: more, rfl⟩

theorem Reports.bind {f : α → Checked β} (hx : Reports x) (hf : ∀ a, Reports (f a)) :
    Reports (x >>= f) := by
  cases x with
  | ok a => exact hf a
  | error e =>
    intro r hr
    cases hr
    exact hx e rfl

theorem Reports.map (hx : Reports x) (f : α → β) : Reports (x.map f) := by
  intro r hr
  cases x with
  | ok a => cases hr
  | error e =>
    cases hr
    exact hx _ rfl

theorem reports_items {check : α → Checked β} {list : List α} (h : ∀ a ∈ list, Reports (check a))
    (n : Nat) : Reports (itemsFrom check n list) := by
  induction list generalizing n with
  | nil => exact reports_ok []
  | cons a rest ih =>
    rw [List.forall_mem_cons] at h
    exact ((h.1.within _).both (ih h.2 (n + 1))).map _

theorem both_of_notIterable (x : Checked α) {y : Checked β} (h : y = .error .notIterable) :
    both x y = .error .notIterable := by
  subst h
  cases x with
  | ok a => rfl
  | error e => cases e <;> rfl

/-- An item that cannot be walked through ends the check of the whole list. -/
theorem items_of_notIterable {check : α → Checked β} {list : List α} {a : α} (ha : a ∈ list)
    (h : check a = .error .notIterable) (n : Nat) :
    itemsFrom check n list = .error .notIterable := by
  induction list generalizing n with
  | nil => cases ha
  | cons b rest ih =>
    rw [itemsFrom]
    rcases List.mem_cons.mp ha with rfl | hrest
    · rw [h]
      cases itemsFrom check (n + 1) rest <;> rfl
    · rw [both_of_notIterable _ (ih hrest (n + 1))]
      rfl

end Checked

namespace Field
open Checked
variable {α : Type} {check : Value → Checked α}

theorem reports_text (v : Value) : Reports (text v) := by
  unfold text
  split
  · exact reports_ok _
  · exact reports_problem _
  · split
    · exact reports_ok _
    · exact reports_problem _
  · exact reports_problem _

theorem reports_nonEmptyText (v : Value) : Reports (nonEmptyText v) := by
  refine (reports_text v).bind fun s => ?_
  split
  · exact reports_problem _
  · exact reports_ok s

theorem reports_matching (pattern : String) (holds : List Char → Bool) (v : Value) :
    Reports (matching pattern holds v) := by
  refine (reports_text v).bind fun s => ?_
  split
  · exact reports_ok s
  · exact reports_problem _

theorem reports_optional (h : ∀ v, Reports (check v)) (v : Value) : Reports (optional check v) := by
  unfold optional
  split
  · exact reports_ok none
  · exact (h v).map some

theorem reports_tuple (h : ∀ v, Reports (check v)) (v : Value) : Reports (tuple check v) := by
  unfold tuple
  split
  · exact reports_items (fun a _ => h a) 0
  · exact reports_problem _

theorem reports_flagNumber (x : Binary64) : Reports (flagNumber x) := by
  unfold flagNumber
  split
  · exact reports_problem _
  · exact reports_ok false
  · exact reports_ok true
  · exact reports_problem _

theorem reports_flagWord (word : Option Bool) :
    Reports ((word.map (.ok : Bool → Checked Bool)).getD unclearFlag) := by
  cases word with
  | none => exact reports_problem _
  | some b => exact reports_ok b

theorem reports_flag (v : Value) : Reports (flag v) := by
  unfold flag
  split
  · exact reports_ok _
  · exact reports_flagWord _
  · exact reports_flagWord _
  · exact reports_flagNumber _
  · exact reports_flagNumber _
  · exact reports_flagNumber _
  · exact reports_problem _

theorem reports_requiredAs (h : ∀ v, Reports (check v)) (field : Step × Option Value) :
    Reports (requiredAs field check) := by
  refine Reports.within ?_ field.1
  cases field.2 with
  | none => exact reports_problem _
  | some v => exact h v

theorem reports_required (h : ∀ v, Reports (check v)) (name : String)
    (entries : List (Value × Value)) : Reports (required name check entries) :=
  reports_requiredAs h _

theorem reports_optionalAs (h : ∀ v, Reports (check v)) (field : Step × Option Value) :
    Reports (optionalAs field check) :=
  (reports_optional h _).within field.1

theorem reports_withDefault (h : ∀ v, Reports (check v)) (name : String) (fallback : α)
    (entries : List (Value × Value)) : Reports (withDefault name fallback check entries) := by
  unfold withDefault
  split
  · exact reports_ok fallback
  · exact (h _).within _

theorem reports_textKeys (entries : List (Value × Value)) : Reports (textKeys entries) := by
  induction entries with
  | nil => exact reports_ok ()
  | cons entry rest ih =>
    refine (Reports.both ?_ ih).map _
    unfold textKey
    split
    · exact reports_ok ()
    · exact (reports_problem _).within _

theorem reports_dictionary (h : ∀ v, Reports (check v)) (v : Value) :
    Reports (dictionary check v) := by
  unfold dictionary
  split
  next entries =>
    induction entries with
    | nil => exact reports_ok []
    | cons entry rest ih =>
      have hkey : Reports (((text entry.1).within (.name "[key]")).within (Step.ofKey entry.1)) :=
        ((reports_text _).within _).within _
      exact ((hkey.both ((h _).within _)).both ih).bind fun _ => reports_ok _
  next => exact reports_problem _

end Field

section reports
open Checked

theorem ColumnMapping.reports_check (v : Value) : Reports (ColumnMapping.check v) := by
  unfold ColumnMapping.check
  split
  next entries =>
    refine Reports.bind ?_ fun ⟨table, column, accessor, template, returns⟩ => ?_
    · exact (Field.reports_required Field.reports_text _ _).both
        ((Field.reports_required Field.reports_nonEmptyText _ _).both
          ((Field.reports_required (Field.reports_matching _ _) _ _).both
            ((Field.reports_withDefault (Field.reports_optional Field.reports_text) _ _ _).both
              (Field.reports_optionalAs Field.reports_nonEmptyText _))))
    · change Reports (checkTemplate _)
      unfold checkTemplate
      split
      · exact reports_ok _
      · exact reports_problem _
  next => exact reports_problem _

theorem StorageType.reports_check (v : Value) : Reports (StorageType.check v) := by
  unfold StorageType.check
  split
  next entries =>
    refine Reports.bind ?_ fun fields => reports_ok _
    exact ((Field.reports_required Field.reports_text _ _).both
      (Field.reports_withDefault Field.reports_flag _ _ _)).both (Field.reports_textKeys _)
  next => exact reports_problem _

theorem Row.reports_check (v : Value) : Reports (Row.check v) := by
  unfold Row.check
  split
  next entries =>
    refine Reports.bind ?_ fun fields => reports_ok _
    exact ((Field.reports_required reports_ok _ _).both
      ((Field.reports_required reports_ok _ _).both
        (Field.reports_required (Field.reports_dictionary reports_ok) _ _))).both
      (Field.reports_textKeys _)
  next => exact reports_problem _

theorem TableData.reports_check (v : Value) : Reports (TableData.check v) := by
  unfold TableData.check
  split
  next entries =>
    refine Reports.bind ?_ fun fields => reports_ok _
    exact ((Field.reports_required Field.reports_text _ _).both
      ((Field.reports_required (Field.reports_dictionary StorageType.reports_check) _ _).both
        (Field.reports_withDefault (Field.reports_tuple Row.reports_check) _ _ _))).both
      (Field.reports_textKeys _)
  next => exact reports_problem _

theorem SourceConfig.reports_check (v : Value) : Reports (SourceConfig.check v) := by
  unfold SourceConfig.check
  split
  next entries =>
    refine Reports.bind ?_ fun fields => reports_ok _
    exact (Field.reports_withDefault Field.reports_text _ _ _).both (Field.reports_textKeys _)
  next => exact reports_problem _

end reports

end LookupEnums
