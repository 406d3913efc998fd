import LookupEnums.Name.Identifier
import Mathlib.Data.List.GetD

/-! # The words of numerals

A numeral is spelled with the words of a small vocabulary, at least one of them, however long it is.
-/
namespace LookupEnums.Name
open Text

def vocabulary : List String :=
  "Hundred" :: (units ++ tens ++ scales)

section words
variable {n : Nat}

theorem length_units : units.length = 20 := rfl

theorem length_tens : tens.length = 8 := rfl

theorem unitWord_mem (hn : n < units.length) : unitWord n ∈ vocabulary := by
  have hget : unitWord n = units[n] := List.getD_eq_getElem _ _ hn
  have hmem : units[n] ∈ units := List.getElem_mem hn
  simp [vocabulary, hget, hmem]

theorem tensWord_mem (hn : n - 2 < tens.length) : tensWord n ∈ vocabulary := by
  have hget : tensWord n = tens[n - 2] := List.getD_eq_getElem _ _ hn
  have hmem : tens[n - 2] ∈ tens := List.getElem_mem hn
  simp [vocabulary, hget, hmem]

theorem belowHundred_subset (hn : n < 100) : belowHundred n ⊆ vocabulary := by
  unfold belowHundred
  split
  · simp
  · split
    next hsmall => simp [unitWord_mem hsmall]
    · have htens := tensWord_mem (n := n / 10) (by rw [length_tens]; omega)
      have hunit := unitWord_mem (n := n % 10) (by rw [length_units]; omega)
      split
      · simp [htens]
      · simp [htens, hunit]

theorem belowThousand_subset (hn : n < 1000) : belowThousand n ⊆ vocabulary := by
  unfold belowThousand
  split
  · exact belowHundred_subset ‹_›
  · have hunit := unitWord_mem (n := n / 100) (by rw [length_units]; omega)
    have hhundred : "Hundred" ∈ vocabulary := List.mem_cons_self
    have hrest := belowHundred_subset (n := n % 100) (by omega)
    simp [hunit, hhundred, hrest]

theorem scaledGroups_subset {names : List String} (hnames : names ⊆ vocabulary) (n : Nat) :
    scaledGroups names n ⊆ vocabulary := by
  induction names generalizing n with
  | nil => simp [scaledGroups]
  | cons scale higher ih =>
    obtain ⟨hscale, hhigher⟩ := List.cons_subset.mp hnames
    have hgroup := belowThousand_subset (n := n % 1000) (by omega)
    unfold scaledGroups
    refine List.append_subset.mpr ⟨ih hhigher (n / 1000), ?_⟩
    split
    · simp
    · simp [hgroup, hscale]

theorem natWords_subset (n : Nat) : natWords n ⊆ vocabulary := by
  have hscales : scales ⊆ vocabulary :=
    List.subset_cons_of_subset _ (List.subset_append_right _ _)
  unfold natWords
  split
  · simpa using unitWord_mem (n := 0) (by decide)
  · have hlowest := belowThousand_subset (n := n % 1000) (by omega)
    exact List.append_subset.mpr ⟨scaledGroups_subset hscales (n / 1000), hlowest⟩

theorem belowHundred_eq_nil_iff : belowHundred n = [] ↔ n = 0 := by
  unfold belowHundred
  split
  · simp [*]
  · split
    · simp [*]
    · simp [*]

theorem belowThousand_eq_nil_iff : belowThousand n = [] ↔ n = 0 := by
  unfold belowThousand
  split
  · exact belowHundred_eq_nil_iff
  · simp only [reduceCtorEq, false_iff]
    omega

/-- The groups under the named scales leave out no number but zero. -/
theorem scaledGroups_eq_nil_iff {names : List String} (hn : n < Nat.pow 1000 names.length) :
    scaledGroups names n = [] ↔ n = 0 := by
  induction names generalizing n with
  | nil =>
    have hzero : n = 0 := Nat.lt_one_iff.mp hn
    simp [scaledGroups, hzero]
  | cons scale higher ih =>
    have hproduct : n < Nat.pow 1000 higher.length * 1000 := hn
    have hhigher : n / 1000 < Nat.pow 1000 higher.length :=
      Nat.div_lt_of_lt_mul (by rwa [Nat.mul_comm])
    unfold scaledGroups
    rw [List.append_eq_nil_iff, ih hhigher]
    split
    · simp only [and_true]
      omega
    · simp only [List.append_eq_nil_iff, reduceCtorEq, and_false, false_iff]
      omega

theorem natWords_ne_nil (hn : n < spellingLimit) : natWords n ≠ [] := by
  have hgroups : n / 1000 < Nat.pow 1000 scales.length := by
    have hlimit : spellingLimit = 1000 * Nat.pow 1000 scales.length := Nat.pow_succ'
    exact Nat.div_lt_of_lt_mul (by rwa [← hlimit])
  unfold natWords
  split
  · simp
  · rw [ne_eq, List.append_eq_nil_iff, scaledGroups_eq_nil_iff hgroups, belowThousand_eq_nil_iff]
    omega

end words

section numerals
variable {digits : List Nat}

theorem map_unitWord_subset (h : ∀ d ∈ digits, d < 10) : digits.map unitWord ⊆ vocabulary := by
  intro word hword
  obtain ⟨d, hd, rfl⟩ := List.mem_map.mp hword
  have hlt := h d hd
  exact unitWord_mem (by rw [length_units]; omega)

/-- A numeral is spelled as a number or digit by digit. -/
theorem numeralWords_cases (digits : List Nat) :
    numeralWords digits = digits.map unitWord ∨
      ofDigits 10 digits < spellingLimit ∧ numeralWords digits = natWords (ofDigits 10 digits) := by
  unfold numeralWords numberWords
  split
  · exact .inl rfl
  · by_cases hlimit : spellingLimit ≤ (ofDigits 10 digits : Int).natAbs
    · simp only [if_pos hlimit, true_or]
    · have hnonneg : ¬ (ofDigits 10 digits : Int) < 0 := by omega
      simp only [if_neg hlimit, if_neg hnonneg]
      rw [Int.natAbs_natCast] at hlimit ⊢
      exact .inr ⟨Nat.lt_of_not_le hlimit, rfl⟩

theorem numeralWords_subset (h : ∀ d ∈ digits, d < 10) : numeralWords digits ⊆ vocabulary := by
  rcases numeralWords_cases digits with hwords | ⟨-, hwords⟩
  · rw [hwords]
    exact map_unitWord_subset h
  · rw [hwords]
    exact natWords_subset _

theorem numeralWords_ne_nil (h : digits ≠ []) : numeralWords digits ≠ [] := by
  rcases numeralWords_cases digits with hwords | ⟨hlimit, hwords⟩
  · rw [hwords, ne_eq, List.map_eq_nil_iff]
    exact h
  · rw [hwords]
    exact natWords_ne_nil hlimit

end numerals

end LookupEnums.Name
