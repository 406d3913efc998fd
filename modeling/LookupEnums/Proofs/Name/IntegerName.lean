import LookupEnums.Proofs.Name.Identifier
import LookupEnums.Proofs.Name.Reading

/-! # Names of integers

The decimal text of an integer is a label like any other. A numeral makes words run together, each
of them with one capital in front, so the words are found again in the name; a minus sign makes an
underscore. Different integers have different names, however many digits they have.
-/
namespace LookupEnums.Name
open Text

def startsAlone : List Char → Bool
  | [] => false
  | first :: rest => first.isUpper && rest.all (!·.isUpper)

section runTogether
variable {w s v t : List Char}

theorem head_isUpper_flatten {ws : List (List Char)} (h : ∀ w ∈ ws, startsAlone w = true) :
    ∀ c ∈ ws.flatten.head?, c.isUpper = true := by
  cases ws with
  | nil => simp
  | cons w ws =>
    have hw := h w List.mem_cons_self
    cases w with
    | nil => cases hw
    | cons first rest =>
      intro c hc
      cases hc
      exact (Bool.and_eq_true_iff.mp hw).1

/-- A text without capitals ends where a capital follows. -/
theorem append_cancel (hw : w.all (!·.isUpper) = true) (hv : v.all (!·.isUpper) = true)
    (hs : ∀ c ∈ s.head?, c.isUpper = true) (ht : ∀ c ∈ t.head?, c.isUpper = true)
    (h : w ++ s = v ++ t) : w = v := by
  have htake : ∀ {w s : List Char}, w.all (!·.isUpper) = true → (∀ c ∈ s.head?, c.isUpper = true) →
      (w ++ s).takeWhile (!·.isUpper) = w := by
    intro w s hw hs
    rw [List.takeWhile_append_of_pos (List.all_eq_true.mp hw)]
    cases s with
    | nil => simp
    | cons c rest => simp [hs c rfl]
  rw [← htake hw hs, h, htake hv ht]

/-- Words with a capital in front are found again in what they make together. -/
theorem flatten_injective {ws vs : List (List Char)} (hws : ∀ w ∈ ws, startsAlone w = true)
    (hvs : ∀ v ∈ vs, startsAlone v = true) (h : ws.flatten = vs.flatten) : ws = vs := by
  induction ws generalizing vs with
  | nil =>
    cases vs with
    | nil => rfl
    | cons v vs =>
      have hv := hvs v List.mem_cons_self
      rw [List.flatten_nil, List.flatten_cons] at h
      rw [(List.append_eq_nil_iff.mp h.symm).1] at hv
      cases hv
  | cons w ws ih =>
    obtain ⟨hw, hrest⟩ := List.forall_mem_cons.mp hws
    cases vs with
    | nil =>
      rw [List.flatten_nil, List.flatten_cons] at h
      rw [(List.append_eq_nil_iff.mp h).1] at hw
      cases hw
    | cons v vs =>
      obtain ⟨hv, hrest'⟩ := List.forall_mem_cons.mp hvs
      cases w with
      | nil => cases hw
      | cons a w =>
        cases v with
        | nil => cases hv
        | cons b v =>
          rw [List.flatten_cons, List.flatten_cons, List.cons_append, List.cons_append] at h
          obtain ⟨rfl, htail⟩ := List.cons.inj h
          have hsame : w = v := append_cancel (Bool.and_eq_true_iff.mp hw).2
            (Bool.and_eq_true_iff.mp hv).2 (head_isUpper_flatten hrest)
            (head_isUpper_flatten hrest') htail
          subst hsame
          rw [ih hrest hrest' (List.append_cancel_left htail)]

end runTogether

def digitWords : List String :=
  units.take 10

theorem digitWords_sound :
    (∀ word ∈ vocabulary, startsAlone word.toList = true) ∧
    (∀ n < 10, unitWord n ∈ digitWords) ∧
    (∀ n < 20, 10 ≤ n → unitWord n ∉ digitWords) ∧
    (∀ n < 10, 2 ≤ n → tensWord n ∉ digitWords) ∧
    "Hundred" ∉ digitWords ∧ ∀ scale ∈ scales, scale ∉ digitWords := by
  decide +kernel

section numbers
variable {n m : Nat} {digits : List Nat}

theorem exists_large_belowHundred (hn : n < 100) (hten : 10 ≤ n) :
    ∃ word ∈ belowHundred n, word ∉ digitWords := by
  unfold belowHundred
  rw [if_neg (by omega)]
  by_cases hsmall : n < 20
  · rw [if_pos hsmall]
    exact ⟨unitWord n, List.mem_cons_self, digitWords_sound.2.2.1 n hsmall hten⟩
  · rw [if_neg hsmall]
    exact ⟨tensWord (n / 10), List.mem_cons_self,
      digitWords_sound.2.2.2.1 (n / 10) (by omega) (by omega)⟩

theorem exists_large_belowThousand (hten : 10 ≤ n) : ∃ word ∈ belowThousand n, word ∉ digitWords := by
  unfold belowThousand
  by_cases hsmall : n < 100
  · rw [if_pos hsmall]
    exact exists_large_belowHundred hsmall hten
  · rw [if_neg hsmall]
    exact ⟨"Hundred", by simp, digitWords_sound.2.2.2.2.1⟩

/-- Where there is a group there is the name of its scale. -/
theorem exists_scale {names : List String} (h : scaledGroups names n ≠ []) :
    ∃ scale ∈ names, scale ∈ scaledGroups names n := by
  induction names generalizing n with
  | nil => exact absurd rfl h
  | cons scale higher ih =>
    unfold scaledGroups at h ⊢
    by_cases hempty : n % 1000 = 0
    · rw [if_pos hempty, List.append_nil] at h ⊢
      obtain ⟨name, hname, hmem⟩ := ih h
      exact ⟨name, List.mem_cons_of_mem _ hname, hmem⟩
    · rw [if_neg hempty]
      exact ⟨scale, List.mem_cons_self, by simp⟩

theorem exists_large_natWords (hn : n < spellingLimit) (hten : 10 ≤ n) :
    ∃ word ∈ natWords n, word ∉ digitWords := by
  have hgroups : n / 1000 < Nat.pow 1000 scales.length := by
    have hlimit : spellingLimit = 1000 * Nat.pow 1000 scales.length := Nat.pow_succ'
    exact Nat.div_lt_of_lt_mul (by rwa [← hlimit])
  unfold natWords
  rw [if_neg (by omega)]
  by_cases hsmall : n < 1000
  · rw [Nat.mod_eq_of_lt hsmall]
    obtain ⟨word, hmem, hlarge⟩ := exists_large_belowThousand hten
    exact ⟨word, List.mem_append_right _ hmem, hlarge⟩
  · have hsome : scaledGroups scales (n / 1000) ≠ [] := by
      rw [ne_eq, scaledGroups_eq_nil_iff hgroups]
      omega
    obtain ⟨scale, hscale, hmem⟩ := exists_scale hsome
    exact ⟨scale, List.mem_append_left _ hmem, digitWords_sound.2.2.2.2.2 scale hscale⟩

/-- The words of digits mean these digits, each for itself. -/
theorem map_lookup_unitWord (hdigits : ∀ d ∈ digits, d < 10) :
    (digits.map unitWord).map (smallNumbers.lookup ·) = digits.map some := by
  rw [List.map_map]
  refine List.map_congr_left fun d hd => ?_
  have hlt := hdigits d hd
  exact (dictionary_sound.1 d (by omega)).2

theorem map_unitWord_injective {other : List Nat} (hdigits : ∀ d ∈ digits, d < 10)
    (hother : ∀ d ∈ other, d < 10) (h : digits.map unitWord = other.map unitWord) :
    digits = other := by
  have hsome : digits.map some = other.map some := by
    rw [← map_lookup_unitWord hdigits, h, map_lookup_unitWord hother]
  exact List.map_injective_iff.mpr (fun _ _ => Option.some.inj) hsome

theorem natWords_of_lt_ten : ∀ n < 10, natWords n = [unitWord n] := by
  decide +kernel

/-- Only a digit is spelled with words of digits. -/
theorem eq_singleton_of_natWords (hn : n < spellingLimit) (hdigits : ∀ d ∈ digits, d < 10)
    (h : digits.map unitWord = natWords n) : digits = [n] := by
  have hsmall : n < 10 := by
    by_contra hten
    obtain ⟨word, hmem, hlarge⟩ := exists_large_natWords hn (Nat.not_lt.mp hten)
    rw [← h] at hmem
    obtain ⟨d, hd, rfl⟩ := List.mem_map.mp hmem
    exact hlarge (digitWords_sound.2.1 d (hdigits d hd))
  have hword : natWords n = [n].map unitWord := natWords_of_lt_ten n hsmall
  exact map_unitWord_injective hdigits (by simpa using hsmall) (h.trans hword)

/-- No two numbers have numerals of the same words. -/
theorem numeralWords_injective
    (h : numeralWords (digitValues (decimalDigits m)) = numeralWords (digitValues (decimalDigits n))) :
    m = n := by
  have hdigits : ∀ k, ∀ d ∈ digitValues (decimalDigits k), d < 10 :=
    fun k => digitValues_lt (isDigit_decimalDigits k)
  have hcases := fun k => numeralWords_cases (digitValues (decimalDigits k))
  simp only [ofDigits_decimalDigits] at hcases
  -- a numeral that is spelled digit by digit where the other is spelled as a number is one digit
  have hmixed : ∀ {k l}, l < spellingLimit →
      (digitValues (decimalDigits k)).map unitWord = natWords l → k = l := by
    intro k l hl hwords
    have hone := eq_singleton_of_natWords hl (hdigits k) hwords
    rw [← ofDigits_decimalDigits k, hone]
    exact Nat.zero_add l
  rcases hcases m with hm | ⟨hlm, hm⟩ <;> rcases hcases n with hn | ⟨hln, hn⟩
  · rw [hm, hn] at h
    have hsame := map_unitWord_injective (hdigits m) (hdigits n) h
    rw [← ofDigits_decimalDigits m, hsame, ofDigits_decimalDigits]
  · exact hmixed hln (hm.symm.trans (h.trans hn))
  · exact (hmixed hlm (hn.symm.trans (h.symm.trans hm))).symm
  · rw [hm, hn] at h
    exact natWords_injective hlm hln h

end numbers

section names
variable {n : Nat}

theorem collapseFrom_decimalDigits (n : Nat) :
    collapseFrom false (decimalDigits n) = decimalDigits n := by
  refine collapseFrom_false_eq_self_iff.mpr fun c hc => ?_
  have hdigit := isDigit_decimalDigits n c hc
  simp [isKept, isWordChar, hdigit]

theorem collapse_decimalDigits (n : Nat) : collapse (decimalDigits n) = decimalDigits n := by
  rw [collapse_of_isSettled, collapseFrom_decimalDigits]
  intro c hc
  have hdigit := isDigit_decimalDigits n c (List.mem_of_mem_head? hc)
  exact .inr ⟨by simp [isWordChar, hdigit], (upper_of_isDigit hdigit).1⟩

/-- A numeral is named by its words. -/
theorem normalizeChars_decimalDigits (n : Nat) : normalizeChars (decimalDigits n) =
    ((numeralWords (digitValues (decimalDigits n))).map String.toList).flatten := by
  have hdigits := isDigit_decimalDigits n
  have htake : (decimalDigits n).takeWhile Char.isDigit = decimalDigits n :=
    List.takeWhile_eq_self_iff.mpr hdigits
  have hdrop : (decimalDigits n).dropWhile Char.isDigit = [] :=
    List.dropWhile_eq_nil_iff.mpr hdigits
  have hsome : (decimalDigits n).isEmpty = false := by
    simpa using decimalDigits_ne_nil n
  simp only [normalizeChars, collapse_decimalDigits, htake, hdrop, hsome, collapse_spellNumeral hdigits]
  simp [collapse, collapseFrom]

theorem normalizeChars_minus (n : Nat) :
    normalizeChars ('-' :: decimalDigits n) = '_' :: decimalDigits n := by
  have hname : collapse ('-' :: decimalDigits n) = '_' :: decimalDigits n := by
    rw [collapse, collapseFrom_hyphen, collapseFrom_decimalDigits]
  have hsign : '_'.isDigit = false := rfl
  simp [normalizeChars, hname, hsign]

end names

section integers
variable {i j : Int}

/-- The name of an integer: an underscore and its digits, or the words of its digits. -/
theorem normalizeChars_intDigits (i : Int) :
    (i < 0 ∧ normalizeChars (intDigits i) = '_' :: decimalDigits i.natAbs) ∨
      (0 ≤ i ∧ normalizeChars (intDigits i) =
        ((numeralWords (digitValues (decimalDigits i.natAbs))).map String.toList).flatten) := by
  unfold intDigits
  by_cases hnegative : i < 0
  · rw [if_pos hnegative]
    exact .inl ⟨hnegative, normalizeChars_minus _⟩
  · rw [if_neg hnegative]
    exact .inr ⟨Int.not_lt.mp hnegative, normalizeChars_decimalDigits _⟩

theorem startsAlone_numeralWords (n : Nat) :
    ∀ w ∈ (numeralWords (digitValues (decimalDigits n))).map String.toList, startsAlone w = true := by
  intro w hw
  obtain ⟨word, hword, rfl⟩ := List.mem_map.mp hw
  have hdigits := digitValues_lt (isDigit_decimalDigits n)
  exact digitWords_sound.1 word (numeralWords_subset hdigits hword)

theorem normalizeChars_intDigits_injective
    (h : normalizeChars (intDigits i) = normalizeChars (intDigits j)) : i = j := by
  -- words start with a capital, so no name of words is one with an underscore in front
  have hmixed : ∀ (n : Nat) (s : List Char),
      '_' :: s ≠ ((numeralWords (digitValues (decimalDigits n))).map String.toList).flatten := by
    intro n s hsame
    have hcapital := head_isUpper_flatten (startsAlone_numeralWords n)
    rw [← hsame] at hcapital
    exact absurd (hcapital '_' rfl) (by decide)
  rcases normalizeChars_intDigits i with ⟨hi, hname⟩ | ⟨hi, hname⟩ <;>
    rcases normalizeChars_intDigits j with ⟨hj, hname'⟩ | ⟨hj, hname'⟩
  all_goals rw [hname, hname'] at h
  · have habs := decimalDigits_injective (List.cons.inj h).2
    omega
  · exact absurd h (hmixed _ _)
  · exact absurd h.symm (hmixed _ _)
  · have hwords := flatten_injective (startsAlone_numeralWords _) (startsAlone_numeralWords _) h
    have habs := numeralWords_injective
      (List.map_injective_iff.mpr (fun _ _ => String.toList_injective) hwords)
    omega

theorem normalizeChars_intDigits_ne_nil (i : Int) : normalizeChars (intDigits i) ≠ [] := by
  rcases normalizeChars_intDigits i with ⟨-, hname⟩ | ⟨-, hname⟩
  · rw [hname]
    exact List.cons_ne_nil _ _
  · have hdigits := isDigit_decimalDigits i.natAbs
    have hword := isCapitalised_collapse_spellNumeral (decimalDigits_ne_nil i.natAbs) hdigits
    rw [collapse_spellNumeral hdigits, ← hname] at hword
    intro hnil
    rw [hnil] at hword
    cases hword

theorem normalize_intDigits_injective
    (h : normalize (String.ofList (intDigits i)) = normalize (String.ofList (intDigits j))) : i = j := by
  unfold normalize at h
  rw [String.toList_ofList, String.toList_ofList] at h
  exact normalizeChars_intDigits_injective (String.ofList_injective h)

theorem normalize_intDigits_ne_empty (i : Int) : normalize (String.ofList (intDigits i)) ≠ "" := by
  unfold normalize
  rw [String.toList_ofList]
  intro hempty
  exact normalizeChars_intDigits_ne_nil i (String.ofList_injective hempty)

end integers

end LookupEnums.Name
