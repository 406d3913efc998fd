import LookupEnums.Proofs.Name.Numeral
import LookupEnums.Proofs.Text.Cut
import Mathlib.Algebra.Group.Nat.Defs

/-! # Numbers read back from their words

A reader of number words with a dictionary of its own. It adds up the small words, multiplies at a
hundred and sets a group aside at each power of one thousand. Whatever is spelled is read back as
the number it was, so no two numbers share a spelling.
-/
namespace LookupEnums.Name
open Text

def smallNumbers : List (String × Nat) :=
  [("Zero", 0), ("One", 1), ("Two", 2), ("Three", 3), ("Four", 4), ("Five", 5), ("Six", 6),
    ("Seven", 7), ("Eight", 8), ("Nine", 9), ("Ten", 10), ("Eleven", 11), ("Twelve", 12),
    ("Thirteen", 13), ("Fourteen", 14), ("Fifteen", 15), ("Sixteen", 16), ("Seventeen", 17),
    ("Eighteen", 18), ("Nineteen", 19), ("Twenty", 20), ("Thirty", 30), ("Forty", 40), ("Fifty", 50),
    ("Sixty", 60), ("Seventy", 70), ("Eighty", 80), ("Ninety", 90)]

def thousandPowers : List (String × Nat) :=
  [("Thousand", 1), ("Million", 2), ("Billion", 3), ("Trillion", 4), ("Quadrillion", 5),
    ("Quintillion", 6), ("Sextillion", 7), ("Septillion", 8), ("Octillion", 9), ("Nonillion", 10),
    ("Decillion", 11)]

/-- The groups set aside so far and the group that is being read. -/
structure Reading where
  total : Nat
  group : Nat

namespace Reading

def start : Reading := ⟨0, 0⟩

def word (r : Reading) (w : String) : Option Reading :=
  if w = "Hundred" then some ⟨r.total, r.group * 100⟩
  else match smallNumbers.lookup w with
    | some n => some ⟨r.total, r.group + n⟩
    | none => (thousandPowers.lookup w).map fun k => ⟨r.total + r.group * 1000 ^ k, 0⟩

def words (r : Reading) (ws : List String) : Option Reading :=
  ws.foldlM word r

def value (r : Reading) : Nat :=
  r.total + r.group

end Reading

def readMagnitude? (ws : List String) : Option Nat :=
  (Reading.start.words ws).map Reading.value

def readWords? : List String → Option Int
  | [] => none
  | w :: ws =>
    if w = "Minus" then (readMagnitude? ws).map fun n => -(n : Int)
    else (readMagnitude? (w :: ws)).map Int.ofNat

def readNumber? (text : String) : Option Int :=
  readWords? ((pieces [' '] text.toList).map String.ofList)

/-- The words that numbers are spelled with mean in the dictionary what they are used for. -/
theorem dictionary_sound :
    (∀ n < 20, unitWord n ≠ "Hundred" ∧ smallNumbers.lookup (unitWord n) = some n) ∧
    (∀ n < 10, 2 ≤ n → tensWord n ≠ "Hundred" ∧ smallNumbers.lookup (tensWord n) = some (10 * n)) ∧
    (∀ entry ∈ scales.zipIdx 1, entry.1 ≠ "Hundred" ∧ smallNumbers.lookup entry.1 = none ∧
      thousandPowers.lookup entry.1 = some entry.2) ∧
    "Minus" ∉ vocabulary ∧ ∀ word ∈ "Minus" :: vocabulary, ' ' ∉ word.toList := by
  decide +kernel

namespace Reading
variable {r : Reading} {n : Nat}

theorem words_append (ws vs : List String) : r.words (ws ++ vs) = (r.words ws).bind (·.words vs) :=
  List.foldlM_append

theorem words_cons (w : String) (ws : List String) : r.words (w :: ws) = (r.word w).bind (·.words ws) :=
  List.foldlM_cons

@[simp] theorem words_nil : r.words [] = some r := rfl

theorem word_hundred : r.word "Hundred" = some ⟨r.total, r.group * 100⟩ := rfl

theorem word_unitWord (hn : n < 20) : r.word (unitWord n) = some ⟨r.total, r.group + n⟩ := by
  obtain ⟨hother, hmeans⟩ := dictionary_sound.1 n hn
  rw [word, if_neg hother, hmeans]

theorem word_tensWord (htwo : 2 ≤ n) (hn : n < 10) :
    r.word (tensWord n) = some ⟨r.total, r.group + 10 * n⟩ := by
  obtain ⟨hother, hmeans⟩ := dictionary_sound.2.1 n hn htwo
  rw [word, if_neg hother, hmeans]

theorem word_scale {scale : String} {k : Nat} (h : (scale, k) ∈ scales.zipIdx 1) :
    r.word scale = some ⟨r.total + r.group * 1000 ^ k, 0⟩ := by
  obtain ⟨hother, hlarge, hmeans⟩ := dictionary_sound.2.2.1 _ h
  rw [word, if_neg hother, hlarge, hmeans]
  rfl

theorem words_belowHundred (hn : n < 100) :
    r.words (belowHundred n) = some ⟨r.total, r.group + n⟩ := by
  unfold belowHundred
  by_cases hzero : n = 0
  · simp [hzero]
  · rw [if_neg hzero]
    by_cases hsmall : n < 20
    · rw [if_pos hsmall, words_cons, word_unitWord hsmall]
      rfl
    · have htens : r.word (tensWord (n / 10)) = some ⟨r.total, r.group + 10 * (n / 10)⟩ :=
        word_tensWord (by omega) (by omega)
      have hsum : r.group + 10 * (n / 10) + n % 10 = r.group + n := by omega
      rw [if_neg hsmall, words_cons, htens, Option.bind_some]
      by_cases hround : n % 10 = 0
      · rw [if_pos hround, words_nil, ← hsum, hround, Nat.add_zero]
      · rw [if_neg hround, words_cons, word_unitWord (by omega)]
        simp [hsum]

theorem words_belowThousand {total : Nat} (hn : n < 1000) :
    (Reading.mk total 0).words (belowThousand n) = some ⟨total, n⟩ := by
  unfold belowThousand
  by_cases hsmall : n < 100
  · rw [if_pos hsmall, words_belowHundred hsmall, Nat.zero_add]
  · have hsum : n / 100 * 100 + n % 100 = n := Nat.div_add_mod' n 100
    have hrest : n % 100 < 100 := Nat.mod_lt n (by decide)
    rw [if_neg hsmall, words_cons, word_unitWord (by omega), Option.bind_some, words_cons,
      word_hundred, Option.bind_some, words_belowHundred hrest, Nat.zero_add, hsum]

/-- The groups from a power of one thousand on, read from nothing. -/
theorem words_scaledGroups {names : List String} {k : Nat}
    (hnames : ∀ entry ∈ names.zipIdx k, entry ∈ scales.zipIdx 1) (hn : n < 1000 ^ names.length) :
    start.words (scaledGroups names n) = some ⟨n * 1000 ^ k, 0⟩ := by
  induction names generalizing n k with
  | nil =>
    have hzero : n = 0 := Nat.lt_one_iff.mp hn
    simp [scaledGroups, hzero, start]
  | cons scale higher ih =>
    rw [List.zipIdx_cons, List.forall_mem_cons] at hnames
    obtain ⟨hscale, hhigher⟩ := hnames
    have hbound : n / 1000 < 1000 ^ higher.length := Nat.div_lt_of_lt_mul (by rwa [← Nat.pow_succ'])
    have hgroup : n % 1000 < 1000 := Nat.mod_lt n (by decide)
    have hsum : n / 1000 * 1000 ^ (k + 1) + n % 1000 * 1000 ^ k = n * 1000 ^ k := by
      rw [Nat.pow_succ', ← Nat.mul_assoc, ← Nat.add_mul, Nat.div_add_mod']
    unfold scaledGroups
    rw [words_append, ih hhigher hbound, Option.bind_some, ← hsum]
    by_cases hempty : n % 1000 = 0
    · simp [hempty]
    · rw [if_neg hempty, words_append, words_belowThousand hgroup, Option.bind_some, words_cons,
        word_scale hscale]
      rfl

end Reading

section numbers
variable {n : Nat}

theorem readMagnitude?_natWords (hn : n < spellingLimit) : readMagnitude? (natWords n) = some n := by
  unfold natWords
  by_cases hzero : n = 0
  · subst hzero
    rw [if_pos rfl, readMagnitude?, Reading.words_cons, Reading.word_unitWord (by decide)]
    rfl
  · have hlimit : spellingLimit = 1000 * 1000 ^ scales.length := Nat.pow_succ'
    have hbound : n / 1000 < 1000 ^ scales.length := Nat.div_lt_of_lt_mul (hlimit ▸ hn)
    have hgroups : Reading.start.words (scaledGroups scales (n / 1000)) = some ⟨n / 1000 * 1000, 0⟩ :=
      Reading.words_scaledGroups (fun _ h => h) hbound
    have hlowest : n % 1000 < 1000 := Nat.mod_lt n (by decide)
    rw [if_neg hzero, readMagnitude?, Reading.words_append, hgroups, Option.bind_some,
      Reading.words_belowThousand hlowest, Option.map_some, Reading.value, Nat.div_add_mod']

/-- Two numbers that can be spelled are spelled alike only if they are the same. -/
theorem natWords_injective {m : Nat} (hm : m < spellingLimit) (hn : n < spellingLimit)
    (h : natWords m = natWords n) : m = n := by
  have hread : some m = some n := by
    rw [← readMagnitude?_natWords hm, h, readMagnitude?_natWords hn]
  exact Option.some.inj hread

theorem readWords?_natWords (hn : n < spellingLimit) : readWords? (natWords n) = some (n : Int) := by
  have hread := readMagnitude?_natWords hn
  have hwords := natWords_subset n
  cases hspelled : natWords n with
  | nil => exact absurd hspelled (natWords_ne_nil hn)
  | cons w ws =>
    rw [hspelled] at hread hwords
    have hsign : w ≠ "Minus" := by
      rintro rfl
      exact dictionary_sound.2.2.2.1 (hwords List.mem_cons_self)
    rw [readWords?, if_neg hsign, hread]
    rfl

theorem readWords?_minus (hn : n < spellingLimit) :
    readWords? ("Minus" :: natWords n) = some (-(n : Int)) := by
  rw [readWords?, if_pos rfl, readMagnitude?_natWords hn]
  rfl

end numbers

/-- Words without blanks are found again between the blanks. -/
theorem readNumber?_intercalate {ws : List String} (hne : ws ≠ [])
    (h : ws ⊆ "Minus" :: vocabulary) : readNumber? (" ".intercalate ws) = readWords? ws := by
  have hblank : ∀ piece ∈ ws.map String.toList, ' ' ∉ piece := by
    intro piece hpiece
    obtain ⟨w, hw, rfl⟩ := List.mem_map.mp hpiece
    exact dictionary_sound.2.2.2.2 w (h hw)
  have hpieces : pieces [' '] (" ".intercalate ws).toList = ws.map String.toList := by
    rw [String.toList_intercalate]
    exact pieces_joinWith (by simpa using hne) hblank
  rw [readNumber?, hpieces, List.map_map]
  simp [Function.comp_def]

theorem spellingLimit_eq : spellingLimit = 10 ^ 36 := rfl

theorem readNumber?_numberToWords {i : Int} (hi : i.natAbs < 10 ^ 36) :
    ∃ text, numberToWords i = .ok text ∧ readNumber? text = some i := by
  rw [← spellingLimit_eq] at hi
  have hne := natWords_ne_nil hi
  have hwords : natWords i.natAbs ⊆ "Minus" :: vocabulary :=
    List.subset_cons_of_subset _ (natWords_subset _)
  unfold numberToWords numberWords
  rw [if_neg (Nat.not_le.mpr hi)]
  refine ⟨_, rfl, ?_⟩
  by_cases hnegative : i < 0
  · rw [if_pos hnegative, readNumber?_intercalate (by simp) (by simpa using hwords),
      readWords?_minus hi, ← Int.eq_neg_natAbs_of_nonpos (Int.le_of_lt hnegative)]
  · have hnonneg : ((i.natAbs : Nat) : Int) = i := Int.natAbs_of_nonneg (Int.not_lt.mp hnegative)
    rw [if_neg hnegative, readNumber?_intercalate hne hwords, readWords?_natWords hi, hnonneg]

/-- An integer below 10^36 has a spelling, which is read back as it and is that of no other; any
other is too large to spell. -/
theorem numberToWords_read_back (i : Int) :
    (i.natAbs < 10 ^ 36 ∧ ∃ text, numberToWords i = .ok text ∧ readNumber? text = some i ∧
      ∀ j, numberToWords j = .ok text ↔ j = i) ∨
    (10 ^ 36 ≤ i.natAbs ∧ numberToWords i = .error ⟨i.natAbs⟩) := by
  have hrefused : ∀ j : Int, 10 ^ 36 ≤ j.natAbs → numberToWords j = .error ⟨j.natAbs⟩ := by
    intro j hj
    rw [← spellingLimit_eq] at hj
    rw [numberToWords, numberWords, if_pos hj]
    rfl
  rcases Nat.lt_or_ge i.natAbs (10 ^ 36) with hi | hi
  · obtain ⟨text, hspelled, hread⟩ := readNumber?_numberToWords hi
    refine .inl ⟨hi, text, hspelled, hread, fun j => ⟨fun hj => ?_, fun hj => hj ▸ hspelled⟩⟩
    rcases Nat.lt_or_ge j.natAbs (10 ^ 36) with hsmall | hlarge
    · obtain ⟨text', hspelled', hread'⟩ := readNumber?_numberToWords hsmall
      rw [hj] at hspelled'
      cases hspelled'
      rw [hread] at hread'
      exact (Option.some.inj hread').symm
    · rw [hrefused j hlarge] at hj
      cases hj
  · exact .inr ⟨hi, hrefused i hi⟩

example : readNumber? "Minus One Thousand Forty Two" = some (-1042) := by decide +kernel

end LookupEnums.Name
