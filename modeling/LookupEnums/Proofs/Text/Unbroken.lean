import LookupEnums.Mapping.Field
import LookupEnums.Name.Identifier
import LookupEnums.Proofs.Text.Cut
import LookupEnums.Text.Quoted
import Mathlib.Data.List.Basic
import Mathlib.Data.Char

/-! # Texts on one line

The generated source is read line by line, and five characters end a line. Digits, identifiers and
quoted texts hold none of them; the property passes through all that texts are put together with.
-/
namespace LookupEnums.Text

/-- What holds of all characters of a text is decided over the text, not over all characters. -/
instance (priority := high) decidableForallMem (p : Char → Prop) [DecidablePred p] (s : List Char) :
    Decidable (∀ c ∈ s, p c) :=
  List.decidableBAll p s

def terminators : List Char :=
  ['\n', '\r', '\u0085', '\u2028', '\u2029']

/-- No line ends within the text, except at characters with `allowed`. -/
def Unbroken (allowed : Char → Prop) (s : List Char) : Prop :=
  ∀ c ∈ s, c ∈ terminators → allowed c

namespace Unbroken
variable {allowed : Char → Prop} {s t : List Char} {c : Char}

theorem of_forall (h : ∀ c ∈ s, c ∉ terminators) : Unbroken allowed s :=
  fun c hc hend => absurd hend (h c hc)

theorem subset (h : Unbroken allowed t) (hsub : s ⊆ t) : Unbroken allowed s :=
  fun c hc hend => h c (hsub hc) hend

@[simp] theorem nil : Unbroken allowed [] := fun _ h => absurd h List.not_mem_nil

@[simp] theorem cons_iff :
    Unbroken allowed (c :: s) ↔ (c ∈ terminators → allowed c) ∧ Unbroken allowed s := by
  simp [Unbroken]

@[simp] theorem append_iff :
    Unbroken allowed (s ++ t) ↔ Unbroken allowed s ∧ Unbroken allowed t := by
  simp [Unbroken, or_imp, forall_and]

theorem append (hs : Unbroken allowed s) (ht : Unbroken allowed t) : Unbroken allowed (s ++ t) :=
  append_iff.mpr ⟨hs, ht⟩

theorem cons (hc : c ∉ terminators) (h : Unbroken allowed s) : Unbroken allowed (c :: s) :=
  cons_iff.mpr ⟨fun hend => absurd hend hc, h⟩

theorem replicate {n : Nat} (hc : c ∉ terminators) : Unbroken allowed (List.replicate n c) :=
  of_forall fun _ hd => (List.mem_replicate.mp hd).2 ▸ hc

theorem take (h : Unbroken allowed s) (n : Nat) : Unbroken allowed (s.take n) :=
  h.subset (List.take_subset n s)

theorem drop (h : Unbroken allowed s) (n : Nat) : Unbroken allowed (s.drop n) :=
  h.subset (List.drop_subset n s)

theorem flatMap {α : Type} {items : List α} {f : α → List Char}
    (h : ∀ a ∈ items, Unbroken allowed (f a)) : Unbroken allowed (items.flatMap f) := by
  intro c hc
  obtain ⟨a, ha, hca⟩ := List.mem_flatMap.mp hc
  exact h a ha c hca

theorem map (h : ∀ c ∈ s, c ∉ terminators) {f : Char → Char}
    (hf : ∀ c, c ∉ terminators → f c ∉ terminators) : Unbroken allowed (s.map f) := by
  refine of_forall fun c hc => ?_
  obtain ⟨d, hd, rfl⟩ := List.mem_map.mp hc
  exact hf d (h d hd)

theorem intercalate {sep : List Char} {parts : List (List Char)} (hsep : Unbroken allowed sep)
    (h : ∀ part ∈ parts, Unbroken allowed part) : Unbroken allowed (sep.intercalate parts) := by
  induction parts with
  | nil => simp
  | cons part rest ih =>
    have hrest := ih fun part hpart => h part (List.mem_cons_of_mem _ hpart)
    cases rest with
    | nil => simpa using h part List.mem_cons_self
    | cons next rest =>
      rw [List.intercalate_cons_cons]
      exact ((h part List.mem_cons_self).append hsep).append hrest

end Unbroken

section digits
variable {allowed : Char → Prop}

theorem digitChar_not_terminator (n : Nat) : n.digitChar ∉ terminators := by
  have hsmall : ∀ n < 16, n.digitChar ∉ terminators := by decide
  by_cases hn : n < 16
  · exact hsmall n hn
  · rw [Nat.digitChar_eq_star.mpr (Nat.le_of_not_lt hn)]
    decide

theorem mem_toDigits {base : Nat} (hbase : 1 < base) (n : Nat) :
    ∀ c ∈ Nat.toDigits base n, ∃ d, c = Nat.digitChar d := by
  induction n using Nat.strongRecOn with
  | ind n ih =>
    intro c hc
    by_cases hn : n < base
    · rw [Nat.toDigits_of_lt_base hn, List.mem_singleton] at hc
      exact ⟨n, hc⟩
    · have hle : base ≤ n := Nat.le_of_not_lt hn
      rw [Nat.toDigits_of_base_le hbase hle, List.mem_append, List.mem_singleton] at hc
      rcases hc with hc | rfl
      · have hpos : 0 < n := Nat.lt_of_lt_of_le (Nat.lt_trans Nat.one_pos hbase) hle
        exact ih (n / base) (Nat.div_lt_self hpos hbase) c hc
      · exact ⟨_, rfl⟩

theorem toDigits_not_terminator {base : Nat} (hbase : 1 < base) (n : Nat) :
    ∀ c ∈ Nat.toDigits base n, c ∉ terminators := by
  intro c hc
  obtain ⟨d, rfl⟩ := mem_toDigits hbase n c hc
  exact digitChar_not_terminator d

theorem zeroPadded_not_terminator {s : List Char} (h : ∀ c ∈ s, c ∉ terminators) (width : Nat) :
    ∀ c ∈ zeroPadded width s, c ∉ terminators := by
  intro c hc
  rcases List.mem_append.mp hc with hc | hc
  · rw [(List.mem_replicate.mp hc).2]
    decide
  · exact h c hc

@[simp] theorem unbroken_decimalDigits (n : Nat) : Unbroken allowed (decimalDigits n) :=
  Unbroken.of_forall (toDigits_not_terminator (by decide) n)

@[simp] theorem unbroken_paddedDecimal (width n : Nat) : Unbroken allowed (paddedDecimal width n) :=
  Unbroken.of_forall (zeroPadded_not_terminator (toDigits_not_terminator (by decide) n) width)

@[simp] theorem unbroken_paddedHex (width n : Nat) : Unbroken allowed (paddedHex width n) :=
  Unbroken.of_forall (zeroPadded_not_terminator (toDigits_not_terminator (by decide) n) width)

@[simp] theorem unbroken_intDigits (i : Int) : Unbroken allowed (intDigits i) := by
  unfold intDigits
  split
  · exact Unbroken.cons (by decide) (unbroken_decimalDigits _)
  · exact unbroken_decimalDigits _

theorem toUpper_not_terminator {c : Char} (h : c ∉ terminators) : c.toUpper ∉ terminators := by
  have hletters : ∀ n < 26, (Char.ofNat (97 + n)).toUpper ∉ terminators := by decide
  by_cases hlower : 97 ≤ c.toNat ∧ c.toNat ≤ 122
  · have hc := hletters (c.toNat - 97) (by omega)
    rwa [Nat.add_sub_cancel' hlower.1, Char.ofNat_toNat] at hc
  · have hsame : c.toUpper = c := dif_neg hlower
    rwa [hsame]

@[simp] theorem unbroken_upperHexByte (b : UInt8) : Unbroken allowed (upperHexByte b) :=
  Unbroken.map (zeroPadded_not_terminator (toDigits_not_terminator (by decide) _) 2)
    fun _ => toUpper_not_terminator

end digits

/-- No table has a character that ends a line, and none leads to one. -/
theorem terminators_sound : (∀ c ∈ terminators, isPrintable c = false ∧ isLetter c = false) ∧
    (∀ entry ∈ upperSpelled, ∀ n ∈ entry.2, Char.ofNat n ∉ terminators) ∧
    ∀ run ∈ upperRuns, ∀ t ∈ terminators,
      ¬ ((run.first : Int) + run.shift ≤ t.toNat ∧ (t.toNat : Int) ≤ run.last + run.shift) := by
  decide +kernel

theorem not_terminator_of_isPrintable {c : Char} (h : isPrintable c = true) : c ∉ terminators := by
  intro hend
  rw [(terminators_sound.1 c hend).1] at h
  cases h

section quoted
variable {allowed : Char → Prop}

theorem unbroken_hexEscape (n : Nat) : Unbroken allowed (hexEscape n) := by
  unfold hexEscape
  repeat' split
  all_goals exact Unbroken.cons (by decide) (Unbroken.cons (by decide) (unbroken_paddedHex _ _))

theorem unbroken_escapeInQuotes {mark : Char} (hmark : mark ∉ terminators) (c : Char) :
    Unbroken allowed (escapeInQuotes mark c) := by
  unfold escapeInQuotes
  split
  next h =>
    have hc : c ∉ terminators := by
      simp only [Bool.or_eq_true, decide_eq_true_eq] at h
      rcases h with rfl | rfl
      · exact hmark
      · decide
    exact Unbroken.cons (by decide) (Unbroken.cons hc Unbroken.nil)
  next =>
    repeat' split
    · exact Unbroken.of_forall (by decide)
    · exact Unbroken.of_forall (by decide)
    · exact Unbroken.of_forall (by decide)
    next h => exact Unbroken.cons (not_terminator_of_isPrintable h) Unbroken.nil
    · exact unbroken_hexEscape _

theorem quoteMark_not_terminator (s : List Char) : quoteMark s ∉ terminators := by
  unfold quoteMark
  split <;> decide

@[simp] theorem unbroken_quoted (s : List Char) : Unbroken allowed (quoted s) := by
  have hmark := quoteMark_not_terminator s
  refine Unbroken.append (Unbroken.cons hmark ?_) (Unbroken.cons hmark Unbroken.nil)
  exact Unbroken.flatMap fun c _ => unbroken_escapeInQuotes hmark c

@[simp] theorem unbroken_quotedBytes (content : List UInt8) : Unbroken allowed (quotedBytes content) := by
  have hmark := quoteMark_not_terminator (content.map fun b => Char.ofNat b.toNat)
  refine Unbroken.cons (by decide) ?_
  refine Unbroken.append (Unbroken.cons hmark ?_) (Unbroken.cons hmark Unbroken.nil)
  refine Unbroken.flatMap fun c _ => ?_
  unfold byteInQuotes
  split
  · exact unbroken_hexEscape _
  · exact unbroken_escapeInQuotes hmark c

end quoted

theorem not_terminator_of_isLetter {c : Char} (h : isLetter c = true) : c ∉ terminators := by
  intro hend
  rw [(terminators_sound.1 c hend).2] at h
  cases h

theorem not_terminator_of_isDigit {c : Char} (h : c.isDigit = true) : c ∉ terminators := by
  have hdigit : ∀ c ∈ terminators, c.isDigit = false := by decide
  intro hend
  rw [hdigit c hend] at h
  cases h

theorem toNat_ofNat_of_ne {n : Nat} (h : (Char.ofNat n).toNat ≠ 0) : (Char.ofNat n).toNat = n := by
  by_cases hvalid : n.isValidChar
  · rw [Char.ofNat, dif_pos hvalid]
    rfl
  · rw [Char.ofNat, dif_neg hvalid] at h
    exact absurd rfl h

/-- Upper-casing leads to no character that ends a line. -/
theorem upper_not_terminator {c : Char} (h : c ∉ terminators) : ∀ d ∈ upper c, d ∉ terminators := by
  obtain ⟨-, hspelled, hruns⟩ := terminators_sound
  intro d hd
  unfold upper at hd
  split at hd
  next spelling hlookup =>
    obtain ⟨n, hn, rfl⟩ := List.mem_map.mp hd
    obtain ⟨before, after, hsplit, -⟩ := List.lookup_eq_some_iff.mp hlookup
    exact hspelled (c.toNat, spelling) (by simp [hsplit]) n hn
  next =>
    split at hd
    next run hfind =>
      rw [List.mem_singleton] at hd
      have hholds : run.holds c.toNat = true := by simpa using List.find?_some hfind
      intro hend
      refine hruns run (List.mem_of_find?_eq_some hfind) d hend ?_
      have hpos : ∀ t ∈ terminators, t.toNat ≠ 0 := by decide
      have hne := hpos d hend
      rw [hd] at hne ⊢
      have hvalue := toNat_ofNat_of_ne hne
      rw [hvalue] at hne ⊢
      simp only [CaseRun.holds, Bool.and_eq_true, decide_eq_true_eq] at hholds
      omega
    next =>
      rw [List.mem_singleton] at hd
      rwa [hd]

theorem collapseFrom_not_terminator (raising : Bool) (s : List Char) :
    ∀ c ∈ Name.collapseFrom raising s, c ∉ terminators := by
  induction s generalizing raising with
  | nil => simp [Name.collapseFrom]
  | cons c rest ih =>
    unfold Name.collapseFrom
    split
    next hname =>
      have hc : c ∉ terminators := by
        rcases Bool.or_eq_true_iff.mp hname with hletter | hdigit
        · exact not_terminator_of_isLetter hletter
        · exact not_terminator_of_isDigit hdigit
      intro d hd
      rcases List.mem_append.mp hd with hd | hd
      · split at hd
        · exact upper_not_terminator hc d hd
        · rwa [List.mem_singleton.mp hd]
      · exact ih false d hd
    next =>
      split
      · intro d hd
        have hpercent : ∀ d ∈ "Percent".toList, d ∉ terminators := by decide
        rcases List.mem_append.mp hd with hd | hd
        · exact hpercent d hd
        · exact ih true d hd
      · split
        · intro d hd
          rcases List.mem_cons.mp hd with rfl | hd
          · decide
          · exact ih false d hd
        · exact ih true

theorem normalizeChars_not_terminator (label : List Char) :
    ∀ c ∈ Name.normalizeChars label, c ∉ terminators := by
  unfold Name.normalizeChars
  simp only
  split
  · exact collapseFrom_not_terminator true label
  · intro c hc
    rcases List.mem_append.mp hc with hc | hc
    · exact collapseFrom_not_terminator true _ c hc
    · exact collapseFrom_not_terminator true _ c hc

@[simp] theorem unbroken_normalize (allowed : Char → Prop) (label : String) :
    Unbroken allowed (Name.normalize label).toList := by
  rw [Name.normalize, String.toList_ofList]
  exact Unbroken.of_forall (normalizeChars_not_terminator _)

theorem not_terminator_of_isNameChar {c : Char} (h : Field.isNameChar c = true) :
    c ∉ terminators := by
  have hname : ∀ c ∈ terminators, Field.isNameChar c = false := by decide
  intro hend
  rw [hname c hend] at h
  cases h

theorem isNameChar_of_isIdentifier {name : List Char} (h : Field.isIdentifier name = true) :
    ∀ c ∈ name, Field.isNameChar c = true := by
  intro c hc
  cases name with
  | nil => cases hc
  | cons first rest =>
    obtain ⟨hfirst, hrest⟩ := Bool.and_eq_true_iff.mp h
    rcases List.mem_cons.mp hc with rfl | hc
    · unfold Field.isNameStart at hfirst
      unfold Field.isNameChar Char.isAlphanum
      rcases Bool.or_eq_true_iff.mp hfirst with h | h <;> simp [h]
    · exact List.all_eq_true.mp hrest c hc

theorem not_terminator_of_isIdentifier {name : List Char} (h : Field.isIdentifier name = true) :
    ∀ c ∈ name, c ∉ terminators :=
  fun c hc => not_terminator_of_isNameChar (isNameChar_of_isIdentifier h c hc)

/-- A dotted name consists of dots and the characters of identifiers. -/
theorem isNameChar_of_isDottedIdentifier {name : List Char} (h : Field.isDottedIdentifier name = true) :
    ∀ c ∈ name, c = '.' ∨ Field.isNameChar c = true := by
  intro c hc
  refine (mem_or_mem_pieces (d := '.') hc).imp_right ?_
  rintro ⟨piece, hpiece, hc⟩
  exact isNameChar_of_isIdentifier (List.all_eq_true.mp h piece hpiece) c hc

theorem unbroken_of_isIdentifier {allowed : Char → Prop} {name : String}
    (h : Field.isIdentifier name.toList = true) : Unbroken allowed name.toList :=
  Unbroken.of_forall (not_terminator_of_isIdentifier h)

theorem unbroken_of_isDottedIdentifier {allowed : Char → Prop} {name : String}
    (h : Field.isDottedIdentifier name.toList = true) : Unbroken allowed name.toList := by
  refine Unbroken.of_forall fun c hc => ?_
  rcases isNameChar_of_isDottedIdentifier h c hc with rfl | hname
  · decide
  · exact not_terminator_of_isNameChar hname

end LookupEnums.Text
