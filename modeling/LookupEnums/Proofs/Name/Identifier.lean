import LookupEnums.Proofs.Name.Numeral
import LookupEnums.Proofs.Text.Digits
import LookupEnums.Proofs.Text.UpperCase

/-! # Names made of labels

A label with nothing to make a name of gives the empty name. Every other name starts with an
underscore or a letter that is its own upper case, and goes on with letters, digits, underscores and
the combining marks that come with some upper cases. Such a mark is dropped when the name is made
into a name again, and only then does the name change. -/

namespace LookupEnums.Name
open Text

def isCapitalised : List Char → Bool
  | [] => false
  | first :: rest => (first :: rest).all isLetter && upper first == [first]

/-- Digits are no letters, and all that is written in place of other characters is words of letters
that start with a capital. -/
theorem written_sound :
    (∀ n < 10, isLetter (Char.ofNat (48 + n)) = false) ∧
    (∀ c ∈ '_' :: "Percent".toList, ∀ d ∈ upper c, isMark d = false) ∧
    ∀ word ∈ vocabulary, word.toList.all isLetter = true ∧
      (word.toList.headD 'a').toNat < 'a'.toNat := by
  decide +kernel

theorem isCapitalised_of_mem_vocabulary {word : String} (h : word ∈ vocabulary) :
    isCapitalised word.toList = true := by
  obtain ⟨hletters, hcapital⟩ := written_sound.2.2 word h
  cases hword : word.toList with
  | nil =>
    rw [hword] at hcapital
    exact absurd hcapital (Nat.lt_irrefl _)
  | cons first rest =>
    rw [hword] at hletters hcapital
    have hself : upper first = [first] := upper_of_lt hcapital
    rw [isCapitalised, hletters, hself, Bool.true_and, beq_self_eq_true]

theorem upper_of_isDigit {c : Char} (hc : c.isDigit = true) :
    upper c = [c] ∧ isLetter c = false := by
  simp only [Char.isDigit, Bool.and_eq_true, decide_eq_true_eq] at hc
  have hfirst : 48 ≤ c.toNat := hc.1
  have hlast : c.toNat ≤ 57 := hc.2
  have hcode : 'a'.toNat = 97 := rfl
  have hletter := written_sound.1 (c.toNat - 48) (by omega)
  rw [Nat.add_sub_cancel' hfirst, Char.ofNat_toNat] at hletter
  exact ⟨upper_of_lt (by omega), hletter⟩

def isWordChar (c : Char) : Bool :=
  isLetter c || c.isDigit

/-- A character that stays in the middle of a name. -/
def isKept (c : Char) : Bool :=
  isWordChar c || c == '_'

def isUsable (c : Char) : Bool :=
  isWordChar c || c == '%' || c == '_' || c == '-'

section character
variable {c : Char} {s : List Char} {raising : Bool}

theorem isUsable_iff :
    isUsable c = true ↔ isWordChar c = true ∨ c = '%' ∨ c = '_' ∨ c = '-' := by
  simp [isUsable, or_assoc]

theorem collapseFrom_cons : collapseFrom raising (c :: s) =
    if isWordChar c then (if raising then upper c else [c]) ++ collapseFrom false s
    else if c = '%' then "Percent".toList ++ collapseFrom true s
    else if c = '_' || c = '-' then '_' :: collapseFrom false s
    else collapseFrom true s := rfl

theorem collapseFrom_word (hc : isWordChar c = true) :
    collapseFrom raising (c :: s) =
      (if raising then upper c else [c]) ++ collapseFrom false s := by
  rw [collapseFrom_cons, if_pos hc]

@[simp] theorem collapseFrom_percent :
    collapseFrom raising ('%' :: s) = "Percent".toList ++ collapseFrom true s := by
  have hword : ¬ isWordChar '%' = true := by decide
  rw [collapseFrom_cons, if_neg hword, if_pos rfl]

@[simp] theorem collapseFrom_underscore :
    collapseFrom raising ('_' :: s) = '_' :: collapseFrom false s := by
  have hword : ¬ isWordChar '_' = true := by decide
  rw [collapseFrom_cons, if_neg hword, if_neg (by decide), if_pos (by decide)]

@[simp] theorem collapseFrom_hyphen :
    collapseFrom raising ('-' :: s) = '_' :: collapseFrom false s := by
  have hword : ¬ isWordChar '-' = true := by decide
  rw [collapseFrom_cons, if_neg hword, if_neg (by decide), if_pos (by decide)]

theorem collapseFrom_unusable (hc : isUsable c = false) :
    collapseFrom raising (c :: s) = collapseFrom true s := by
  simp only [isUsable, isWordChar, Bool.or_eq_false_iff, beq_eq_false_iff_ne] at hc
  obtain ⟨⟨⟨⟨hletter, hdigit⟩, hpercent⟩, hunderscore⟩, hhyphen⟩ := hc
  simp [collapseFrom, hletter, hdigit, hpercent, hunderscore, hhyphen]

end character

/-- A character that upper-casing leaves alone at the start of a name, or a digit. -/
def IsSettled (c : Char) : Prop :=
  c = '_' ∨ isWordChar c = true ∧ upper c = [c]

section settled
variable {c : Char} {s : List Char}

theorem isUsable_of_isSettled (h : IsSettled c) : isUsable c = true := by
  rcases h with rfl | ⟨hword, -⟩
  · decide
  · exact isUsable_iff.mpr (.inl hword)

/-- The upper case of a letter or digit starts with a letter or digit that is its own upper case. -/
theorem upper_head_isSettled (hc : isWordChar c = true) :
    ∃ first rest, upper c = first :: rest ∧ IsSettled first := by
  rcases Bool.or_eq_true_iff.mp hc with hletter | hdigit
  · obtain ⟨first, rest, hupper, hfirst⟩ := upper_eq_cons hletter
    refine ⟨first, rest, hupper, .inr ⟨Bool.or_eq_true_iff.mpr (.inl hfirst), ?_⟩⟩
    have hmem : first ∈ upper c := by simp [hupper]
    rcases letter_or_mark_of_mem_upper hletter first hmem with ⟨-, hself⟩ | hmark
    · exact hself
    · rw [isLetter_of_isMark hmark] at hfirst
      cases hfirst
  · have hself := (upper_of_isDigit hdigit).1
    exact ⟨c, [], hself, .inr ⟨hc, hself⟩⟩

theorem collapse_head_isSettled (s : List Char) {first : Char}
    (h : (collapse s).head? = some first) : IsSettled first := by
  unfold collapse at h
  induction s with
  | nil => cases h
  | cons c rest ih =>
    cases husable : isUsable c with
    | false =>
      rw [collapseFrom_unusable husable] at h
      exact ih h
    | true =>
      rcases isUsable_iff.mp husable with hword | rfl | rfl | rfl
      · obtain ⟨initial, more, hupper, hsettled⟩ := upper_head_isSettled hword
        rw [collapseFrom_word hword, if_pos rfl, hupper] at h
        cases h
        exact hsettled
      · rw [collapseFrom_percent] at h
        cases h
        exact .inr ⟨by decide, upper_of_lt (by decide)⟩
      · rw [collapseFrom_underscore] at h
        cases h
        exact .inl rfl
      · rw [collapseFrom_hyphen] at h
        cases h
        exact .inl rfl

/-- Nothing is raised in a text that starts with its own upper case. -/
theorem collapse_of_isSettled (h : ∀ first ∈ s.head?, IsSettled first) :
    collapse s = collapseFrom false s := by
  unfold collapse
  cases s with
  | nil => rfl
  | cons first rest =>
    rcases h first rfl with rfl | ⟨hword, hself⟩
    · simp
    · simp [collapseFrom_word hword, hself]

end settled

theorem collapseFrom_eq_nil_iff {raising : Bool} {s : List Char} :
    collapseFrom raising s = [] ↔ ∀ c ∈ s, isUsable c = false := by
  induction s generalizing raising with
  | nil => simp [collapseFrom]
  | cons c rest ih =>
    rw [List.forall_mem_cons]
    cases husable : isUsable c with
    | false =>
      rw [collapseFrom_unusable husable, ih]
      simp
    | true =>
      simp only [Bool.true_eq_false, false_and, iff_false]
      rcases isUsable_iff.mp husable with hword | rfl | rfl | rfl
      · obtain ⟨first, more, hupper, -⟩ := upper_head_isSettled hword
        rw [collapseFrom_word hword]
        cases raising with
        | false => simp
        | true => simp [hupper]
      · simp
      · simp
      · simp

theorem mem_collapseFrom {raising : Bool} {s : List Char} {d : Char}
    (hd : d ∈ collapseFrom raising s) :
    (d ∈ s ∧ isWordChar d = true) ∨ (∃ c ∈ s, isLetter c = true ∧ d ∈ upper c) ∨
      d ∈ '_' :: "Percent".toList := by
  induction s generalizing raising with
  | nil => cases hd
  | cons c rest ih =>
    have later : ∀ {raising}, d ∈ collapseFrom raising rest →
        (d ∈ c :: rest ∧ isWordChar d = true) ∨
          (∃ l ∈ c :: rest, isLetter l = true ∧ d ∈ upper l) ∨ d ∈ '_' :: "Percent".toList := by
      intro raising hlater
      rcases ih hlater with ⟨hmem, hword⟩ | ⟨l, hl, hupper⟩ | hconstant
      · exact .inl ⟨List.mem_cons_of_mem _ hmem, hword⟩
      · exact .inr (.inl ⟨l, List.mem_cons_of_mem _ hl, hupper⟩)
      · exact .inr (.inr hconstant)
    cases husable : isUsable c with
    | false =>
      rw [collapseFrom_unusable husable] at hd
      exact later hd
    | true =>
      rcases isUsable_iff.mp husable with hword | rfl | rfl | rfl
      · rw [collapseFrom_word hword, List.mem_append] at hd
        rcases hd with hd | hd
        · split at hd
          · rcases Bool.or_eq_true_iff.mp hword with hletter | hdigit
            · exact .inr (.inl ⟨c, List.mem_cons_self, hletter, hd⟩)
            · rw [(upper_of_isDigit hdigit).1, List.mem_singleton] at hd
              exact .inl ⟨hd ▸ List.mem_cons_self, hd ▸ hword⟩
          · rw [List.mem_singleton] at hd
            exact .inl ⟨hd ▸ List.mem_cons_self, hd ▸ hword⟩
        · exact later hd
      · rw [collapseFrom_percent, List.mem_append] at hd
        rcases hd with hd | hd
        · exact .inr (.inr (List.mem_cons_of_mem _ hd))
        · exact later hd
      · rw [collapseFrom_underscore, List.mem_cons] at hd
        rcases hd with rfl | hd
        · exact .inr (.inr List.mem_cons_self)
        · exact later hd
      · rw [collapseFrom_hyphen, List.mem_cons] at hd
        rcases hd with rfl | hd
        · exact .inr (.inr List.mem_cons_self)
        · exact later hd

/-- Without raising, the texts that stay the same are those whose characters all stay. -/
theorem collapseFrom_false_eq_self_iff {s : List Char} :
    collapseFrom false s = s ↔ ∀ c ∈ s, isKept c = true := by
  induction s with
  | nil => simp [collapseFrom]
  | cons c rest ih =>
    rw [List.forall_mem_cons]
    cases husable : isUsable c with
    | false =>
      have hkept : isKept c = false := by
        cases hkept : isKept c with
        | false => rfl
        | true =>
          rcases Bool.or_eq_true_iff.mp hkept with hword | hunderscore
          · simp [isUsable, hword] at husable
          · simp [isUsable, hunderscore] at husable
      rw [collapseFrom_unusable husable, hkept]
      simp only [Bool.false_eq_true, false_and, iff_false]
      -- a usable character has taken the place of the one that went
      intro hsame
      have hsettled := collapse_head_isSettled rest (by rw [collapse, hsame]; rfl)
      rw [isUsable_of_isSettled hsettled] at husable
      cases husable
    | true =>
      rcases isUsable_iff.mp husable with hword | rfl | rfl | rfl
      · rw [collapseFrom_word hword]
        simp [isKept, hword, ih]
      · have hkept : isKept '%' = false := by decide
        simp [hkept]
      · have hkept : isKept '_' = true := by decide
        simp [hkept, ih]
      · have hkept : isKept '-' = false := by decide
        simp [hkept]

section capitalised
variable {w s : List Char} {ws : List (List Char)}

theorem isCapitalised_append (hw : isCapitalised w = true) (hs : ∀ c ∈ s, isLetter c = true) :
    isCapitalised (w ++ s) = true := by
  cases w with
  | nil => cases hw
  | cons first rest =>
    simp only [isCapitalised, List.cons_append, List.all_cons, List.all_append, Bool.and_eq_true,
      List.all_eq_true] at hw ⊢
    exact ⟨⟨hw.1.1, hw.1.2, hs⟩, hw.2⟩

theorem isLetter_of_mem_capitalised (hw : isCapitalised w = true) : ∀ c ∈ w, isLetter c = true := by
  cases w with
  | nil => cases hw
  | cons first rest => exact List.all_eq_true.mp (Bool.and_eq_true_iff.mp hw).1

theorem isCapitalised_flatten (hws : ws ≠ []) (h : ∀ w ∈ ws, isCapitalised w = true) :
    isCapitalised ws.flatten = true := by
  cases ws with
  | nil => exact absurd rfl hws
  | cons w rest =>
    rw [List.flatten_cons]
    refine isCapitalised_append (h w List.mem_cons_self) fun c hc => ?_
    obtain ⟨v, hv, hcv⟩ := List.mem_flatten.mp hc
    exact isLetter_of_mem_capitalised (h v (List.mem_cons_of_mem _ hv)) c hcv

theorem collapseFrom_false_append (hw : ∀ c ∈ w, isLetter c = true) :
    collapseFrom false (w ++ s) = w ++ collapseFrom false s := by
  induction w with
  | nil => rfl
  | cons c rest ih =>
    obtain ⟨hc, hrest⟩ := List.forall_mem_cons.mp hw
    have hword : isWordChar c = true := Bool.or_eq_true_iff.mpr (.inl hc)
    rw [List.cons_append, collapseFrom_word hword, ih hrest]
    rfl

theorem collapse_append (hw : isCapitalised w = true) :
    collapse (w ++ s) = w ++ collapseFrom false s := by
  have hletters := isLetter_of_mem_capitalised hw
  rw [collapse_of_isSettled ?_, collapseFrom_false_append hletters]
  cases w with
  | nil => cases hw
  | cons first rest =>
    intro c hc
    cases hc
    have hself := (Bool.and_eq_true_iff.mp hw).2
    exact .inr ⟨Bool.or_eq_true_iff.mpr (.inl (hletters first List.mem_cons_self)), by simpa using hself⟩

/-- Words with blanks between them become one word. -/
theorem collapse_intercalate (h : ∀ w ∈ ws, isCapitalised w = true) :
    collapse ([' '].intercalate ws) = ws.flatten := by
  have hblank : isUsable ' ' = false := by decide
  induction ws with
  | nil => rfl
  | cons w rest ih =>
    have hw := h w List.mem_cons_self
    cases rest with
    | nil => simpa [collapseFrom] using collapse_append (s := []) hw
    | cons next more =>
      have hrest := ih fun v hv => h v (List.mem_cons_of_mem _ hv)
      rw [List.intercalate_cons_cons, List.append_assoc, collapse_append hw, List.singleton_append,
        collapseFrom_unusable hblank, List.flatten_cons]
      exact congrArg (w ++ ·) hrest

end capitalised

section numerals
variable {numeral : List Char}

theorem isCapitalised_numeralWords (h : ∀ c ∈ numeral, c.isDigit = true) :
    ∀ w ∈ (numeralWords (digitValues numeral)).map String.toList, isCapitalised w = true := by
  intro w hw
  obtain ⟨word, hword, rfl⟩ := List.mem_map.mp hw
  exact isCapitalised_of_mem_vocabulary (numeralWords_subset (digitValues_lt h) hword)

/-- The name of a numeral is its words without the blanks. -/
theorem collapse_spellNumeral (h : ∀ c ∈ numeral, c.isDigit = true) :
    collapse (spellNumeral numeral) =
      ((numeralWords (digitValues numeral)).map String.toList).flatten := by
  have hspelled : spellNumeral numeral =
      [' '].intercalate ((numeralWords (digitValues numeral)).map String.toList) := by
    rw [spellNumeral, String.toList_intercalate]
    rfl
  rw [hspelled, collapse_intercalate (isCapitalised_numeralWords h)]

/-- A numeral becomes one word. -/
theorem isCapitalised_collapse_spellNumeral (hne : numeral ≠ [])
    (h : ∀ c ∈ numeral, c.isDigit = true) : isCapitalised (collapse (spellNumeral numeral)) = true := by
  have hdigits : digitValues numeral ≠ [] := by
    obtain ⟨c, rest, rfl⟩ := List.exists_cons_of_ne_nil hne
    rw [digitValues_cons (h c List.mem_cons_self)]
    exact List.cons_ne_nil _ _
  rw [collapse_spellNumeral h]
  exact isCapitalised_flatten (by simpa using numeralWords_ne_nil hdigits) (isCapitalised_numeralWords h)

end numerals

section names
variable {label : List Char}

/-- A name is what the label collapses to, or a word for its numeral and what follows it. -/
theorem normalizeChars_cases (label : List Char) :
    (normalizeChars label = collapse label ∧ ∀ c ∈ (collapse label).head?, c.isDigit = false) ∨
      collapse label ≠ [] ∧ ∃ w, isCapitalised w = true ∧
        normalizeChars label = w ++ collapse ((collapse label).dropWhile Char.isDigit) := by
  unfold normalizeChars
  simp only [List.isEmpty_iff]
  split
  next hnone =>
    refine .inl ⟨rfl, fun c hc => ?_⟩
    obtain ⟨rest, hname⟩ := List.head?_eq_some_iff.mp hc
    rw [hname, List.takeWhile_cons] at hnone
    cases hdigit : c.isDigit with
    | false => rfl
    | true => simp [hdigit] at hnone
  next hsome =>
    have hdigits : ∀ c ∈ (collapse label).takeWhile Char.isDigit, c.isDigit = true :=
      fun c hc => List.mem_takeWhile_imp hc
    refine .inr ⟨fun hnil => hsome (by rw [hnil]; rfl), _, ?_, rfl⟩
    exact isCapitalised_collapse_spellNumeral hsome hdigits

theorem normalizeChars_eq_nil_iff :
    normalizeChars label = [] ↔ ∀ c ∈ label, isUsable c = false := by
  rcases normalizeChars_cases label with ⟨hname, -⟩ | ⟨hne, w, hw, hname⟩
  · rw [hname]
    exact collapseFrom_eq_nil_iff
  · have hword : w ≠ [] := fun hnil => by
      rw [hnil] at hw
      cases hw
    rw [hname, List.append_eq_nil_iff]
    constructor
    · intro h
      exact absurd h.1 hword
    · intro h
      exact absurd (collapseFrom_eq_nil_iff.mpr h) hne

theorem normalizeChars_head {first : Char} (h : (normalizeChars label).head? = some first) :
    IsSettled first ∧ first.isDigit = false := by
  rcases normalizeChars_cases label with ⟨hname, hdigit⟩ | ⟨-, w, hw, hname⟩
  · rw [hname] at h
    exact ⟨collapse_head_isSettled label h, hdigit first h⟩
  · rw [hname] at h
    cases w with
    | nil => cases hw
    | cons head rest =>
      cases h
      obtain ⟨hletters, hself⟩ := Bool.and_eq_true_iff.mp hw
      have hletter : isLetter first = true := List.all_eq_true.mp hletters first List.mem_cons_self
      refine ⟨.inr ⟨Bool.or_eq_true_iff.mpr (.inl hletter), by simpa using hself⟩, ?_⟩
      cases hdigit : first.isDigit with
      | false => rfl
      | true =>
        rw [(upper_of_isDigit hdigit).2] at hletter
        cases hletter

/-- A combining mark that comes with the upper case of a letter. -/
def IsUpperMark (c : Char) : Prop :=
  isMark c = true ∧ ∃ l, isLetter l = true ∧ c ∈ upper l

theorem isKept_of_isLetter {c : Char} (hc : isLetter c = true) : isKept c = true := by
  simp [isKept, isWordChar, hc]

theorem isKept_of_isMark {c : Char} (hc : isMark c = true) : isKept c = false := by
  cases hkept : isKept c with
  | false => rfl
  | true =>
    exfalso
    rcases Bool.or_eq_true_iff.mp hkept with hword | hunderscore
    · rcases Bool.or_eq_true_iff.mp hword with hletter | hdigit
      · rw [isLetter_of_isMark hc] at hletter
        cases hletter
      · simp only [Char.isDigit, Bool.and_eq_true, decide_eq_true_eq] at hdigit
        simp only [isMark, isMarkCode, Bool.and_eq_true, decide_eq_true_eq] at hc
        have hvalue : c.toNat ≤ 57 := hdigit.2
        omega
    · rw [beq_iff_eq.mp hunderscore] at hc
      revert hc
      decide

/-- Each character of a collapsed text stays in a name, or is the mark of a letter of the text. -/
theorem kept_or_mark_of_mem_collapseFrom {raising : Bool} {s : List Char} {d : Char}
    (hd : d ∈ collapseFrom raising s) :
    isKept d = true ∨ isMark d = true ∧ ∃ l ∈ s, isLetter l = true ∧ d ∈ upper l := by
  have hconstant : ∀ d ∈ '_' :: "Percent".toList, isKept d = true := by decide
  rcases mem_collapseFrom hd with ⟨-, hword⟩ | ⟨l, hl, hletter, hupper⟩ | hd
  · exact .inl (by simp [isKept, hword])
  · rcases letter_or_mark_of_mem_upper hletter d hupper with ⟨hd, -⟩ | hmark
    · exact .inl (isKept_of_isLetter hd)
    · exact .inr ⟨hmark, l, hl, hletter, hupper⟩
  · exact .inl (hconstant d hd)

/-- The marks of a name come from letters of the label itself. -/
theorem kept_or_mark_of_mem_normalizeChars {d : Char} (hd : d ∈ normalizeChars label) :
    isKept d = true ∨ isMark d = true ∧ ∃ l ∈ label, isLetter l = true ∧ d ∈ upper l := by
  rcases normalizeChars_cases label with ⟨hname, -⟩ | ⟨-, w, hw, hname⟩
  · rw [hname] at hd
    exact kept_or_mark_of_mem_collapseFrom hd
  · rw [hname, List.mem_append] at hd
    rcases hd with hd | hd
    · exact .inl (isKept_of_isLetter (isLetter_of_mem_capitalised hw d hd))
    · rcases kept_or_mark_of_mem_collapseFrom hd with hkept | ⟨hmark, l, hl, hletter, hupper⟩
      · exact .inl hkept
      · have hplain : upper l ≠ [l] := by
          intro hself
          rw [hself, List.mem_singleton] at hupper
          rw [← hupper, isLetter_of_isMark hmark] at hletter
          cases hletter
        -- a letter of the collapsed label with such an upper case was a letter of the label
        have hname : l ∈ collapse label := List.dropWhile_subset _ hl
        rcases mem_collapseFrom hname with ⟨hmem, -⟩ | ⟨c, hc, hcletter, hcupper⟩ | hmem
        · exact .inr ⟨hmark, l, hmem, hletter, hupper⟩
        · rcases letter_or_mark_of_mem_upper hcletter l hcupper with ⟨-, hself⟩ | hlmark
          · exact absurd hself hplain
          · rw [isLetter_of_isMark hlmark] at hletter
            cases hletter
        · rw [written_sound.2.1 l hmem d hupper] at hmark
          cases hmark

theorem normalizeChars_eq_self_iff (hhead : ∀ first ∈ label.head?,
    IsSettled first ∧ first.isDigit = false) :
    normalizeChars label = label ↔ ∀ c ∈ label, isKept c = true := by
  have hcollapse : collapse label = collapseFrom false label :=
    collapse_of_isSettled fun first hfirst => (hhead first hfirst).1
  have hnumeral : (collapse label).takeWhile Char.isDigit = [] := by
    rw [hcollapse]
    cases label with
    | nil => rfl
    | cons first rest =>
      obtain ⟨hsettled, hdigit⟩ := hhead first rfl
      rcases hsettled with rfl | ⟨hword, -⟩
      · simp
      · simp [collapseFrom_word hword, hdigit]
  have hname : normalizeChars label = collapseFrom false label := by
    rw [normalizeChars, hnumeral, ← hcollapse]
    rfl
  rw [hname]
  exact collapseFrom_false_eq_self_iff

end names

/-- The name of a label is empty if nothing of the label can be used. Else it starts with an
underscore or the first character of the upper case of a letter, never with a digit, and goes on with
letters, digits, underscores and marks of upper cases. -/
theorem normalize_empty_or_identifier (label : String) :
    (normalize label = "" ∧ ∀ c ∈ label.toList, isUsable c = false) ∨
      (∃ c ∈ label.toList, isUsable c = true) ∧
        ∃ first rest, (normalize label).toList = first :: rest ∧
          (first = '_' ∨ ∃ l, isLetter l = true ∧ (upper l).head? = some first) ∧
          first.isDigit = false ∧
          ∀ c ∈ rest, isLetter c = true ∨ c.isDigit = true ∨ c = '_' ∨ IsUpperMark c := by
  cases hname : normalizeChars label.toList with
  | nil => exact .inl ⟨by rw [normalize, hname], normalizeChars_eq_nil_iff.mp hname⟩
  | cons first rest =>
    right
    have husable : ∃ c ∈ label.toList, isUsable c = true := by
      by_contra hnone
      have hnil := normalizeChars_eq_nil_iff.mpr fun c hc =>
        Bool.eq_false_iff.mpr fun husable => hnone ⟨c, hc, husable⟩
      rw [hname] at hnil
      cases hnil
    have hhead : (normalizeChars label.toList).head? = some first := by rw [hname]; rfl
    obtain ⟨hsettled, hdigit⟩ := normalizeChars_head hhead
    refine ⟨husable, first, rest, by rw [normalize, String.toList_ofList, hname], ?_, hdigit, ?_⟩
    · rcases hsettled with hunderscore | ⟨hword, hself⟩
      · exact .inl hunderscore
      · rw [isWordChar, hdigit, Bool.or_false] at hword
        exact .inr ⟨first, hword, by rw [hself]; rfl⟩
    · intro c hc
      have hmem : c ∈ normalizeChars label.toList := by
        rw [hname]
        exact List.mem_cons_of_mem _ hc
      rcases kept_or_mark_of_mem_normalizeChars hmem with hkept | ⟨hmark, l, -, hletter, hupper⟩
      · simp only [isKept, isWordChar, Bool.or_eq_true, beq_iff_eq, or_assoc] at hkept
        rcases hkept with hletter | hdigit | hunderscore
        · exact .inl hletter
        · exact .inr (.inl hdigit)
        · exact .inr (.inr (.inl hunderscore))
      · exact .inr (.inr (.inr ⟨hmark, l, hletter, hupper⟩))

/-- A name is its own name unless it holds a mark, and it holds none when the upper cases of the
letters of its label are letters only. -/
theorem normalize_normalize_iff (label : String) :
    (normalize (normalize label) = normalize label ↔
        ∀ c ∈ (normalize label).toList, isMark c = false) ∧
      ((∀ l ∈ label.toList, isLetter l = true → ∀ c ∈ upper l, isLetter c = true) →
        normalize (normalize label) = normalize label) := by
  have hchars : (normalize label).toList = normalizeChars label.toList := String.toList_ofList
  have hiff : normalize (normalize label) = normalize label ↔
      ∀ c ∈ (normalize label).toList, isMark c = false := by
    rw [← String.toList_inj, hchars, normalize, String.toList_ofList, hchars,
      normalizeChars_eq_self_iff fun first hfirst => normalizeChars_head hfirst]
    constructor
    · intro hkept c hc
      cases hmark : isMark c with
      | false => rfl
      | true =>
        rw [← hkept c hc, isKept_of_isMark hmark]
    · intro hmarks c hc
      rcases kept_or_mark_of_mem_normalizeChars hc with hkept | ⟨hmark, -⟩
      · exact hkept
      · rw [hmarks c hc] at hmark
        cases hmark
  refine ⟨hiff, fun hletters => hiff.mpr fun c hc => ?_⟩
  rw [hchars] at hc
  cases hmark : isMark c with
  | false => rfl
  | true =>
    rcases kept_or_mark_of_mem_normalizeChars hc with hkept | ⟨-, l, hl, hletter, hupper⟩
    · rw [← hkept, isKept_of_isMark hmark]
    · rw [← hletters l hl hletter c hupper, isLetter_of_isMark hmark]

theorem normalize_normalize_street :
    normalize (normalize "1. straße") = normalize "1. straße" :=
  (normalize_normalize_iff "1. straße").2 (by decide +kernel)

/-- The upper case of the first letter is two characters; the second is dropped the next time. -/
theorem normalize_jota : normalize (normalize "ǰj") ≠ normalize "ǰj" := by
  decide +kernel

end LookupEnums.Name
