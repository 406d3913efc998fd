import LookupEnums.Text.Blank
import Mathlib.Data.List.TakeWhile

/-! # Stripped texts and written lines

A text is as it is after stripping exactly where neither its first nor its last character is a
blank. Lines that are written one after the other, each with a line feed behind it, are read as the
same lines.
-/
namespace LookupEnums.Text
variable {s t l : List Char} {c : Char}

structure Trimmed (s : List Char) : Prop where
  head : ∀ c ∈ s.head?, isBlank c = false
  last : ∀ c ∈ s.getLast?, isBlank c = false

theorem stripStart_eq_self (h : ∀ c ∈ s.head?, isBlank c = false) : stripStart s = s := by
  cases s with
  | nil => rfl
  | cons c s =>
    have hc : isBlank c = false := h c rfl
    rw [stripStart, List.dropWhile_cons, hc]
    rfl

theorem stripEnd_eq_self (h : ∀ c ∈ s.getLast?, isBlank c = false) : stripEnd s = s := by
  have hback : stripStart s.reverse = s.reverse := stripStart_eq_self (by simpa using h)
  rw [stripStart] at hback
  rw [stripEnd, hback, List.reverse_reverse]

theorem Trimmed.strip (h : Trimmed s) : strip s = s := by
  rw [Text.strip, stripStart_eq_self h.head, stripEnd_eq_self h.last]

theorem head?_stripStart (s : List Char) : ∀ c ∈ (stripStart s).head?, isBlank c = false := by
  intro c hc
  induction s with
  | nil => cases hc
  | cons d s ih =>
    rw [stripStart, List.dropWhile_cons] at hc
    split at hc
    · exact ih hc
    next hd =>
      cases hc
      simpa using hd

theorem getLast?_stripEnd (s : List Char) : ∀ c ∈ (stripEnd s).getLast?, isBlank c = false := by
  have hback := head?_stripStart s.reverse
  rw [stripStart] at hback
  simpa [stripEnd] using hback

theorem stripEnd_prefix (s : List Char) : stripEnd s <+: s := by
  have hback : s.reverse.dropWhile isBlank <:+ s.reverse := List.dropWhile_suffix isBlank
  simpa [stripEnd] using List.reverse_prefix.mpr hback

theorem head?_strip {c : Char} (hc : isBlank c = false) (rest : List Char) :
    (strip (c :: rest)).head? = some c := by
  have hstart : stripStart (c :: rest) = c :: rest :=
    stripStart_eq_self fun d hd => Option.some.inj hd ▸ hc
  obtain ⟨more, hmore⟩ := stripEnd_prefix (c :: rest)
  rw [strip, hstart]
  cases hkept : stripEnd (c :: rest) with
  | nil =>
    unfold stripEnd at hkept
    rw [List.reverse_eq_nil_iff, List.dropWhile_eq_nil_iff] at hkept
    have hblank := hkept c (by simp)
    rw [hc] at hblank
    cases hblank
  | cons d kept =>
    rw [hkept] at hmore
    exact congrArg some (List.cons.inj hmore).1

theorem strip_eq_self_iff : strip s = s ↔ Trimmed s := by
  refine ⟨fun h => ⟨?_, ?_⟩, Trimmed.strip⟩
  · -- nothing is lost at the end, so nothing is lost at the start
    have hend : stripEnd (stripStart s) <+: stripStart s := stripEnd_prefix _
    have hstart : stripStart s <:+ s := List.dropWhile_suffix isBlank
    have hlength := hend.length_le
    rw [show stripEnd (stripStart s) = s from h] at hlength
    have hsame : stripStart s = s := hstart.eq_of_length (Nat.le_antisymm hstart.length_le hlength)
    exact hsame ▸ head?_stripStart s
  · have hlast := getLast?_stripEnd (stripStart s)
    rwa [show stripEnd (stripStart s) = s from h] at hlast

/-- Only the ends count: whatever stands between two stripped texts, the whole is stripped. -/
theorem Trimmed.around (hs : Trimmed s) (hne : s ≠ []) (mid : List Char) (ht : Trimmed t)
    (hnet : t ≠ []) : Trimmed (s ++ mid ++ t) where
  head c hc := by
    cases s with
    | nil => exact absurd rfl hne
    | cons d s => exact hs.head c hc
  last c hc := by
    have hlast : t.getLast? = some (t.getLast hnet) := List.getLast?_eq_some_getLast hnet
    rw [List.getLast?_append, hlast, Option.some_or] at hc
    exact ht.last c (hlast.trans hc)

theorem isAllBlank_eq_false (h : Trimmed s) (hne : s ≠ []) : isAllBlank s = false := by
  cases s with
  | nil => exact absurd rfl hne
  | cons c s =>
    have hc := h.head c rfl
    simp [isAllBlank, hc]

section
variable {blanks : List Char}

theorem stripStart_append (h : ∀ c ∈ blanks, isBlank c = true) (s : List Char) :
    stripStart (blanks ++ s) = stripStart s :=
  List.dropWhile_append_of_pos h

theorem stripEnd_append (h : ∀ c ∈ blanks, isBlank c = true) (s : List Char) :
    stripEnd (s ++ blanks) = stripEnd s := by
  have hback : stripStart (blanks.reverse ++ s.reverse) = stripStart s.reverse :=
    stripStart_append (by simpa using h) s.reverse
  rw [stripEnd, List.reverse_append]
  exact congrArg List.reverse hback

theorem stripStart_eq_nil_iff : stripStart s = [] ↔ isAllBlank s = true := by
  rw [stripStart, List.dropWhile_eq_nil_iff, isAllBlank, List.all_eq_true]

theorem strip_append_left (h : ∀ c ∈ blanks, isBlank c = true) (s : List Char) :
    strip (blanks ++ s) = strip s := by
  rw [strip, stripStart_append h]
  rfl

theorem strip_append_right (h : ∀ c ∈ blanks, isBlank c = true) (s : List Char) :
    strip (s ++ blanks) = strip s := by
  by_cases hs : isAllBlank s = true
  · -- all is blank, so stripping the start leaves nothing of either text
    have hblanks : isAllBlank blanks = true := List.all_eq_true.mpr h
    rw [strip, strip, stripStart_append (List.all_eq_true.mp hs), stripStart_eq_nil_iff.mpr hblanks,
      stripStart_eq_nil_iff.mpr hs]
  · have hne : (s.dropWhile isBlank).isEmpty = false :=
      Bool.eq_false_iff.mpr fun hempty => hs (stripStart_eq_nil_iff.mp (List.isEmpty_iff.mp hempty))
    have hstart : stripStart (s ++ blanks) = stripStart s ++ blanks := by
      rw [stripStart, List.dropWhile_append, hne]
      rfl
    rw [strip, hstart, stripEnd_append h]
    rfl

end

theorem unbroken_of_all (h : (s.all fun c => !isLineEnd c) = true) : ∀ c ∈ s, isLineEnd c = false := by
  simpa using h

theorem lines_append (h : ∀ c ∈ l, isLineEnd c = false) (rest : List Char) :
    lines (l ++ '\n' :: rest) = l :: lines rest := by
  induction l with
  | nil => rfl
  | cons c l ih =>
    rw [List.forall_mem_cons] at h
    have hreturn : c ≠ '\r' := by
      rintro rfl
      exact absurd h.1 (by decide)
    rw [List.cons_append, lines, h.1, ih h.2]
    · rfl
    · rintro r rfl
      exact absurd rfl hreturn

theorem lines_cons {c : Char} (hc : isBlank c = false) (rest : List Char) :
    ∃ line more, lines (c :: rest) = (c :: line) :: more := by
  have hend : isLineEnd c = false := by
    unfold isBlank at hc
    unfold isLineEnd
    simp only [Bool.or_eq_false_iff, Bool.and_eq_false_iff, decide_eq_false_iff_not,
      beq_eq_false_iff_ne] at hc ⊢
    omega
  have hreturn : c ≠ '\r' := by
    rintro rfl
    exact absurd hc (by decide)
  rw [lines, hend]
  · cases lines rest with
    | nil => exact ⟨[], [], rfl⟩
    | cons l more => exact ⟨l, more, rfl⟩
  · rintro r rfl
    exact absurd rfl hreturn

/-- Lines that are written with a line feed behind each are read again. -/
theorem lines_flatMap {written : List (List Char)} (h : ∀ l ∈ written, ∀ c ∈ l, isLineEnd c = false) :
    lines (written.flatMap (· ++ ['\n'])) = written := by
  induction written with
  | nil => rfl
  | cons l written ih =>
    rw [List.forall_mem_cons] at h
    rw [List.flatMap_cons, List.append_assoc, List.singleton_append, lines_append h.1, ih h.2]

/-- Unifying line ends leaves what comes before the first carriage return. -/
theorem isPrefix_unifyLineEnds {head s : List Char} (h : head <+: s) (hreturn : '\r' ∉ head) :
    head <+: unifyLineEnds s := by
  obtain ⟨rest, rfl⟩ := h
  induction head with
  | nil => exact List.nil_prefix
  | cons c head ih =>
    have hc : c ≠ '\r' := fun hc => hreturn (hc ▸ List.mem_cons_self)
    have hrest := ih fun hmem => hreturn (List.mem_cons_of_mem _ hmem)
    rw [List.cons_append, unifyLineEnds.eq_4 _ _ (fun _ hc' _ => hc hc') hc]
    exact List.cons_prefix_cons.mpr ⟨rfl, hrest⟩

end LookupEnums.Text
