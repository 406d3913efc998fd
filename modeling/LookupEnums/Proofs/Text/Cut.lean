import LookupEnums.Text.Cut
import Mathlib.Data.List.TakeWhile

/-! # Pieces between single characters

A text falls into its pieces between the places of a character and is their join; and a list of
pieces that do not hold the character is what their join falls into.
-/
namespace LookupEnums.Text
variable {d c : Char} {s : List Char}

theorem pieces_nil (d : Char) : pieces [d] [] = [[]] := rfl

theorem pieces_cons_self (d : Char) (s : List Char) : pieces [d] (d :: s) = [] :: pieces [d] s := by
  unfold pieces
  rw [piecesFrom, if_pos (by simp)]
  rfl

theorem pieces_cons_of_ne (h : c ≠ d) {piece : List Char} {rest : List (List Char)}
    (hs : pieces [d] s = piece :: rest) : pieces [d] (c :: s) = (c :: piece) :: rest := by
  unfold pieces at hs ⊢
  rw [piecesFrom, if_neg (by simpa using h.symm), hs]

theorem exists_pieces_eq_cons (d : Char) (s : List Char) :
    ∃ piece rest, pieces [d] s = piece :: rest := by
  induction s with
  | nil => exact ⟨[], [], rfl⟩
  | cons c s ih =>
    obtain ⟨piece, rest, hs⟩ := ih
    by_cases h : c = d
    · subst h
      exact ⟨[], pieces [c] s, pieces_cons_self c s⟩
    · exact ⟨c :: piece, rest, pieces_cons_of_ne h hs⟩

/-- Induction over a text by its pieces: none, one more piece, one more character of the first. -/
theorem pieces_induction {motive : List Char → List (List Char) → Prop} (d : Char)
    (hnil : motive [] [[]]) (hself : ∀ s, motive s (pieces [d] s) → motive (d :: s) ([] :: pieces [d] s))
    (hother : ∀ c s piece rest, c ≠ d → motive s (piece :: rest) → motive (c :: s) ((c :: piece) :: rest))
    (s : List Char) : motive s (pieces [d] s) := by
  induction s with
  | nil => exact hnil
  | cons c s ih =>
    by_cases h : c = d
    · subst h
      rw [pieces_cons_self]
      exact hself s ih
    · obtain ⟨piece, rest, hs⟩ := exists_pieces_eq_cons d s
      rw [pieces_cons_of_ne h hs]
      exact hother c s piece rest h (hs ▸ ih)

theorem joinWith_cons_cons (sep a b : List Char) (rest : List (List Char)) :
    joinWith sep (a :: b :: rest) = a ++ sep ++ joinWith sep (b :: rest) :=
  List.intercalate_cons_cons

/-- A text is the join of its pieces. -/
theorem joinWith_pieces (d : Char) (s : List Char) : joinWith [d] (pieces [d] s) = s := by
  refine pieces_induction (motive := fun s parts => joinWith [d] parts = s) d rfl ?_ ?_ s
  · intro s ih
    obtain ⟨piece, rest, hs⟩ := exists_pieces_eq_cons d s
    rw [hs] at ih ⊢
    rw [joinWith_cons_cons, ih]
    rfl
  · intro c s piece rest _ ih
    cases rest with
    | nil =>
      simp only [joinWith, List.intercalate_singleton] at ih ⊢
      rw [ih]
    | cons next rest =>
      rw [joinWith_cons_cons] at ih ⊢
      rw [← ih]
      rfl

theorem not_mem_of_mem_pieces (d : Char) (s : List Char) : ∀ piece ∈ pieces [d] s, d ∉ piece := by
  refine pieces_induction (motive := fun _ parts => ∀ piece ∈ parts, d ∉ piece) d (by simp) ?_ ?_ s
  · intro s ih
    simpa using ih
  · intro c s piece rest hne ih
    rw [List.forall_mem_cons] at ih ⊢
    exact ⟨by simp [ih.1, hne.symm], ih.2⟩

theorem pieces_append_cons {piece : List Char} (h : d ∉ piece) (s : List Char) :
    pieces [d] (piece ++ d :: s) = piece :: pieces [d] s := by
  induction piece with
  | nil => exact pieces_cons_self d s
  | cons c piece ih =>
    rw [List.mem_cons, not_or] at h
    exact pieces_cons_of_ne (Ne.symm h.1) (ih h.2)

theorem pieces_of_not_mem {piece : List Char} (h : d ∉ piece) : pieces [d] piece = [piece] := by
  induction piece with
  | nil => rfl
  | cons c piece ih =>
    rw [List.mem_cons, not_or] at h
    exact pieces_cons_of_ne (Ne.symm h.1) (ih h.2)

/-- Pieces without the character are recovered from their join. -/
theorem pieces_joinWith {parts : List (List Char)} (hne : parts ≠ [])
    (h : ∀ piece ∈ parts, d ∉ piece) : pieces [d] (joinWith [d] parts) = parts := by
  induction parts with
  | nil => exact absurd rfl hne
  | cons piece parts ih =>
    rw [List.forall_mem_cons] at h
    cases parts with
    | nil =>
      rw [joinWith, List.intercalate_singleton]
      exact pieces_of_not_mem h.1
    | cons next rest =>
      rw [joinWith_cons_cons, List.append_assoc]
      change pieces [d] (piece ++ d :: joinWith [d] (next :: rest)) = _
      rw [pieces_append_cons h.1, ih (by simp) h.2]

/-- The characters of a text are the character it is cut at and those of its pieces. -/
theorem mem_or_mem_pieces (hc : c ∈ s) : c = d ∨ ∃ piece ∈ pieces [d] s, c ∈ piece := by
  revert hc
  refine pieces_induction (motive := fun s parts => c ∈ s → c = d ∨ ∃ piece ∈ parts, c ∈ piece) d
    (by simp) ?_ ?_ s
  · intro s ih hc
    rcases List.mem_cons.mp hc with hc | hc
    · exact Or.inl hc
    · refine (ih hc).imp_right ?_
      rintro ⟨piece, hpiece, hc⟩
      exact ⟨piece, List.mem_cons_of_mem _ hpiece, hc⟩
  · intro b s piece rest _ ih hc
    rcases List.mem_cons.mp hc with rfl | hc
    · exact Or.inr ⟨_, List.mem_cons_self, List.mem_cons_self⟩
    · refine (ih hc).imp_right ?_
      rintro ⟨other, hother, hc⟩
      rcases List.mem_cons.mp hother with rfl | hother
      · exact ⟨_, List.mem_cons_self, List.mem_cons_of_mem _ hc⟩
      · exact ⟨other, List.mem_cons_of_mem _ hother, hc⟩

theorem cutLast_of_not_mem (h : d ∉ s) : cutLast d s = ([], s) := by
  have hdrop : s.reverse.dropWhile (· ≠ d) = [] := by
    rw [List.dropWhile_eq_nil_iff]
    intro c hc
    have hne : c ≠ d := fun he => h (he ▸ List.mem_reverse.mp hc)
    simpa using hne
  simp only [cutLast, hdrop]

theorem cutLast_append_cons (front : List Char) {last : List Char} (h : d ∉ last) :
    cutLast d (front ++ d :: last) = (front, last) := by
  have hlast : ∀ c ∈ last.reverse, decide (c ≠ d) = true := by
    intro c hc
    have hne : c ≠ d := fun he => h (he ▸ List.mem_reverse.mp hc)
    simpa using hne
  have hback : (front ++ d :: last).reverse = last.reverse ++ d :: front.reverse := by simp
  have hdrop : (front ++ d :: last).reverse.dropWhile (· ≠ d) = d :: front.reverse := by
    rw [hback, List.dropWhile_append_of_pos hlast]
    simp
  have htake : (front ++ d :: last).reverse.takeWhile (· ≠ d) = last.reverse := by
    rw [hback, List.takeWhile_append_of_pos hlast]
    simp
  simp only [cutLast, hdrop, htake, List.reverse_reverse]

/-- A text is cut at its last place, or it has none. -/
theorem cutLast_cases (d : Char) (s : List Char) :
    (d ∉ s ∧ cutLast d s = ([], s)) ∨
    ∃ front last, s = front ++ d :: last ∧ d ∉ last ∧ cutLast d s = (front, last) := by
  by_cases h : d ∈ s
  · obtain ⟨last, front, hsplit, hlast⟩ := List.eq_append_cons_of_mem (List.mem_reverse.mpr h)
    have hs : s = front.reverse ++ d :: last.reverse := by
      rw [← List.reverse_reverse s, hsplit]
      simp
    have hlast : d ∉ last.reverse := by simpa using hlast
    exact Or.inr ⟨front.reverse, last.reverse, hs, hlast, hs ▸ cutLast_append_cons _ hlast⟩
  · exact Or.inl ⟨h, cutLast_of_not_mem h⟩

/-- What is added behind the last place goes to the last part. -/
theorem cutLast_append (s : List Char) {t : List Char} (h : d ∉ t) :
    cutLast d (s ++ t) = ((cutLast d s).1, (cutLast d s).2 ++ t) := by
  rcases cutLast_cases d s with ⟨hnone, hcut⟩ | ⟨front, last, rfl, hlast, hcut⟩
  · rw [hcut, cutLast_of_not_mem (List.not_mem_append hnone h)]
  · rw [hcut, List.append_assoc, List.cons_append]
    exact cutLast_append_cons front (List.not_mem_append hlast h)

theorem cutLast_subset (d : Char) (s : List Char) :
    (cutLast d s).1 ⊆ s ∧ (cutLast d s).2 ⊆ s := by
  rcases cutLast_cases d s with ⟨-, hcut⟩ | ⟨front, last, rfl, -, hcut⟩
  · rw [hcut]
    exact ⟨List.nil_subset _, List.Subset.refl _⟩
  · rw [hcut]
    refine ⟨List.subset_append_left _ _, fun c hc => ?_⟩
    exact List.mem_append_right _ (List.mem_cons_of_mem _ hc)

end LookupEnums.Text
