import LookupEnums.Proofs.Text.Cut
import Mathlib.Data.List.Infix

/-! # The first place of a separator

A separator of several characters may begin inside a text and end in what follows it. Where it does
not, a text in front of a separator is what a cut or a split gives first.
-/
namespace LookupEnums.Text
variable {sep s before after : List Char}

/-- A separator put behind the text is the first one, whatever comes after it. -/
def Ahead (sep before : List Char) : Prop :=
  ∀ back, back ≠ [] → back <:+ before → ∀ after, ¬ sep <+: back ++ sep ++ after

theorem Ahead.tail {c : Char} (h : Ahead sep (c :: before)) : Ahead sep before :=
  fun back hne hback => h back hne (hback.trans (List.suffix_cons c before))

theorem Ahead.head {c : Char} (h : Ahead sep (c :: before)) (after : List Char) :
    ¬ sep <+: c :: (before ++ sep ++ after) := by
  have hwhole := h (c :: before) (List.cons_ne_nil _ _) (List.suffix_refl _) after
  simpa using hwhole

theorem ahead_of_not_mem {c : Char} (h : c ∉ before) : Ahead (c :: sep) before := by
  intro back hne hback after hsep
  cases back with
  | nil => exact hne rfl
  | cons d back =>
    obtain ⟨rfl, -⟩ := List.cons_prefix_cons.mp hsep
    exact h (hback.subset List.mem_cons_self)

theorem isPrefixOf_eq_false (h : ¬ sep <+: s) : sep.isPrefixOf s = false := by
  rw [Bool.eq_false_iff]
  exact fun hsep => h (List.isPrefixOf_iff_prefix.mp hsep)

theorem isPrefixOf_append (sep after : List Char) : sep.isPrefixOf (sep ++ after) = true :=
  List.isPrefixOf_iff_prefix.mpr (List.prefix_append _ _)

theorem cut?_prefix (hsep : sep ≠ []) (after : List Char) :
    cut? sep (sep ++ after) = some ([], after) := by
  cases sep with
  | nil => exact absurd rfl hsep
  | cons c sep =>
    have hfirst := isPrefixOf_append (c :: sep) after
    rw [List.cons_append] at hfirst ⊢
    rw [cut?, if_pos hfirst]
    simp

theorem cut?_append (hsep : sep ≠ []) (h : Ahead sep before) (after : List Char) :
    cut? sep (before ++ sep ++ after) = some (before, after) := by
  induction before with
  | nil => exact cut?_prefix hsep after
  | cons c before ih =>
    rw [List.cons_append, List.cons_append, cut?, isPrefixOf_eq_false (h.head after), ih h.tail]
    rfl

theorem cut?_eq_none_iff (hsep : sep ≠ []) : cut? sep s = none ↔ ¬ sep <:+: s := by
  induction s with
  | nil => simpa [cut?] using hsep
  | cons c s ih =>
    rw [List.infix_cons_iff, not_or, ← ih, cut?]
    by_cases hfirst : sep <+: c :: s
    · simp [hfirst]
    · simp [isPrefixOf_eq_false hfirst, hfirst]

theorem occursIn_iff (hsep : sep ≠ []) : occursIn sep s = true ↔ sep <:+: s := by
  rw [← not_iff_not, ← cut?_eq_none_iff hsep, occursIn]
  cases cut? sep s <;> simp

theorem cutOrAll_append (hsep : sep ≠ []) (h : Ahead sep before) (after : List Char) :
    cutOrAll sep (before ++ sep ++ after) = (before, after) := by
  rw [cutOrAll, cut?_append hsep h]
  rfl

theorem cutOrAll_of_not_infix (hsep : sep ≠ []) (h : ¬ sep <:+: s) : cutOrAll sep s = (s, []) := by
  rw [cutOrAll, (cut?_eq_none_iff hsep).mpr h]
  rfl

theorem piecesFrom_skip (skipped s : List Char) :
    piecesFrom sep skipped.length (skipped ++ s) = piecesFrom sep 0 s := by
  induction skipped with
  | nil => rfl
  | cons c skipped ih =>
    rw [List.cons_append, List.length_cons, piecesFrom]
    exact ih

theorem pieces_prefix (hsep : sep ≠ []) (after : List Char) :
    pieces sep (sep ++ after) = [] :: pieces sep after := by
  cases sep with
  | nil => exact absurd rfl hsep
  | cons c sep =>
    have hfirst := isPrefixOf_append (c :: sep) after
    rw [List.cons_append] at hfirst
    rw [pieces, List.cons_append, piecesFrom, if_pos hfirst, List.length_cons, Nat.add_sub_cancel,
      piecesFrom_skip]
    rfl

theorem pieces_append (hsep : sep ≠ []) (h : Ahead sep before) (after : List Char) :
    pieces sep (before ++ sep ++ after) = before :: pieces sep after := by
  induction before with
  | nil => exact pieces_prefix hsep after
  | cons c before ih =>
    have hrest := ih h.tail
    rw [pieces] at hrest
    rw [List.cons_append, List.cons_append, pieces, piecesFrom, isPrefixOf_eq_false (h.head after),
      hrest]
    rfl

theorem pieces_of_not_infix (h : ¬ sep <:+: s) : pieces sep s = [s] := by
  induction s with
  | nil => rfl
  | cons c s ih =>
    rw [List.infix_cons_iff, not_or] at h
    have hrest := ih h.2
    rw [pieces] at hrest
    rw [pieces, piecesFrom, isPrefixOf_eq_false h.1, hrest]
    rfl

theorem replaceAll_self (hsep : sep ≠ []) (new : List Char) : replaceAll sep new sep = new := by
  have hpieces : pieces sep sep = [[], []] := by
    have hfirst := pieces_prefix hsep []
    rw [List.append_nil] at hfirst
    rw [hfirst]
    rfl
  rw [replaceAll, joinWith, hpieces]
  simp [List.intercalate]

section character
variable {p : Char → Bool} {c : Char}

theorem takeWhile_append_cons (h : ∀ d ∈ before, p d = true) (hc : p c = false) (after : List Char) :
    (before ++ c :: after).takeWhile p = before := by
  rw [List.takeWhile_append_of_pos h, List.takeWhile_cons, hc]
  simp

theorem dropWhile_append_cons (h : ∀ d ∈ before, p d = true) (hc : p c = false) (after : List Char) :
    (before ++ c :: after).dropWhile p = c :: after := by
  rw [List.dropWhile_append_of_pos h, List.dropWhile_cons, hc]
  rfl

theorem takeWhile_ne (h : c ∉ before) (after : List Char) :
    (before ++ c :: after).takeWhile (· ≠ c) = before := by
  refine takeWhile_append_cons (fun d hd => ?_) (by simp) after
  have hne : d ≠ c := fun he => h (he ▸ hd)
  exact decide_eq_true hne

end character

end LookupEnums.Text
