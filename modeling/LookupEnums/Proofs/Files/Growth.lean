import LookupEnums.Adapter.Connection
import LookupEnums.Proofs.Run.Ending
import Mathlib.Data.List.Basic

/-! # Trees that only grow

Making directories changes nothing that is there: each location keeps what it has, or had nothing and
becomes a directory on the way to the one that is asked for. -/
namespace LookupEnums

namespace Tree

theorem lookup_filter_ne {nodes : List (Location × FileNode)} {l a : Location} (h : a ≠ l) :
    (nodes.filter (·.1 ≠ l)).lookup a = nodes.lookup a := by
  induction nodes with
  | nil => rfl
  | cons node rest ih =>
    obtain ⟨b, n⟩ := node
    by_cases hdrop : b = l
    · have hother : (a == b) = false := beq_false_of_ne (hdrop ▸ h)
      rw [List.filter_cons_of_neg (by simpa using hdrop), List.lookup_cons, hother]
      exact ih
    · rw [List.filter_cons_of_pos (by simpa using hdrop), List.lookup_cons, List.lookup_cons, ih]

theorem node?_put (t : Tree) (l : Location) (n : FileNode) (a : Location) :
    (t.put l n).node? a = if a = l ∧ a ≠ [] then some n else t.node? a := by
  unfold node? put
  by_cases hroot : a = []
  · simp [hroot]
  · rw [if_neg hroot, if_neg hroot, List.lookup_cons]
    by_cases hsame : a = l
    · rw [if_pos ⟨hsame, hroot⟩, beq_iff_eq.mpr hsame]
    · rw [if_neg fun h => hsame h.1, beq_false_of_ne hsame]
      exact lookup_filter_ne hsame

/-- Where a walk ends is told by the parts alone. -/
theorem walk_eq_ok {t : Tree} {here l : Location} {parts : List String}
    (h : t.walk here parts = .ok l) :
    l = parts.foldl (fun l part => if part = ".." then l.dropLast else l ++ [part]) here := by
  induction parts generalizing here with
  | nil =>
    cases h
    rfl
  | cons part rest ih =>
    rw [walk] at h
    split at h
    next => cases h
    next => cases h
    next => exact ih h

theorem locate_eq_ok {t : Tree} {p : Path} {l : Location} (h : t.locate p = .ok l) :
    l = Store.plainLocation t.working p :=
  walk_eq_ok h

/-- The later tree has what the earlier one has, and besides only what `new` allows. -/
structure Grows (new : Location → FileNode → Prop) (t t' : Tree) : Prop where
  working : t'.working = t.working
  node : ∀ l, t'.node? l = t.node? l ∨ t.node? l = none ∧ ∃ n, t'.node? l = some n ∧ new l n

namespace Grows
variable {new new' : Location → FileNode → Prop} {t t' t'' : Tree}

theorem refl (t : Tree) : Grows new t t :=
  ⟨rfl, fun _ => .inl rfl⟩

theorem trans (h : Grows new t t') (h' : Grows new t' t'') : Grows new t t'' := by
  refine ⟨h'.working.trans h.working, fun l => ?_⟩
  rcases h.node l with hsame | ⟨hnone, n, hn, hnew⟩
  · rw [← hsame]
    exact h'.node l
  · right
    rcases h'.node l with hsame | ⟨hnone', -⟩
    · exact ⟨hnone, n, hsame.trans hn, hnew⟩
    · rw [hn] at hnone'
      cases hnone'

theorem mono (h : Grows new t t') (hsub : ∀ l n, new l n → new' l n) : Grows new' t t' := by
  refine ⟨h.working, fun l => ?_⟩
  rcases h.node l with hsame | ⟨hnone, n, hn, hnew⟩
  · exact .inl hsame
  · exact .inr ⟨hnone, n, hn, hsub l n hnew⟩

theorem put {l : Location} {n : FileNode} (hnone : t.node? l = none) (hnew : new l n) :
    Grows new t (t.put l n) := by
  refine ⟨rfl, fun a => ?_⟩
  rw [node?_put]
  split
  next hsame =>
    rw [hsame.1]
    exact .inr ⟨hnone, n, rfl, hnew⟩
  next => exact .inl rfl

end Grows

end Tree

namespace Run
variable {α β : Type} {w : World} {x : Run β} {f : β → Run α} {new : Location → FileNode → Prop}

theorem KeepsTree.grows (hx : KeepsTree x) : Tree.Grows new w.tree (leaving x w).tree := by
  rw [hx w]
  exact .refl _

end Run

namespace Tree.Grows
variable {α β : Type} {w : World} {x : Run β} {f : β → Run α} {new : Location → FileNode → Prop}
  {t : Tree}

theorem bind_of (hx : Grows new t (leaving x w).tree)
    (hf : ∀ b, ending x w = .ok b → Grows new t (leaving (f b) (leaving x w)).tree) :
    Grows new t (leaving (x >>= f) w).tree := by
  rcases leaving_bind_cases x f w with hleft | ⟨b, hb, hleft⟩
  · rwa [hleft]
  · rw [hleft]
    exact hf b hb

theorem bind (hx : Grows new t (leaving x w).tree) (hf : ∀ b, Run.KeepsTree (f b)) :
    Grows new t (leaving (x >>= f) w).tree :=
  hx.bind_of fun b _ => by rwa [hf b]

end Tree.Grows

/-- After a step that leaves the files alone, what comes next may start from any such world. -/
theorem Run.KeepsTree.grows_bind {α β : Type} {w : World} {x : Run β} {f : β → Run α}
    {new : Location → FileNode → Prop} (hx : KeepsTree x)
    (hf : ∀ b v, ending x w = .ok b → v.tree = w.tree → Tree.Grows new w.tree (leaving (f b) v).tree) :
    Tree.Grows new w.tree (leaving (x >>= f) w).tree :=
  hx.grows.bind_of fun b hb => hf b _ hb (hx w)

namespace Disk
open LookupEnums.Tree

def IsOnWay (home : Location) (p : Path) (l : Location) (n : FileNode) : Prop :=
  n = .directory ∧ ∃ parts, parts <+: p.parts ∧ l = Store.plainLocation home ⟨p.root, parts⟩

variable {p q : Path} {t : Tree}

theorem grows_makeDirectory (hroot : q.root = p.root) (hparts : q.parts <+: p.parts) :
    Grows (IsOnWay t.working p) t (leaving (makeDirectory q) t) := by
  unfold leaving makeDirectory
  cases hl : t.locate q with
  | error e => exact Grows.refl t
  | ok l =>
    cases hnode : t.node? l with
    | some n => simpa [hnode] using Grows.refl t
    | none =>
      have hplain := locate_eq_ok hl
      simpa [hnode] using Grows.put hnode ⟨rfl, q.parts, hparts, hroot ▸ hplain⟩

theorem leaving_unlessPresent (step : Disk Unit) :
    leaving (unlessPresent q step) t = leaving step t := by
  unfold leaving unlessPresent
  cases hstep : step t with
  | ok a t' => rfl
  | error e t' =>
    by_cases hthere : t'.isDirectory q = true
    · cases e <;> simp [hthere]
    · cases e <;> simp [hthere]

def ensure (root : String) (parts : List String) : Disk Unit :=
  unlessPresent ⟨root, parts⟩ (makeDirectory ⟨root, parts⟩)

theorem makeUpward_cons (root part : String) (above : List String) (t : Tree) :
    makeUpward root (part :: above) t = match ensure root (part :: above).reverse t with
      | .error .notFound u => (do makeUpward root above; ensure root (part :: above).reverse : Disk Unit) u
      | r => r := rfl

theorem grows_ensure {parts : List String} (h : parts <+: p.parts) (t : Tree) :
    Grows (IsOnWay t.working p) t (leaving (ensure p.root parts) t) := by
  rw [ensure, leaving_unlessPresent]
  exact grows_makeDirectory rfl h

/-- A missing directory is tried first, then those above it, then it is tried again. -/
theorem grows_makeUpward {reversed : List String} (h : reversed.reverse <+: p.parts) (t : Tree) :
    Grows (IsOnWay t.working p) t (leaving (makeUpward p.root reversed) t) := by
  induction reversed generalizing t with
  | nil => exact grows_ensure List.nil_prefix t
  | cons part above ih =>
    have habove : above.reverse <+: p.parts := by
      rw [List.reverse_cons] at h
      exact (List.prefix_append _ _).trans h
    have hfirst := grows_ensure h t
    have hstep := makeUpward_cons p.root part above t
    cases hlast : ensure p.root (part :: above).reverse t with
    | ok a u =>
      rw [hlast] at hstep
      rw [(eq_ok_iff.mp hlast).2] at hfirst
      rwa [(eq_ok_iff.mp hstep).2]
    | error e u =>
      rw [hlast] at hstep
      rw [(eq_error_iff.mp hlast).2] at hfirst
      cases e with
      | notFound =>
        have hleft : leaving (makeUpward p.root (part :: above)) t =
            leaving (do makeUpward p.root above; ensure p.root (part :: above).reverse : Disk Unit) u := by
          rw [leaving, hstep]
          rfl
        have hup := ih habove u
        rw [hfirst.working] at hup
        have hthen := hfirst.trans hup
        rw [hleft]
        rcases leaving_bind_cases (makeUpward p.root above)
          (fun _ => ensure p.root (part :: above).reverse) u with hend | ⟨_, -, hend⟩
        · rw [hend]
          exact hthen
        · rw [hend]
          have hagain := grows_ensure h (leaving (makeUpward p.root above) u)
          rw [hthen.working] at hagain
          exact hthen.trans hagain
      | _ => rwa [(eq_error_iff.mp hstep).2]

theorem grows_makeDirectories (p : Path) (t : Tree) :
    Grows (IsOnWay t.working p) t (leaving (makeDirectories p) t) :=
  grows_makeUpward (by simp) t

end Disk

end LookupEnums
