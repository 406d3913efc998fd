import LookupEnums.Files.Publishing
import LookupEnums.Proofs.Files.Growth
import LookupEnums.Proofs.Text.Digits
import Mathlib.Data.List.Nodup
import Mathlib.Data.List.Perm.Subperm

/-! # The old text or the new one

Publishing a file changes no other file, however it ends. If a step fails, wherever it met trouble, the
destination is as it was and the temporary file is gone; otherwise the text is at the destination.
-/
namespace LookupEnums

namespace Tree

theorem node?_remove (t : Tree) (l a : Location) :
    (t.remove l).node? a = if a = l ∧ a ≠ [] then none else t.node? a := by
  unfold node? remove
  by_cases hroot : a = []
  · rw [if_pos hroot, if_pos hroot, if_neg fun h => h.2 hroot]
  · rw [if_neg hroot, if_neg hroot]
    by_cases hsame : a = l
    · rw [if_pos ⟨hsame, hroot⟩, List.lookup_eq_none_iff]
      intro node hnode
      have hother : node.1 ≠ l := of_decide_eq_true (List.mem_filter.mp hnode).2
      rw [bne_iff_ne, hsame]
      exact hother.symm
    · rw [if_neg fun h => hsame h.1]
      exact lookup_filter_ne hsame

/-- A walk goes the same way where all directories are still directories. -/
theorem walk_mono {t t' : Tree} {here l : Location} {parts : List String}
    (hkept : ∀ a, t.node? a = some .directory → t'.node? a = some .directory)
    (h : t.walk here parts = .ok l) : t'.walk here parts = .ok l := by
  induction parts generalizing here with
  | nil => exact h
  | cons part rest ih =>
    rw [walk] at h ⊢
    split at h
    next => cases h
    next => cases h
    next hhere =>
      rw [hkept here hhere]
      exact ih h

theorem locate_mono {t t' : Tree} {p : Path} {l : Location} (hworking : t'.working = t.working)
    (hkept : ∀ a, t.node? a = some .directory → t'.node? a = some .directory)
    (h : t.locate p = .ok l) : t'.locate p = .ok l := by
  unfold locate at h ⊢
  rw [hworking]
  exact walk_mono hkept h

structure Besides (place : Location) (t t' : Tree) : Prop where
  working : t'.working = t.working
  node : ∀ l, l ≠ place → t'.node? l = t.node? l

namespace Besides
variable {place : Location} {t t' t'' : Tree}

theorem refl (place : Location) (t : Tree) : Besides place t t := ⟨rfl, fun _ _ => rfl⟩

theorem trans (h : Besides place t t') (h' : Besides place t' t'') : Besides place t t'' :=
  ⟨h'.working.trans h.working, fun l hl => (h'.node l hl).trans (h.node l hl)⟩

theorem put (place : Location) (t : Tree) (n : FileNode) : Besides place t (t.put place n) :=
  ⟨rfl, fun l hl => by rw [node?_put, if_neg fun hsame => hl hsame.1]⟩

theorem remove (place : Location) (t : Tree) : Besides place t (t.remove place) :=
  ⟨rfl, fun l hl => by rw [node?_remove, if_neg fun hsame => hl hsame.1]⟩

/-- Where nothing was at the place and nothing is there now, nothing has changed. -/
theorem grows {new : Location → FileNode → Prop} (h : Besides place t t')
    (hnone : t.node? place = none) (hgone : t'.node? place = none) : Grows new t t' := by
  refine ⟨h.working, fun l => .inl ?_⟩
  by_cases hl : l = place
  · rw [hl, hnone, hgone]
  · exact h.node l hl

end Besides

/-- A place holds the same file in two trees, or in neither any. -/
def SameFileAt (l : Location) (t t' : Tree) : Prop :=
  ∀ content, t'.node? l = some (.file content) ↔ t.node? l = some (.file content)

namespace Grows
variable {new : Location → FileNode → Prop} {t t' : Tree}

theorem sameFileAt (h : Grows new t t') (hnew : ∀ l n, new l n → n = .directory) (l : Location) :
    SameFileAt l t t' := by
  intro content
  rcases h.node l with hsame | ⟨hnone, n, hn, hnewly⟩
  · rw [hsame]
  · rw [hnone, hn, hnew l n hnewly]
    simp

theorem node?_of (h : Grows new t t') {l : Location} {n : FileNode} (hn : t.node? l = some n) :
    t'.node? l = some n := by
  rcases h.node l with hsame | ⟨hnone, -⟩
  · rw [hsame, hn]
  · rw [hn] at hnone
    cases hnone

theorem find?_of (h : Grows new t t') {p : Path} {n : FileNode} (hn : t.find? p = some n) :
    t'.find? p = some n := by
  unfold find? at hn ⊢
  cases hl : t.locate p with
  | error e =>
    rw [hl] at hn
    cases hn
  | ok l =>
    rw [hl] at hn
    rw [locate_mono h.working (fun a ha => h.node?_of ha) hl]
    exact h.node?_of hn

end Grows

end Tree

namespace Publishing
open LookupEnums.Tree
variable {output : Path} {source : String} {temporary : Location} {t : Tree}

theorem candidate_injective (name : String) : (candidate name).Injective := by
  intro n k h
  have htext : ("." ++ name ++ ".").toList ++ ((toString n).toList ++ ".tmp".toList) =
      ("." ++ name ++ ".").toList ++ ((toString k).toList ++ ".tmp".toList) := by
    simpa [candidate, String.toList_append] using congrArg String.toList h
  have hnumber := List.append_cancel_right (List.append_cancel_left htext)
  have hdigits (i : Nat) : (toString i).toList = Text.decimalDigits i := by
    simp [Text.decimalDigits]
  rw [hdigits, hdigits] at hnumber
  exact Text.decimalDigits_injective hnumber

/-- Among one more candidates than there are nodes, one is free. -/
theorem exists_free (t : Tree) (directory : Location) (name : String) :
    ∃ n ∈ List.range (t.nodes.length + 1), t.node? (directory ++ [candidate name n]) = none := by
  by_contra hnone
  have htaken : (List.range (t.nodes.length + 1)).map (fun n => directory ++ [candidate name n]) ⊆
      t.nodes.map (·.1) := by
    intro l hl
    obtain ⟨n, hn, rfl⟩ := List.mem_map.mp hl
    by_contra hmissing
    refine hnone ⟨n, hn, ?_⟩
    rw [node?, if_neg (by simp), List.lookup_eq_none_iff]
    intro node hnode
    rw [bne_iff_ne]
    intro hsame
    exact hmissing (hsame ▸ List.mem_map_of_mem hnode)
  have hdistinct : ((List.range (t.nodes.length + 1)).map
      fun n => directory ++ [candidate name n]).Nodup := by
    refine List.Nodup.map (fun n k h => candidate_injective name ?_) List.nodup_range
    simpa using h
  have hle := (List.subperm_of_subset hdistinct htaken).length_le
  rw [List.length_map, List.length_map, List.length_range] at hle
  exact absurd hle (Nat.not_succ_le_self _)

theorem node?_temporary (t : Tree) (directory : Location) (name : String) :
    t.node? (directory ++ [temporaryName t directory name]) = none := by
  obtain ⟨n, hn, hfree⟩ := exists_free t directory name
  cases hfind : (List.range (t.nodes.length + 1)).find? fun n =>
      (t.node? (directory ++ [candidate name n])).isNone with
  | none =>
    have hbusy := List.find?_eq_none.mp hfind n hn
    rw [hfree] at hbusy
    exact absurd rfl hbusy
  | some k =>
    have hname : temporaryName t directory name = candidate name k := by
      rw [temporaryName, hfind, Option.getD_some]
    rw [hname]
    have hfree := List.find?_some hfind
    exact Option.isNone_iff_eq_none.mp hfree

section amid
variable {α : Type} {hitch : Option Hitch} {part : Nat → Disk Unit} {whole : Disk α} {a : α}

theorem of_amid_ok (h : ending (amid hitch part whole) t = .ok a) :
    hitch = none ∧ ending whole t = .ok a ∧ leaving (amid hitch part whole) t = leaving whole t := by
  cases hitch with
  | none => exact ⟨rfl, h, rfl⟩
  | some hitch =>
    obtain ⟨_, -, hthrow⟩ := of_bind_ok h
    cases hthrow

/-- A step that fails has failed as a whole, or after a part of it. -/
theorem of_amid_error {e : FileError} (h : ending (amid hitch part whole) t = .error e) :
    ending whole t = .error e ∧ leaving (amid hitch part whole) t = leaving whole t ∨
      ∃ n, leaving (amid hitch part whole) t = leaving (part n) t := by
  cases hitch with
  | none => exact .inl ⟨h, rfl⟩
  | some hitch =>
    refine .inr ⟨hitch.reach, ?_⟩
    rcases leaving_bind_cases (part hitch.reach) (fun _ => throw hitch.error) t with hleft | ⟨_, -, hleft⟩
    · exact hleft
    · exact hleft

/-- What holds after the whole of a step and after each part of it holds however the step ends. -/
theorem leaving_amid {P : Tree → Prop} (hpart : ∀ n, P (leaving (part n) t))
    (hwhole : P (leaving whole t)) : P (leaving (amid hitch part whole) t) := by
  cases hend : ending (amid hitch part whole) t with
  | ok a =>
    rw [(of_amid_ok hend).2.2]
    exact hwhole
  | error e =>
    rcases of_amid_error hend with ⟨-, hleft⟩ | ⟨n, hleft⟩
    · rwa [hleft]
    · rw [hleft]
      exact hpart n

/-- A step of one piece that changes nothing when it fails changes nothing when it meets trouble. -/
theorem leaving_amid_of_error {e : FileError} (hwhole : ∀ e, ending whole t = .error e → leaving whole t = t)
    (h : ending (amid hitch (fun _ => pure ()) whole) t = .error e) :
    leaving (amid hitch (fun _ => pure ()) whole) t = t := by
  rcases of_amid_error h with ⟨herror, hleft⟩ | ⟨_, hleft⟩
  · exact hleft.trans (hwhole e herror)
  · exact hleft

end amid

theorem grows_makeSome (p : Path) (count : Nat) (t : Tree) :
    Grows (Disk.IsOnWay t.working p) t (leaving (makeSome p count) t) := by
  refine (Disk.grows_makeDirectories _ t).mono fun l n h => ?_
  obtain ⟨hdirectory, parts, hparts, hplace⟩ := h
  exact ⟨hdirectory, parts, hparts.trans (List.take_prefix _ _), hplace⟩

theorem grows_amid_makeDirectories (hitch : Option Hitch) (p : Path) (t : Tree) :
    Grows (Disk.IsOnWay t.working p) t
      (leaving (amid hitch (makeSome p) (Disk.makeDirectories p)) t) :=
  leaving_amid (grows_makeSome p · t) (Disk.grows_makeDirectories p t)

theorem create_cases (output : Path) (t : Tree) :
    (∃ e, create output t = .error e t) ∨
      ∃ directory name, t.node? (directory ++ [name]) = none ∧
        create output t = .ok (directory ++ [name])
          (t.put (directory ++ [name]) (.file (.bytes .empty))) := by
  unfold create
  cases t.locate output.parent with
  | error e => exact .inl ⟨e, rfl⟩
  | ok directory => exact .inr ⟨directory, _, node?_temporary t directory output.name, rfl⟩

theorem replace_cases (temporary : Location) (output : Path) (t : Tree) :
    (∃ e, replace temporary output t = .error e t) ∨
      ∃ l n, t.locate output = .ok l ∧ t.node? l ≠ some .directory ∧ t.node? temporary = some n ∧
        replace temporary output t = .ok () ((t.remove temporary).put l n) := by
  unfold replace
  split
  next => exact .inl ⟨_, rfl⟩
  next =>
    split
    next => exact .inl ⟨_, rfl⟩
    next l hl =>
      split
      next => exact .inl ⟨_, rfl⟩
      next n hn hfile => exact .inr ⟨l, n, hl, hfile, hn, rfl⟩
      next => exact .inl ⟨_, rfl⟩

/-- The temporary file is in a directory, where nothing was before. -/
theorem of_create_ok {hitch : Option Hitch}
    (h : ending (amid hitch (fun _ => pure ()) (create output)) t = .ok temporary) :
    hitch = none ∧ temporary ≠ [] ∧ t.node? temporary = none ∧
      leaving (amid hitch (fun _ => pure ()) (create output)) t =
        t.put temporary (.file (.bytes .empty)) := by
  obtain ⟨hnone, hwhole, hleft⟩ := of_amid_ok h
  rcases create_cases output t with ⟨e, he⟩ | ⟨directory, name, hfree, hok⟩
  · rw [(eq_error_iff.mp he).1] at hwhole
    cases hwhole
  · obtain ⟨hend, hput⟩ := eq_ok_iff.mp hok
    have hplace : directory ++ [name] = temporary := Except.ok.inj (hend.symm.trans hwhole)
    rw [hplace] at hfree hput
    have hroot : temporary ≠ [] := hplace ▸ List.concat_ne_nil name directory
    exact ⟨hnone, hroot, hfree, hleft.trans hput⟩

theorem of_create_error {hitch : Option Hitch} {e : FileError}
    (h : ending (amid hitch (fun _ => pure ()) (create output)) t = .error e) :
    leaving (amid hitch (fun _ => pure ()) (create output)) t = t := by
  refine leaving_amid_of_error (fun e' herror => ?_) h
  rcases create_cases output t with ⟨_, hfails⟩ | ⟨directory, name, -, hok⟩
  · exact (eq_error_iff.mp hfails).2
  · rw [(eq_ok_iff.mp hok).1] at herror
    cases herror

theorem of_replace_error {hitch : Option Hitch} {e : FileError}
    (h : ending (amid hitch (fun _ => pure ()) (replace temporary output)) t = .error e) :
    leaving (amid hitch (fun _ => pure ()) (replace temporary output)) t = t := by
  refine leaving_amid_of_error (fun e' herror => ?_) h
  rcases replace_cases temporary output t with ⟨_, hfails⟩ | ⟨l, n, -, -, -, hok⟩
  · exact (eq_error_iff.mp hfails).2
  · rw [(eq_ok_iff.mp hok).1] at herror
    cases herror

theorem of_replace_ok {hitch : Option Hitch}
    (h : ending (amid hitch (fun _ => pure ()) (replace temporary output)) t = .ok ()) :
    hitch = none ∧ ∃ l n, t.locate output = .ok l ∧ t.node? l ≠ some .directory ∧
      t.node? temporary = some n ∧
      leaving (amid hitch (fun _ => pure ()) (replace temporary output)) t =
        (t.remove temporary).put l n := by
  obtain ⟨hnone, hwhole, hleft⟩ := of_amid_ok h
  rcases replace_cases temporary output t with ⟨e, he⟩ | ⟨l, n, hl, hfile, hn, hok⟩
  · rw [(eq_error_iff.mp he).1] at hwhole
    cases hwhole
  · exact ⟨hnone, l, n, hl, hfile, hn, hleft.trans (eq_ok_iff.mp hok).2⟩

section steps
variable {trouble : Trouble} {e : FileError}

/-- Until the temporary file is moved, whatever was written is in this file. -/
theorem besides_of_fillAndReplace_error
    (h : ending (fillAndReplace trouble temporary output source) t = .error e) :
    Besides temporary t (leaving (fillAndReplace trouble temporary output source) t) := by
  have hfill : Besides temporary t (leaving (amid (trouble .write) (fillSome temporary source)
      (fillWith temporary source.toUTF8)) t) :=
    leaving_amid (fun _ => .put _ _ _) (.put _ _ _)
  unfold fillAndReplace at h ⊢
  rcases of_bind_error h with ⟨-, hleft⟩ | ⟨_, -, h, hleft⟩
  · rwa [hleft]
  · rw [hleft]
    generalize leaving _ t = filled at hfill h
    have hclose : Besides temporary filled (leaving (amid (trouble .close)
        (fillSome temporary source) (pure ())) filled) :=
      leaving_amid (fun _ => .put _ _ _) (.refl _ _)
    refine hfill.trans ?_
    rcases of_bind_error h with ⟨-, hleft⟩ | ⟨_, -, h, hleft⟩
    · rwa [hleft]
    · rw [hleft, of_replace_error h]
      exact hclose

theorem of_fillAndReplace_ok
    (h : ending (fillAndReplace trouble temporary output source) t = .ok ()) :
    trouble .write = none ∧ trouble .close = none ∧ trouble .replace = none ∧
      ∃ filled l n, filled = t.put temporary (.file (.bytes source.toUTF8)) ∧
        filled.locate output = .ok l ∧ filled.node? l ≠ some .directory ∧
        filled.node? temporary = some n ∧
        leaving (fillAndReplace trouble temporary output source) t =
          (filled.remove temporary).put l n := by
  unfold fillAndReplace at h ⊢
  obtain ⟨_, hfill, h⟩ := of_bind_ok h
  obtain ⟨hwrite, -, hfilled⟩ := of_amid_ok hfill
  rw [(bind_ok hfill).2]
  rw [hfilled] at h ⊢
  obtain ⟨_, hshut, h⟩ := of_bind_ok h
  obtain ⟨hclose, -, hclosed⟩ := of_amid_ok hshut
  rw [(bind_ok hshut).2]
  rw [hclosed, leaving_pure] at h ⊢
  obtain ⟨hreplace, l, n, hl, hfile, hn, hleft⟩ := of_replace_ok h
  exact ⟨hwrite, hclose, hreplace, _, l, n, rfl, hl, hfile, hn, hleft⟩

theorem of_removingOnFailure_error {steps : Disk Unit}
    (h : ending (removingOnFailure temporary steps) t = .error e) :
    ending steps t = .error e ∧
      leaving (removingOnFailure temporary steps) t = (leaving steps t).remove temporary := by
  unfold ending leaving removingOnFailure at *
  cases hsteps : steps t with
  | ok a u =>
    rw [hsteps] at h
    cases h
  | error e' u =>
    rw [hsteps] at h
    exact ⟨h, rfl⟩

theorem of_removingOnFailure_ok {steps : Disk Unit}
    (h : ending (removingOnFailure temporary steps) t = .ok ()) :
    ending steps t = .ok () ∧ leaving (removingOnFailure temporary steps) t = leaving steps t := by
  unfold ending leaving removingOnFailure at *
  cases hsteps : steps t with
  | ok a u =>
    rw [hsteps] at h
    exact ⟨h, rfl⟩
  | error e' u =>
    rw [hsteps] at h
    cases h

/-- If publishing fails, there are at most some more directories on the way to the destination. -/
theorem grows_of_publish_error (h : ending (publish trouble output source) t = .error e) :
    Grows (Disk.IsOnWay t.working output.parent) t (leaving (publish trouble output source) t) := by
  have hmake := grows_amid_makeDirectories (trouble .makeDirectories) output.parent t
  unfold publish at h ⊢
  rcases of_bind_error h with ⟨-, hleft⟩ | ⟨_, -, h, hleft⟩
  · rwa [hleft]
  · rw [hleft]
    generalize leaving _ t = made at hmake h
    refine hmake.trans ?_
    rcases of_bind_error h with ⟨hcreate, hleft⟩ | ⟨temporary, hcreate, h, hleft⟩
    · rw [hleft, of_create_error hcreate]
      exact .refl made
    · obtain ⟨-, hroot, hfree, hcreated⟩ := of_create_ok hcreate
      rw [hcreated] at h hleft
      obtain ⟨hsteps, hremoved⟩ := of_removingOnFailure_error h
      rw [hleft, hremoved]
      have hbesides := (Besides.put temporary made (.file (.bytes .empty))).trans
        (besides_of_fillAndReplace_error hsteps)
      refine (hbesides.trans (.remove temporary _)).grows hfree ?_
      rw [node?_remove, if_pos ⟨rfl, hroot⟩]

end steps

/-- Nothing has come of writing a file but directories on the way to it. -/
structure Spared (output : Path) (t t' : Tree) : Prop where
  grows : Grows (Disk.IsOnWay t.working output.parent) t t'
  sameFileAt : ∀ l, SameFileAt l t t'
  found : ∀ n, t.find? output = some n → t'.find? output = some n

theorem Spared.ofGrows {t' : Tree} (h : Grows (Disk.IsOnWay t.working output.parent) t t') :
    Spared output t t' where
  grows := h
  sameFileAt := h.sameFileAt fun _ _ hnew => hnew.1
  found _ := h.find?_of

/-- The destination holds the text, and every other place the file it held, if any. -/
structure Published (output : Path) (source : String) (t t' : Tree) : Prop where
  working : t'.working = t.working
  found : t'.find? output = some (.file (.bytes source.toUTF8))
  sameFileAt : ∀ l, l ≠ Store.plainLocation t.working output → SameFileAt l t t'

/-- The temporary file has become the destination, and a place without anything again. -/
theorem published_of_moved {filled : Tree} {l : Location} (hroot : temporary ≠ [])
    (hfree : t.node? temporary = none) (h : Besides temporary t filled)
    (hfilled : filled.node? temporary = some (.file (.bytes source.toUTF8)))
    (hl : filled.locate output = .ok l) (hfile : filled.node? l ≠ some .directory) :
    Published output source t
      ((filled.remove temporary).put l (.file (.bytes source.toUTF8))) := by
  have hplain : l = Store.plainLocation t.working output := h.working ▸ locate_eq_ok hl
  have hplace : l ≠ [] := by
    rintro rfl
    exact hfile (if_pos rfl)
  have hkept (a : Location) (ha : filled.node? a = some .directory) :
      ((filled.remove temporary).put l (.file (.bytes source.toUTF8))).node? a = some .directory := by
    have hal : a ≠ l := fun hsame => hfile (hsame ▸ ha)
    have hat : a ≠ temporary := by
      rintro rfl
      rw [hfilled] at ha
      cases ha
    rw [node?_put, if_neg fun hsame => hal hsame.1, node?_remove, if_neg fun hsame => hat hsame.1, ha]
  refine ⟨h.working, ?_, fun a ha content => ?_⟩
  · have hlocate : ((filled.remove temporary).put l (.file (.bytes source.toUTF8))).locate output =
        .ok l := locate_mono (t := filled) rfl hkept hl
    rw [find?, hlocate]
    exact (node?_put _ l _ l).trans (if_pos ⟨rfl, hplace⟩)
  · rw [node?_put, if_neg fun hsame => ha (hsame.1.trans hplain), node?_remove]
    by_cases hat : a = temporary
    · rw [if_pos ⟨hat, hat ▸ hroot⟩, hat, hfree]
    · rw [if_neg fun hsame => hat hsame.1, h.node a hat]

/-- More directories on the way make no difference to what else is said. -/
theorem Published.afterGrowth {made t' : Tree} {p : Path}
    (hmade : Grows (Disk.IsOnWay t.working p) t made) (h : Published output source made t') :
    Published output source t t' where
  working := h.working.trans hmade.working
  found := h.found
  sameFileAt l hl content := by
    rw [h.sameFileAt l (hmade.working ▸ hl) content]
    exact hmade.sameFileAt (fun _ _ hnew => hnew.1) l content

/-- If publishing succeeds, no step has met trouble and the text is at the destination. -/
theorem published_of_publish_ok {trouble : Trouble}
    (h : ending (publish trouble output source) t = .ok ()) :
    trouble = .none ∧ Published output source t (leaving (publish trouble output source) t) := by
  have hmake := grows_amid_makeDirectories (trouble .makeDirectories) output.parent t
  unfold publish at h ⊢
  obtain ⟨_, hmade, h⟩ := of_bind_ok h
  rw [(bind_ok hmade).2]
  have hdirectories := (of_amid_ok hmade).1
  generalize leaving _ t = made at hmake h
  obtain ⟨temporary, hcreate, h⟩ := of_bind_ok h
  rw [(bind_ok hcreate).2]
  obtain ⟨hcreation, hroot, hfree, hcreated⟩ := of_create_ok hcreate
  rw [hcreated] at h ⊢
  obtain ⟨hsteps, hleft⟩ := of_removingOnFailure_ok h
  obtain ⟨hwrite, hclose, hreplace, filled, l, n, hfilled, hl, hfile, hn, hmoved⟩ :=
    of_fillAndReplace_ok hsteps
  refine ⟨?_, ?_⟩
  · funext step
    cases step <;> assumption
  · have hbesides : Besides temporary made filled :=
      hfilled ▸ (Besides.put temporary made (.file (.bytes .empty))).trans (.put temporary _ _)
    have htext : filled.node? temporary = some (.file (.bytes source.toUTF8)) := by
      rw [hfilled, node?_put, if_pos ⟨rfl, hroot⟩]
    rw [htext] at hn
    cases hn
    rw [hleft, hmoved]
    exact (published_of_moved hroot hfree hbesides htext hl hfile).afterGrowth hmake

example : (ending (publish .none ⟨"", ["out", "L.cs"]⟩ "enum L") {}).isOk = true := by
  decide +kernel

end Publishing

end LookupEnums
