import LookupEnums.Proofs.Run.Agreeing

/-! # Trees that differ in one file

Two trees have the same but for what one file holds. If that is no database, and no log that stands
beside one, then every file has the same database in both, and so has this file itself as long as the
logs beside it leave it as it is.
-/
namespace LookupEnums

namespace Image

/-- Bytes that are neither a database nor a log that stands beside one. -/
structure IsForeign (b : ByteArray) : Prop where
  nonempty : b.isEmpty = false
  image : Image.ofBytes? b = none
  undo : UndoLog.ofBytes? b = none
  changes : ChangeLog.ofBytes? b = none

end Image

namespace Store

/-- The logs beside a file, if there are any, leave what is in it. -/
def IsSettled (t : Tree) (l : Location) : Prop :=
  ∀ b, Image.settled? b (bytes? t (beside l undoEnding)) (bytes? t (beside l changesEnding)) = some b

theorem beside_ne {l : Location} {ending : String} (hending : ending ≠ "") : beside l ending ≠ l := by
  intro hsame
  have hlast : l.getLastD "" = l.getLastD "" ++ ending := by
    calc l.getLastD "" = (beside l ending).getLastD "" := by rw [hsame]
      _ = l.getLastD "" ++ ending := by
        rw [beside, List.getLastD_eq_getLast?, List.getLast?_concat, Option.getD_some]
  have hlength := congrArg String.length hlast
  rw [String.length_append] at hlength
  exact hending (String.length_eq_zero_iff.mp (by omega))

theorem settled?_congr {b : ByteArray} {undo₁ undo₂ changes₁ changes₂ : Option ByteArray}
    (hundo : undo₁.bind (fun u => if UndoLog.isLeft u then UndoLog.ofBytes? u else none) =
      undo₂.bind fun u => if UndoLog.isLeft u then UndoLog.ofBytes? u else none)
    (hchanges : changes₁.bind ChangeLog.ofBytes? = changes₂.bind ChangeLog.ofBytes?) :
    Image.settled? b undo₁ changes₁ = Image.settled? b undo₂ changes₂ := by
  unfold Image.settled?
  rw [hundo, hchanges]

theorem database?_of_foreign {t : Tree} {l : Location} {b : ByteArray} (hsettled : IsSettled t l)
    (hnode : t.node? l = some (.file (.bytes b))) (hb : Image.IsForeign b) :
    (file l).database? t = none := by
  simp only [database?, hnode, hsettled b, Option.bind_some, Database.ofBytes?, hb.nonempty, hb.image]
  rfl

end Store

namespace Tree

/-- A walk looks at no more than what kinds of nodes there are. -/
theorem walk_cons (t : Tree) (here : Location) (part : String) (rest : List String) :
    t.walk here (part :: rest) = match (t.node? here).map FileNode.isFile with
      | none => .error .notFound
      | some true => .error .notDirectory
      | some false => t.walk (if part = ".." then here.dropLast else here ++ [part]) rest := by
  rw [walk]
  rcases t.node? here with _ | _ | _
  · rfl
  · rfl
  · rfl

structure SameBut (place : Location) (t₁ t₂ : Tree) : Prop where
  working : t₁.working = t₂.working
  node : ∀ l, l ≠ place → t₁.node? l = t₂.node? l
  kind : (t₁.node? place).map FileNode.isFile = (t₂.node? place).map FileNode.isFile

namespace SameBut
variable {place : Location} {t₁ t₂ : Tree}

theorem isFile (h : SameBut place t₁ t₂) (l : Location) :
    (t₁.node? l).map FileNode.isFile = (t₂.node? l).map FileNode.isFile := by
  by_cases hl : l = place
  · rw [hl]
    exact h.kind
  · rw [h.node l hl]

theorem walk (h : SameBut place t₁ t₂) (here : Location) (parts : List String) :
    t₁.walk here parts = t₂.walk here parts := by
  induction parts generalizing here with
  | nil => rfl
  | cons part rest ih => rw [walk_cons, walk_cons, h.isFile here, ih]

theorem locate (h : SameBut place t₁ t₂) (p : Path) : t₁.locate p = t₂.locate p := by
  unfold Tree.locate
  rw [h.working, h.walk]

theorem bytes? (h : SameBut place t₁ t₂) {l : Location} (hl : l ≠ place) :
    Store.bytes? t₁ l = Store.bytes? t₂ l := by
  unfold Store.bytes?
  rw [h.node l hl]

variable {b₁ b₂ : ByteArray} (h : SameBut place t₁ t₂)
  (h₁ : t₁.node? place = some (.file (.bytes b₁))) (h₂ : t₂.node? place = some (.file (.bytes b₂)))

include h h₁ h₂

theorem bytes?_bind {α : Type} {f : ByteArray → Option α} (hf₁ : f b₁ = none) (hf₂ : f b₂ = none)
    (l : Location) : (Store.bytes? t₁ l).bind f = (Store.bytes? t₂ l).bind f := by
  by_cases hl : l = place
  · have hb₁ : Store.bytes? t₁ place = some b₁ := by simp only [Store.bytes?, h₁]
    have hb₂ : Store.bytes? t₂ place = some b₂ := by simp only [Store.bytes?, h₂]
    rw [hl, hb₁, hb₂]
    exact hf₁.trans hf₂.symm
  · rw [h.bytes? hl]

/-- Whatever foreign bytes there are at one place, every file has the same database. -/
theorem agree (hb₁ : Image.IsForeign b₁) (hb₂ : Image.IsForeign b₂) {l : Location}
    (hsettled : l = place → Store.IsSettled t₁ l) : Agree t₁.working l t₁ t₂ := by
  refine ⟨rfl, h.working.symm, h.isFile l, h.isFile l.dropLast, ?_⟩
  by_cases hl : l = place
  · have hsettled₁ := hsettled hl
    have hsettled₂ : Store.IsSettled t₂ l := fun b => by
      have hundo : Store.beside l Store.undoEnding ≠ place := hl ▸ Store.beside_ne (by decide)
      have hchanges : Store.beside l Store.changesEnding ≠ place := hl ▸ Store.beside_ne (by decide)
      rw [← h.bytes? hundo, ← h.bytes? hchanges]
      exact hsettled₁ b
    rw [← hl] at h₁ h₂
    rw [Store.database?_of_foreign hsettled₁ h₁ hb₁, Store.database?_of_foreign hsettled₂ h₂ hb₂]
  · have hundo := h.bytes?_bind h₁ h₂
      (f := fun u => if UndoLog.isLeft u then UndoLog.ofBytes? u else none)
      (by simp [hb₁.undo]) (by simp [hb₂.undo]) (Store.beside l Store.undoEnding)
    have hchanges := h.bytes?_bind h₁ h₂ hb₁.changes hb₂.changes
      (Store.beside l Store.changesEnding)
    simp only [Store.database?, h.node l hl, Store.settled?_congr hundo hchanges]

end SameBut

end Tree

end LookupEnums
