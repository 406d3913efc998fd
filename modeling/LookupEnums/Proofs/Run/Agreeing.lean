import LookupEnums.Proofs.Files.Growth

/-! # Runs in two worlds

Two trees that lead to the same database make no difference to a run that looks at nothing else: it ends
the same in both and leaves trees that lead to the same again. The property passes through all that runs
are put together with. The records that have been written and the variables that are set may differ.
-/
namespace LookupEnums

namespace FileNode

def isFile : FileNode → Bool
  | directory => false
  | file _ => true

end FileNode

namespace Store

/-- An empty file is the same database whatever stands beside it. -/
theorem database?_put_empty {place : Location} (hroot : place ≠ []) (t : Tree) :
    (file place).database? (t.put place (.file (.bytes .empty))) =
      Database.ofBytes? .empty := by
  have hnode : (t.put place (.file (.bytes .empty))).node? place = some (.file (.bytes .empty)) := by
    rw [Tree.node?_put, if_pos ⟨rfl, hroot⟩]
  simp only [database?, hnode]
  rfl

end Store

/-- The trees have one working directory, and lead to the same database at a place, or to none. -/
structure Tree.Agree (home place : Location) (t₁ t₂ : Tree) : Prop where
  left : t₁.working = home
  right : t₂.working = home
  node : (t₁.node? place).map FileNode.isFile = (t₂.node? place).map FileNode.isFile
  above : (t₁.node? place.dropLast).map FileNode.isFile =
    (t₂.node? place.dropLast).map FileNode.isFile
  database : (Store.file place).database? t₁ = (Store.file place).database? t₂

namespace Tree.Agree
variable {home place : Location} {t t₁ t₂ : Tree}

theorem refl (h : t.working = home) : Agree home place t t :=
  ⟨h, h, rfl, rfl, rfl⟩

theorem root (h₁ : t₁.working = home) (h₂ : t₂.working = home) : Agree home [] t₁ t₂ :=
  ⟨h₁, h₂, rfl, rfl, rfl⟩

theorem put_empty (h : Agree home place t₁ t₂) (hroot : place ≠ []) :
    Agree home place (t₁.put place (.file (.bytes .empty)))
      (t₂.put place (.file (.bytes .empty))) := by
  have hlength : place.dropLast.length < place.length := by
    rw [List.length_dropLast]
    have := List.length_pos_iff.mpr hroot
    omega
  have habove : place.dropLast ≠ place := fun hsame => by
    rw [hsame] at hlength
    exact Nat.lt_irrefl _ hlength
  refine ⟨h.left, h.right, ?_, ?_, ?_⟩
  · rw [node?_put, node?_put, if_pos ⟨rfl, hroot⟩, if_pos ⟨rfl, hroot⟩]
  · rw [node?_put, node?_put, if_neg fun hsame => habove hsame.1, if_neg fun hsame => habove hsame.1]
    exact h.above
  · rw [Store.database?_put_empty hroot, Store.database?_put_empty hroot]

end Tree.Agree

namespace Run
variable {ε α β : Type} {home place : Location} {x : Run β} {f : β → Run α}

/-- In worlds whose trees agree the run ends the same, and they agree afterwards. -/
def Agrees (home place : Location) (x : Run α) : Prop :=
  ∀ w₁ w₂ : World, Tree.Agree home place w₁.tree w₂.tree →
    ending x w₁ = ending x w₂ ∧ Tree.Agree home place (leaving x w₁).tree (leaving x w₂).tree

namespace Agrees

theorem pure (a : α) : Agrees home place (Pure.pure a : Run α) :=
  fun _ _ h => ⟨rfl, h⟩

theorem throw (e : RunError) : Agrees home place (MonadExcept.throw e : Run α) :=
  fun _ _ h => ⟨rfl, h⟩

theorem note (r : LogRecord) : Agrees home place (Run.note r) :=
  fun _ _ h => ⟨rfl, h⟩

theorem lift {wrap : ε → RunError} (r : Except ε α) : Agrees home place (Run.lift wrap r) := by
  cases r with
  | ok a => exact .pure a
  | error e => exact .throw (wrap e)

theorem bind_of (hx : Agrees home place x)
    (hf : ∀ b w, w.tree.working = home → ending x w = .ok b → Agrees home place (f b)) :
    Agrees home place (x >>= f) := by
  intro w₁ w₂ h
  obtain ⟨hend, hleft⟩ := hx w₁ w₂ h
  cases h₁ : ending x w₁ with
  | error e =>
    have h₂ : ending x w₂ = .error e := hend ▸ h₁
    rw [(bind_error h₁).1, (bind_error h₁).2, (bind_error h₂).1, (bind_error h₂).2]
    exact ⟨rfl, hleft⟩
  | ok b =>
    have h₂ : ending x w₂ = .ok b := hend ▸ h₁
    rw [(bind_ok h₁).1, (bind_ok h₁).2, (bind_ok h₂).1, (bind_ok h₂).2]
    exact hf b w₁ h.left h₁ _ _ hleft

theorem bind (hx : Agrees home place x) (hf : ∀ b, Agrees home place (f b)) :
    Agrees home place (x >>= f) :=
  hx.bind_of fun b _ _ _ => hf b

theorem forM {f : β → Run PUnit} {items : List β} (h : ∀ b ∈ items, Agrees home place (f b)) :
    Agrees home place (items.forM f) := by
  induction items with
  | nil => exact .pure _
  | cons b rest ih =>
    have hrest := ih fun c hc => h c (List.mem_cons_of_mem _ hc)
    exact (h b List.mem_cons_self).bind fun _ => hrest

theorem mapM {f : β → Run α} {items : List β} (h : ∀ b ∈ items, Agrees home place (f b)) :
    Agrees home place (items.mapM f) := by
  induction items with
  | nil => exact .pure _
  | cons b rest ih =>
    have hrest := ih fun c hc => h c (List.mem_cons_of_mem _ hc)
    rw [List.mapM_cons]
    exact (h b List.mem_cons_self).bind fun _ => hrest.bind fun _ => .pure _

end Agrees

end Run

end LookupEnums
