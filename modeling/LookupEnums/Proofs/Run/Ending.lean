import LookupEnums.Run.Basic

/-! # How steps end and what they leave

A step with a state ends with a result or an error, and leaves a state either way. Both are told apart
here for steps on files and for whole runs, and followed through the ways steps are put together.
-/
namespace LookupEnums
variable {ε σ α β : Type} {s : σ}

/-- What a step ends with, without the state it leaves. -/
def ending (x : EStateM ε σ α) (s : σ) : Except ε α :=
  match x s with
  | .ok a _ => .ok a
  | .error e _ => .error e

/-- The state that a step leaves, however it ends. -/
def leaving (x : EStateM ε σ α) (s : σ) : σ :=
  match x s with
  | .ok _ t => t
  | .error _ t => t

theorem eq_ok_iff {x : EStateM ε σ α} {a : α} {t : σ} :
    x s = .ok a t ↔ ending x s = .ok a ∧ leaving x s = t := by
  unfold ending leaving
  cases x s with
  | ok b u => simp
  | error e u => simp

theorem eq_error_iff {x : EStateM ε σ α} {e : ε} {t : σ} :
    x s = .error e t ↔ ending x s = .error e ∧ leaving x s = t := by
  unfold ending leaving
  cases x s with
  | ok b u => simp
  | error f u => simp

@[simp] theorem leaving_pure (a : α) : leaving (pure a : EStateM ε σ α) s = s := rfl

section bind
variable {x : EStateM ε σ β} {f : β → EStateM ε σ α} {b : β} {e : ε}

theorem bind_ok (h : ending x s = .ok b) :
    ending (x >>= f) s = ending (f b) (leaving x s) ∧
      leaving (x >>= f) s = leaving (f b) (leaving x s) := by
  have hx : x s = .ok b (leaving x s) := eq_ok_iff.mpr ⟨h, rfl⟩
  have hbind : (x >>= f) s = f b (leaving x s) := by
    change EStateM.bind x f s = _
    rw [EStateM.bind, hx]
  exact ⟨by rw [ending, hbind]; rfl, by rw [leaving, hbind]; rfl⟩

theorem bind_error (h : ending x s = .error e) :
    ending (x >>= f) s = .error e ∧ leaving (x >>= f) s = leaving x s := by
  have hx : x s = .error e (leaving x s) := eq_error_iff.mpr ⟨h, rfl⟩
  have hbind : (x >>= f) s = .error e (leaving x s) := by
    change EStateM.bind x f s = _
    rw [EStateM.bind, hx]
  exact ⟨by rw [ending, hbind], by rw [leaving, hbind]⟩

theorem of_bind_ok {a : α} (h : ending (x >>= f) s = .ok a) :
    ∃ b, ending x s = .ok b ∧ ending (f b) (leaving x s) = .ok a := by
  cases hx : ending x s with
  | ok b => exact ⟨b, rfl, (bind_ok hx).1 ▸ h⟩
  | error e =>
    rw [(bind_error hx).1] at h
    cases h

/-- A chain of two steps fails in the first of them, or in the second after the first. -/
theorem of_bind_error (h : ending (x >>= f) s = .error e) :
    ending x s = .error e ∧ leaving (x >>= f) s = leaving x s ∨
      ∃ b, ending x s = .ok b ∧ ending (f b) (leaving x s) = .error e ∧
        leaving (x >>= f) s = leaving (f b) (leaving x s) := by
  cases hx : ending x s with
  | error e' =>
    have hfirst := bind_error (f := f) hx
    have herror : e' = e := Except.error.inj (hfirst.1.symm.trans h)
    exact .inl ⟨herror ▸ rfl, hfirst.2⟩
  | ok b =>
    have hthen := bind_ok (f := f) hx
    exact .inr ⟨b, rfl, hthen.1.symm.trans h, hthen.2⟩

/-- What a chain of two steps leaves was left by the first of them, or by both in turn. -/
theorem leaving_bind_cases (x : EStateM ε σ β) (f : β → EStateM ε σ α) (s : σ) :
    leaving (x >>= f) s = leaving x s ∨
      ∃ b, ending x s = .ok b ∧ leaving (x >>= f) s = leaving (f b) (leaving x s) := by
  cases h : ending x s with
  | ok b => exact .inr ⟨b, rfl, (bind_ok h).2⟩
  | error e => exact .inl (bind_error h).2

end bind

theorem of_mapM_ok {f : β → EStateM ε σ α} {items : List β} {results : List α}
    (h : ending (items.mapM f) s = .ok results) :
    ∀ a ∈ results, ∃ b ∈ items, ∃ s', ending (f b) s' = .ok a := by
  induction items generalizing s results with
  | nil =>
    cases h
    simp
  | cons b rest ih =>
    rw [List.mapM_cons] at h
    obtain ⟨one, hone, h⟩ := of_bind_ok h
    obtain ⟨more, hmore, h⟩ := of_bind_ok h
    cases h
    intro a ha
    rcases List.mem_cons.mp ha with rfl | ha
    · exact ⟨b, List.mem_cons_self, s, hone⟩
    · obtain ⟨b', hb', s', hb⟩ := ih hmore a ha
      exact ⟨b', List.mem_cons_of_mem _ hb', s', hb⟩

namespace Run
variable {w : World} {x : Run β} {f : β → Run α}

theorem ending_lift_bind {wrap : ε → RunError} (r : Except ε β) :
    ending (Run.lift wrap r >>= f) w = (r.mapError wrap >>= fun b => ending (f b) w) := by
  cases r <;> rfl

theorem ending_onDisk (about : Path) (d : Disk α) (w : World) :
    ending (Run.onDisk about d) w = (ending d w.tree).mapError (.file · about) := by
  unfold ending Run.onDisk
  cases d w.tree <;> rfl

theorem leaving_onDisk (about : Path) (d : Disk α) (w : World) :
    (leaving (Run.onDisk about d) w).tree = leaving d w.tree := by
  unfold leaving Run.onDisk
  cases d w.tree <;> rfl

/-- However a run ends, it leaves the files as they were. -/
def KeepsTree (x : Run α) : Prop :=
  ∀ w, (leaving x w).tree = w.tree

namespace KeepsTree

theorem pure (a : α) : KeepsTree (Pure.pure a : Run α) := fun _ => rfl

theorem throw (e : RunError) : KeepsTree (MonadExcept.throw e : Run α) := fun _ => rfl

theorem bind (hx : KeepsTree x) (hf : ∀ b, KeepsTree (f b)) : KeepsTree (x >>= f) := by
  intro w
  rcases leaving_bind_cases x f w with hleft | ⟨b, -, hleft⟩
  · rw [hleft]
    exact hx w
  · rw [hleft, hf b, hx w]

theorem get : KeepsTree (MonadState.get : Run World) := fun _ => rfl

theorem tree : KeepsTree Run.tree := fun _ => rfl

theorem note (r : LogRecord) : KeepsTree (Run.note r) := fun _ => rfl

theorem lift {wrap : ε → RunError} (r : Except ε α) : KeepsTree (Run.lift wrap r) := by
  cases r with
  | ok a => exact .pure a
  | error e => exact .throw (wrap e)

theorem settings : KeepsTree Run.settings :=
  get.bind fun _ => .lift _

theorem ite {c : Prop} [Decidable c] {x y : Run α} (hx : KeepsTree x) (hy : KeepsTree y) :
    KeepsTree (if c then x else y) := by
  split
  · exact hx
  · exact hy

theorem forM {f : β → Run PUnit} {items : List β} (h : ∀ b ∈ items, KeepsTree (f b)) :
    KeepsTree (items.forM f) := by
  induction items with
  | nil => exact .pure _
  | cons b rest ih =>
    have hrest := ih fun c hc => h c (List.mem_cons_of_mem _ hc)
    exact (h b List.mem_cons_self).bind fun _ => hrest

theorem mapM {f : β → Run α} {items : List β} (h : ∀ b ∈ items, KeepsTree (f b)) :
    KeepsTree (items.mapM f) := by
  induction items with
  | nil => exact .pure _
  | cons b rest ih =>
    have hrest := ih fun c hc => h c (List.mem_cons_of_mem _ hc)
    rw [List.mapM_cons]
    exact (h b List.mem_cons_self).bind fun _ => hrest.bind fun _ => .pure _

end KeepsTree

end Run

end LookupEnums
