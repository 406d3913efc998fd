import LookupEnums.Compile.Run

/-! # How a step of a compilation ends

A step ends normally or with an error, and either way in a session. `Ends` says what holds in both
endings; the rules take a step apart along its text, down to the changes of the session.
-/
namespace LookupEnums.Compile
variable {α β : Type} {s : Session} {ok : α → Session → Prop} {fail : CompileError → Session → Prop}

/-- From `s` the step ends normally with `ok`, or with an error and `fail`. -/
def Ends (x : Compile α) (s : Session) (ok : α → Session → Prop)
    (fail : CompileError → Session → Prop) : Prop :=
  match x s with
  | .ok a t => ok a t
  | .error e t => fail e t

@[simp] theorem ends_pure {a : α} : Ends (pure a) s ok fail ↔ ok a s := Iff.rfl

@[simp] theorem ends_throw {e : CompileError} : Ends (throw e) s ok fail ↔ fail e s := Iff.rfl

@[simp] theorem ends_bind {x : Compile β} {f : β → Compile α} :
    Ends (x >>= f) s ok fail ↔ Ends x s (fun b t => Ends (f b) t ok fail) fail := by
  change (match EStateM.bind x f s with
    | .ok a t => ok a t
    | .error e t => fail e t) ↔ _
  unfold EStateM.bind Ends
  cases x s <;> exact Iff.rfl

theorem ends_ite {c : Prop} [Decidable c] {x y : Compile α} :
    Ends (if c then x else y) s ok fail ↔ (c → Ends x s ok fail) ∧ (¬ c → Ends y s ok fail) := by
  by_cases hc : c <;> simp [hc]

@[simp] theorem ends_get {ok : Session → Session → Prop} :
    Ends get s ok fail ↔ ok s s := Iff.rfl

@[simp] theorem ends_env {ok : TypeEnv → Session → Prop} :
    Ends env s ok fail ↔ ok s.env s := Iff.rfl

section unit
variable {ok : Unit → Session → Prop}

@[simp] theorem ends_modifyEnv {change : TypeEnv → TypeEnv} :
    Ends (modifyEnv change) s ok fail ↔ ok () { s with env := change s.env } := Iff.rfl

@[simp] theorem ends_note {events : List CompileEvent} :
    Ends (note events) s ok fail ↔ ok () { s with journal := s.journal ++ events } := Iff.rfl

@[simp] theorem ends_complete {t : String} :
    Ends (complete t) s ok fail ↔ ok () { s with completed := s.completed ++ [t] } := Iff.rfl

/-- A step under a type on the stack: however it ends, the stack is one shorter afterwards. -/
@[simp] theorem ends_during {t : String} {x : Compile Unit} :
    Ends (during t x) s ok fail ↔
      Ends x { s with compiling := s.compiling ++ [t] }
        (fun _ u => ok () { u with compiling := u.compiling.dropLast })
        (fun e u => fail e { u with compiling := u.compiling.dropLast }) := by
  have hrun : (do enter t; x : Compile Unit).run s = x { s with compiling := s.compiling ++ [t] } := rfl
  unfold Ends during
  rw [hrun]
  cases x { s with compiling := s.compiling ++ [t] } <;> exact Iff.rfl

/-- A loop keeps an invariant over the items it is done with. -/
theorem ends_forM {γ : Type} {f : γ → Compile Unit} (inv : List γ → Session → Prop) (items : List γ)
    (hstart : inv [] s)
    (hstep : ∀ before a after u, items = before ++ a :: after → inv before u →
      Ends (f a) u (fun _ => inv (before ++ [a])) fail) :
    Ends (items.forM f) s (fun _ => inv items) fail := by
  -- the induction is on what is left, so the invariant speaks of what came before it
  suffices h : ∀ after before u, items = before ++ after → inv before u →
      Ends (after.forM f) u (fun _ => inv items) fail from h items [] s rfl hstart
  intro after
  induction after with
  | nil =>
    intro before u hsplit hu
    rw [List.append_nil] at hsplit
    subst hsplit
    exact hu
  | cons a after ih =>
    intro before u hsplit hu
    change Ends (f a >>= fun _ => after.forM f) u _ _
    rw [ends_bind]
    have hone := hstep before a after u hsplit hu
    unfold Ends at hone ⊢
    cases hx : f a u with
    | ok _ v =>
      rw [hx] at hone
      exact ih (before ++ [a]) v (by simpa using hsplit) hone
    | error e v =>
      rw [hx] at hone
      exact hone

end unit

@[simp] theorem ends_liftExcept_ok {a : α} :
    Ends (liftExcept (.ok a)) s ok fail ↔ ok a s := Iff.rfl

@[simp] theorem ends_liftExcept_error {e : CompileError} :
    Ends (liftExcept (.error e)) s ok fail ↔ fail e s := Iff.rfl

@[simp] theorem ends_tryEnv {change : TypeEnv → Except CompileError TypeEnv}
    {ok : Unit → Session → Prop} :
    Ends (tryEnv change) s ok fail ↔
      Ends (liftExcept (change s.env)) s (fun env t => ok () { t with env }) fail := by
  unfold tryEnv
  rw [ends_bind, ends_env]
  cases change s.env <;> exact Iff.rfl

theorem Ends.mono {x : Compile α} {ok' : α → Session → Prop} {fail' : CompileError → Session → Prop}
    (h : Ends x s ok fail) (hok : ∀ a t, ok a t → ok' a t) (hfail : ∀ e t, fail e t → fail' e t) :
    Ends x s ok' fail' := by
  unfold Ends at h ⊢
  cases hx : x s with
  | ok a t =>
    rw [hx] at h
    exact hok a t h
  | error e t =>
    rw [hx] at h
    exact hfail e t h

theorem Ends.of_ok {x : Compile α} {a : α} {t : Session} (h : Ends x s ok fail)
    (hx : x.run s = .ok a t) : ok a t := by
  have hx : x s = .ok a t := hx
  unfold Ends at h
  rwa [hx] at h

theorem Ends.of_error {x : Compile α} {e : CompileError} {t : Session} (h : Ends x s ok fail)
    (hx : x.run s = .error e t) : fail e t := by
  have hx : x s = .error e t := hx
  unfold Ends at h
  rwa [hx] at h

/-- What may become of a session, `kept` in a step that ends well and `lost` in one that fails: nothing,
and one change after the other. -/
structure Frame (kept : Session → Session → Prop) (lost : CompileError → Session → Session → Prop) :
    Prop where
  refl : ∀ s, kept s s
  trans : ∀ {s u v}, kept s u → kept u v → kept s v
  late : ∀ {e s u v}, kept s u → lost e u v → lost e s v

/-- However a step ends, it changes the session in one of these ways. -/
def Within (kept : Session → Session → Prop) (lost : CompileError → Session → Session → Prop)
    (x : Compile α) : Prop :=
  ∀ s : Session, Ends x s (fun _ u => kept s u) fun e u => lost e s u

section within
variable {kept : Session → Session → Prop} {lost : CompileError → Session → Session → Prop}

namespace Within

theorem throw {e : CompileError} (h : ∀ s, lost e s s) :
    Within kept lost (MonadExcept.throw e : Compile α) :=
  fun s => ends_throw.mpr (h s)

theorem ite {c : Prop} [Decidable c] {x y : Compile α} (hx : Within kept lost x)
    (hy : Within kept lost y) : Within kept lost (if c then x else y) := by
  split
  · exact hx
  · exact hy

end Within

namespace Frame

theorem pure (F : Frame kept lost) (a : α) : Within kept lost (Pure.pure a : Compile α) :=
  fun s => ends_pure.mpr (F.refl s)

theorem env (F : Frame kept lost) : Within kept lost Compile.env := fun s => ends_env.mpr (F.refl s)

theorem get (F : Frame kept lost) : Within kept lost (MonadState.get : Compile Session) :=
  fun s => ends_get.mpr (F.refl s)

theorem liftExcept (F : Frame kept lost) {x : Except CompileError α}
    (h : ∀ e, x = .error e → ∀ s, lost e s s) : Within kept lost (Compile.liftExcept x) := by
  cases x with
  | ok a => exact F.pure a
  | error e => exact .throw (h e rfl)

theorem bind (F : Frame kept lost) {x : Compile β} {f : β → Compile α} (hx : Within kept lost x)
    (hf : ∀ b, Within kept lost (f b)) : Within kept lost (x >>= f) := by
  intro s
  rw [ends_bind]
  refine (hx s).mono (fun b u hu => ?_) fun _ _ hu => hu
  exact (hf b u).mono (fun _ _ hv => F.trans hu hv) fun _ _ hv => F.late hu hv

theorem forM (F : Frame kept lost) {γ : Type} {f : γ → Compile Unit} {items : List γ}
    (h : ∀ a ∈ items, Within kept lost (f a)) : Within kept lost (items.forM f) := by
  induction items with
  | nil => exact F.pure _
  | cons a rest ih =>
    exact F.bind (h a List.mem_cons_self) fun _ => ih fun b hb => h b (List.mem_cons_of_mem _ hb)

end Frame

end within

attribute [irreducible] Ends

end LookupEnums.Compile
