import LookupEnums.Compile.Run
import LookupEnums.Proofs.Compile.Admitted
import LookupEnums.Proofs.Compile.Compilable
import LookupEnums.Proofs.Compile.Draft
import LookupEnums.Proofs.Mapping.WellFormed

/-! # What every session keeps

The invariant of a compilation, at every moment and also between calls of which some have failed.
A finished table is compilable and its part of the environment is the direct one; an unfinished one
is a draft, or untouched if it was never begun; and one that was begun and is neither finished nor
on the stack cannot be compiled at all, so what it left behind is never built upon.
-/
namespace LookupEnums
open Compile

namespace Session

def Begun (s : Session) (t : String) : Prop :=
  ∃ table, CompileEvent.compiling table t ∈ s.journal

/-- What a step under a stack leaves: the stack, what is finished, and the parts of some types. -/
structure Extends (kept : List String) (s u : Session) : Prop where
  compiling : u.compiling = s.compiling
  completed : s.completed <+: u.completed
  journal : s.journal <+: u.journal
  part : ∀ t ∈ kept, u.env.part t = s.env.part t
  stages : StagesGrow s.env u.env

namespace Extends
variable {kept kept' : List String} {s u v : Session}

theorem refl (kept : List String) (s : Session) : Extends kept s s :=
  ⟨rfl, List.prefix_refl _, List.prefix_refl _, fun _ _ => rfl, StagesGrow.refl _⟩

theorem trans (h : Extends kept s u) (h' : Extends kept u v) : Extends kept s v where
  compiling := h'.compiling.trans h.compiling
  completed := h.completed.trans h'.completed
  journal := h.journal.trans h'.journal
  part t ht := (h'.part t ht).trans (h.part t ht)
  stages := h.stages.trans h'.stages

theorem mono (h : Extends kept s u) (hkept : ∀ t ∈ kept', t ∈ kept) : Extends kept' s u :=
  { h with part := fun t ht => h.part t (hkept t ht) }

end Extends

end Session

/-- A draft holds a beginning of what the table will hold. Cases come last: with the first of them
all columns and rows are there, and all mapped types the columns return are finished. -/
structure Draft.Fits (p : Plan) (m : TableMapping) (d : TableData) (completed : List String)
    (w : Draft) : Prop where
  columns : w.columns <+: m.columns
  rows : w.rows <+: d.rows
  cases : ∀ c, w.cases c <+: p.directCases m d c
  filled : ∀ c, w.cases c ≠ [] → w.columns = m.columns ∧ w.rows = d.rows ∧
    ∀ b ∈ m.columns, p.maps (d.returnName b) = true → d.returnName b ∈ completed

namespace Draft.Fits
variable {p : Plan} {m : TableMapping} {d : TableData} {completed completed' : List String}
  {w : Draft}

theorem start (p : Plan) (m : TableMapping) (d : TableData) (completed : List String) :
    Draft.start.Fits p m d completed :=
  ⟨List.nil_prefix, List.nil_prefix, fun _ => List.nil_prefix, fun _ h => absurd rfl h⟩

theorem mono (h : w.Fits p m d completed) (hsub : ∀ t ∈ completed, t ∈ completed') :
    w.Fits p m d completed' :=
  ⟨h.columns, h.rows, h.cases, fun c hc =>
    have hf := h.filled c hc
    ⟨hf.1, hf.2.1, fun b hb hmaps => hsub _ (hf.2.2 b hb hmaps)⟩⟩

theorem nodup (h : w.Fits p m d completed) (hw : m.WellFormed) :
    (w.columns.map (·.accessor)).Nodup :=
  hw.accessors.sublist (h.columns.sublist.map _)

/-- Without rows there are no cases. -/
theorem cases_eq_nil (h : w.Fits p m d completed) (hrows : w.rows = []) (c : ColumnMapping) :
    w.cases c = [] := by
  by_contra hne
  obtain ⟨-, hall, -⟩ := h.filled c hne
  have hprefix := h.cases c
  have hdirect : p.directCases m d c = [] := by
    unfold Plan.directCases Plan.casesOver
    rw [← hall, hrows]
    split <;> rfl
  rw [hdirect, List.prefix_nil] at hprefix
  exact hne hprefix

end Draft.Fits

namespace Plan

def Finished (p : Plan) (env : TypeEnv) (m : TableMapping) : Prop :=
  ∃ d keyType, m.data = some d ∧ d.storageType? m.key = some keyType ∧
    env.part m.typeName = (p.finalDraft m d).part m d keyType ∧
    ∀ c ∈ m.columns, env.stage? (d.returnName c) = some (p.directStage (d.returnName c))

def Drafted (p : Plan) (s : Session) (m : TableMapping) : Prop :=
  ∃ d keyType, ∃ w : Draft, m.data = some d ∧ d.storageType? m.key = some keyType ∧
    w.Fits p m d s.completed ∧ s.env.part m.typeName = w.part m d keyType

structure Inv (p : Plan) (s : Session) : Prop where
  admits : p.Admits s.env
  nodup : s.compiling.Nodup
  mapped : ∀ t ∈ s.compiling ++ s.completed, p.maps t = true
  opened : ∀ t ∈ s.compiling, t ∉ s.completed
  chain : s.compiling.IsChain p.Refers
  closed : ∀ t ∈ s.completed, ∀ u, p.Refers t u → u ∈ s.completed
  compilable : ∀ m ∈ p.mappings, m.typeName ∈ s.completed → p.Compilable m
  finished : ∀ m ∈ p.mappings, m.typeName ∈ s.completed → p.Finished s.env m
  drafted : ∀ m ∈ p.mappings, m.typeName ∉ s.completed →
    s.env.part m.typeName = .empty ∨ p.Drafted s m
  fresh : ∀ m ∈ p.mappings, ¬ s.Begun m.typeName → s.env.part m.typeName = .empty
  failed : ∀ m ∈ p.mappings, s.Begun m.typeName →
    m.typeName ∈ s.completed ∨ m.typeName ∈ s.compiling ∨ ¬ p.Compilable m

theorem Inv.start (p : Plan) : p.Inv {} where
  admits := Admits.empty p
  nodup := by simp
  mapped := by simp
  opened := by simp
  chain := by simp
  closed := by simp
  compilable := by simp
  finished := by simp
  drafted := fun _ _ _ => Or.inl rfl
  fresh := fun _ _ _ => rfl
  failed := by simp [Session.Begun]

/-- Finished tables stay finished as long as their parts are left alone. -/
theorem Finished.mono {p : Plan} {env env' : TypeEnv} {m : TableMapping} (h : p.Finished env m)
    (hpart : env'.part m.typeName = env.part m.typeName) (hgrow : StagesGrow env env') :
    p.Finished env' m := by
  obtain ⟨d, keyType, hdata, hkey, hfinal, hstages⟩ := h
  refine ⟨d, keyType, hdata, hkey, hpart.trans hfinal, ?_⟩
  intro c hc
  refine hgrow.settled _ _ ?_ (hstages c hc)
  unfold directStage
  split <;> simp

theorem mappings_ext {p : Plan} {m m' : TableMapping} (hm : m ∈ p.mappings) (hm' : m' ∈ p.mappings)
    (h : m'.typeName = m.typeName) : m' = m :=
  List.inj_on_of_nodup_map p.distinct hm' hm h

namespace Inv
variable {p : Plan} {m : TableMapping} {d : TableData} {keyType : StorageType} {s : Session}
  {w : Draft}

/-- A type is on the stack but once. -/
theorem not_mem_base (h : p.Inv s) {base : List String} {t : String} (hstack : s.compiling = base ++ [t]) :
    t ∉ base := by
  have hnodup := h.nodup
  rw [hstack, List.nodup_append] at hnodup
  exact fun hm => hnodup.2.2 _ hm _ List.mem_cons_self rfl

/-- Events other than the start of a table leave the invariant. -/
theorem note (h : p.Inv s) {events : List CompileEvent}
    (hevents : ∀ table t, CompileEvent.compiling table t ∉ events) :
    p.Inv { s with journal := s.journal ++ events } := by
  have hbegun : ∀ t, ({ s with journal := s.journal ++ events } : Session).Begun t ↔ s.Begun t := by
    intro t
    simp [Session.Begun, hevents]
  refine ⟨h.admits, h.nodup, h.mapped, h.opened, h.chain, h.closed, h.compilable, h.finished, h.drafted,
    ?_, ?_⟩
  · exact fun m hm hnot => h.fresh m hm (mt (hbegun _).mpr hnot)
  · exact fun m hm hyes => h.failed m hm ((hbegun _).mp hyes)

/-- A change of the environment that concerns one unfinished table and makes its part a draft. -/
theorem change (h : p.Inv s) (hm : m ∈ p.mappings) (hdata : m.data = some d)
    (hkey : d.storageType? m.key = some keyType) (hopen : m.typeName ∉ s.completed)
    (hbegun : s.Begun m.typeName) {env : TypeEnv} (hadmits : p.Admits env)
    (hgrow : StagesGrow s.env env)
    (hothers : ∀ t, t ≠ m.typeName → env.part t = s.env.part t)
    (hpart : env.part m.typeName = w.part m d keyType) (hfits : w.Fits p m d s.completed) :
    p.Inv { s with env } := by
  have hcases : ∀ m' ∈ p.mappings, m'.typeName ≠ m.typeName ∨ m' = m := by
    intro m' hm'
    by_cases hname : m'.typeName = m.typeName
    · exact Or.inr (mappings_ext hm hm' hname)
    · exact Or.inl hname
  refine ⟨hadmits, h.nodup, h.mapped, h.opened, h.chain, h.closed, h.compilable, ?_, ?_, ?_, h.failed⟩
  · intro m' hm' hdone
    have hname : m'.typeName ≠ m.typeName := fun he => hopen (he ▸ hdone)
    exact (h.finished m' hm' hdone).mono (hothers _ hname) hgrow
  · intro m' hm' hnot
    rcases hcases m' hm' with hname | rfl
    · rcases h.drafted m' hm' hnot with hempty | ⟨d', k', v, hd', hk', hf', hp'⟩
      · exact Or.inl ((hothers _ hname).trans hempty)
      · exact Or.inr ⟨d', k', v, hd', hk', hf', (hothers _ hname).trans hp'⟩
    · exact Or.inr ⟨d, keyType, w, hdata, hkey, hfits, hpart⟩
  · intro m' hm' hnot
    rcases hcases m' hm' with hname | rfl
    · exact (hothers _ hname).trans (h.fresh m' hm' hnot)
    · exact absurd hbegun hnot

end Inv

end Plan

end LookupEnums
