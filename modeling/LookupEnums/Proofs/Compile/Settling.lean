import LookupEnums.Proofs.Compile.Outcome
import LookupEnums.Proofs.Compile.Working

/-! # Settling what the accessors return

For each column the type it returns is asked for, which compiles other tables while this one waits
on the stack. They leave its draft alone, and if they fail then this table cannot be compiled
either. After that the name of the type stands for what the plan says.
-/
namespace LookupEnums
open Compile

namespace Plan

/-- What asking for a type does under a stack whose last type refers to it. -/
def Serves (p : Plan) (onDemand : String → Compile Unit) (stack : List String) : Prop :=
  ∀ s name, p.Inv s → s.compiling = stack →
    (p.maps name = true → (stack ++ [name]).IsChain p.Refers) →
    Ends (onDemand name) s
      (fun _ u => p.Inv u ∧ s.Extends stack u ∧ (p.maps name = true → name ∈ u.completed))
      (fun e u => ∃ target, p.mapping? name = some target ∧ p.Fails target stack s e u)

variable {p : Plan} {m : TableMapping} {d : TableData} {keyType : StorageType} {base : List String}
  {s u v : Session} {w : Draft} {c : ColumnMapping}

theorem Inv.stage?_of_completed (h : p.Inv s) {t : String} (ht : t ∈ s.completed) :
    s.env.stage? t = some .internal := by
  obtain ⟨m, hm, rfl⟩ := List.mem_map.mp (maps_iff.mp (h.mapped t (List.mem_append_right _ ht)))
  obtain ⟨d, keyType, -, -, hpart, -⟩ := h.finished m hm ht
  have henum : s.env.enum? ⟨m.typeName, none⟩ = some ((p.finalDraft m d).enum m keyType) :=
    congrArg TablePart.enum hpart
  exact (h.admits.internal m.typeName).mpr (by simp [henum])

namespace Working

/-- A table waits while others are compiled under it. -/
theorem wait (h : p.Working m d keyType base s w u) (hinv : p.Inv v)
    (hgrown : u.Extends (base ++ [m.typeName]) v) : p.Working m d keyType base s w v where
  inv := hinv
  grown := h.grown.trans (hgrown.mono fun t ht => List.mem_append_left _ ht)
  stack := hgrown.compiling.trans h.stack
  begun := by
    obtain ⟨table, htable⟩ := h.begun
    exact ⟨table, hgrown.journal.subset htable⟩
  fits := h.fits.mono fun t ht => hgrown.completed.subset ht
  part := (hgrown.part _ (List.mem_append_right _ List.mem_cons_self)).trans h.part

theorem isChain_concat (h : p.Working m d keyType base s w u) {name : String}
    (hrefers : p.Refers m.typeName name) : (base ++ [m.typeName] ++ [name]).IsChain p.Refers := by
  have hchain := h.inv.chain
  rw [h.stack] at hchain
  refine hchain.append (List.isChain_singleton name) ?_
  intro t ht n hn
  rw [List.getLast?_concat] at ht
  cases ht
  cases hn
  exact hrefers

theorem settle (h : p.Working m d keyType base s w u) (T : p.Table m d keyType) (hc : c ∈ w.columns)
    (hdone : p.maps (d.returnName c) = true → d.returnName c ∈ u.completed) :
    p.Working m d keyType base s (w.settle c (p.directStage (d.returnName c)))
        { u with env := u.env.settleReturn (m.accessorId c) } ∧
      StagesGrow u.env (u.env.settleReturn (m.accessorId c)) ∧
      (u.env.settleReturn (m.accessorId c)).stage? (d.returnName c) =
        some (p.directStage (d.returnName c)) := by
  have haccessor := h.accessor?_eq T hc
  have hinternal := fun hmaps => h.inv.stage?_of_completed (hdone hmaps)
  obtain ⟨hadmits, hsettle⟩ := h.inv.admits.settleReturn haccessor rfl hinternal
  have hnode := h.inv.admits.returns _ (List.mem_of_find?_eq_some haccessor)
  obtain ⟨-, hstage⟩ := h.inv.admits.groundNode_eq hnode hinternal
  have hpart := TypeEnv.part_updateAccessor (u.env.ground (w.accessor m d c).returns)
    (m.accessorId c)
    (fun b => { b with returns := TypeEnv.nodeAt (p.directStage (d.returnName c)) (d.returnName c) })
    fun _ hb => hb
  have hgrow : StagesGrow u.env (u.env.settleReturn (m.accessorId c)) := by
    rw [hsettle]
    exact (StagesGrow.ground _ _).trans (StagesGrow.of_eq fun _ => rfl)
  rw [hsettle] at hadmits hgrow ⊢
  refine ⟨h.change T hadmits hgrow ?_ ?_ ⟨h.fits.columns, h.fits.rows, h.fits.cases, h.fits.filled⟩,
    hgrow, hstage⟩
  · intro t ht
    exact (hpart t).trans ((if_neg ht).trans (TypeEnv.part_ground _ _ t))
  · refine (hpart m.typeName).trans ((if_pos rfl).trans ?_)
    rw [TypeEnv.part_ground, h.part, show (m.accessorId c).name = c.accessor from rfl,
      Draft.part_accessor (h.fits.nodup T.wellFormed) hc, Option.map_some]
    rw [Draft.update_part_accessor (v := w.settle c (p.directStage (d.returnName c)))
      (h.fits.nodup T.wellFormed) hc rfl]
    · rfl
    · intro b _ hb
      simp [Draft.accessor, Draft.settle, hb]
    · simp [Draft.accessor, Draft.settle]

end Working

structure Settled (p : Plan) (m : TableMapping) (d : TableData) (keyType : StorageType)
    (base : List String) (s : Session) (done : List ColumnMapping) (w : Draft) (u : Session) : Prop where
  working : p.Working m d keyType base s w u
  columns : w.columns = m.columns
  rows : w.rows = d.rows
  stage : ∀ c ∈ done, w.stage c = p.directStage (d.returnName c)
  settled : ∀ c ∈ done, u.env.stage? (d.returnName c) = some (p.directStage (d.returnName c))
  completed : ∀ c ∈ done, p.maps (d.returnName c) = true → d.returnName c ∈ u.completed

theorem directStage_ne_unresolved (name : String) : p.directStage name ≠ .unresolved := by
  unfold directStage
  split <;> simp

/-- The last step for a column, once the type it returns was asked for. -/
theorem Settled.settle {before : List ColumnMapping} (h : p.Settled m d keyType base s before w u)
    (T : p.Table m d keyType) (hc : c ∈ m.columns)
    (hdone : p.maps (d.returnName c) = true → d.returnName c ∈ u.completed) :
    p.Settled m d keyType base s (before ++ [c]) (w.settle c (p.directStage (d.returnName c)))
      { u with env := u.env.settleReturn (m.accessorId c) } := by
  obtain ⟨hwork, hgrow, hstage⟩ := h.working.settle T (h.columns ▸ hc) hdone
  refine ⟨hwork, h.columns, h.rows, ?_, ?_, ?_⟩
  · intro b hb
    by_cases hbc : b = c
    · simp [Draft.settle, hbc]
    · have hb : b ∈ before := by simpa [hbc] using hb
      simpa [Draft.settle, hbc] using h.stage b hb
  · intro b hb
    rcases List.mem_append.mp hb with hb | hb
    · exact hgrow.settled _ _ (directStage_ne_unresolved _) (h.settled b hb)
    · rw [List.mem_singleton.mp hb]
      exact hstage
  · intro b hb
    rcases List.mem_append.mp hb with hb | hb
    · exact h.completed b hb
    · rw [List.mem_singleton.mp hb]
      exact hdone

theorem Settled.wait {before : List ColumnMapping} (h : p.Settled m d keyType base s before w u)
    (hinv : p.Inv v) (hgrown : u.Extends (base ++ [m.typeName]) v) :
    p.Settled m d keyType base s before w v :=
  { h with
    working := h.working.wait hinv hgrown
    settled := fun b hb => hgrown.stages.settled _ _ (directStage_ne_unresolved _) (h.settled b hb)
    completed := fun b hb hmaps => hgrown.completed.subset (h.completed b hb hmaps) }

theorem ends_settle {onDemand : String → Compile Unit} (T : p.Table m d keyType)
    (hserves : p.Serves onDemand (base ++ [m.typeName])) {before after : List ColumnMapping}
    (hsplit : m.columns = before ++ c :: after) (hstorage : (d.storageType? c.column).isSome)
    (h : p.Settled m d keyType base s before w u) :
    Ends (settle onDemand (m.accessorId c)) u
      (fun _ v => ∃ w', p.Settled m d keyType base s (before ++ [c]) w' v ∧ w'.cases = w.cases)
      (p.Fails m base s) := by
  have hc : c ∈ m.columns := by simp [hsplit]
  have hrefers := refers_of_column T.mem T.data hc hstorage
  unfold settle
  rw [ends_bind, ends_env, h.working.accessor?_eq T (h.columns ▸ hc)]
  simp only [ends_bind]
  refine Ends.mono (hserves u (d.returnName c) h.working.inv h.working.stack ?_) ?_ ?_
  · exact fun hmaps => h.working.isChain_concat (hrefers hmaps)
  · rintro - v ⟨hinv, hgrown, hdone⟩
    have hwait := h.wait hinv hgrown
    refine ends_ite.mpr ⟨?_, ?_⟩
    · intro _
      simp only [ends_bind, ends_env, ends_note, ends_modifyEnv]
      refine ⟨_, Settled.settle { hwait with working := hwait.working.note _ ?_ } T hc hdone, rfl⟩
      unfold CompileEvent.ofResolve
      split <;> simp
    · intro _
      exact ends_modifyEnv.mpr ⟨_, hwait.settle T hc hdone, rfl⟩
  · rintro e v ⟨target, htarget, hfails⟩
    obtain ⟨-, hname⟩ := mapping?_eq_some.mp htarget
    have hmaps : p.maps (d.returnName c) = true := Option.isSome_iff_exists.mpr ⟨target, htarget⟩
    refine ⟨hfails.inv, h.working.grown.trans (hfails.grown.mono ?_), ?_, hfails.justified⟩
    · exact fun t ht => List.mem_append_left _ ht
    · exact not_compilable_of_refers T.mem (hname ▸ htarget) (hname ▸ hrefers hmaps) hfails.not_compilable

/-- All accessors are settled, or the table cannot be compiled. -/
theorem ends_settles {onDemand : String → Compile Unit} (T : p.Table m d keyType)
    (hserves : p.Serves onDemand (base ++ [m.typeName]))
    (hstorage : ∀ c ∈ m.columns, (d.storageType? c.column).isSome)
    (h : p.Settled m d keyType base s [] w u) :
    Ends (m.columns.forM fun c => settle onDemand (m.accessorId c)) u
      (fun _ v => ∃ w', p.Settled m d keyType base s m.columns w' v ∧ w'.cases = w.cases)
      (p.Fails m base s) := by
  refine ends_forM (fun done v => ∃ w', p.Settled m d keyType base s done w' v ∧
    w'.cases = w.cases) m.columns ⟨w, h, rfl⟩ ?_
  rintro before c after v hsplit ⟨w', hsettled, hcases⟩
  have hone := ends_settle T hserves hsplit (hstorage c (by simp [hsplit])) hsettled
  rwa [hcases] at hone

end Plan

end LookupEnums
