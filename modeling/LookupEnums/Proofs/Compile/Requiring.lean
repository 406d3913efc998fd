import LookupEnums.Proofs.Compile.Declaring
import LookupEnums.Proofs.Compile.Filling
import LookupEnums.Proofs.Compile.Invariant

/-! # Requiring a type

A type enters the stack when its compilation begins and leaves it however the compilation ends. If
it ends well the type is finished; otherwise it must be one that cannot be compiled. With that the
steps for one table are put together, and the induction over the tables that ask for each other goes
through: the stack holds no type twice, so there is always room for one more.
-/
namespace LookupEnums.Plan.Inv
variable {p : Plan} {m : TableMapping} {s : Session} {base : List String}

theorem push (h : p.Inv s) (hm : m ∈ p.mappings) (hnew : m.typeName ∉ s.compiling)
    (hopen : m.typeName ∉ s.completed) (hchain : (s.compiling ++ [m.typeName]).IsChain p.Refers) :
    p.Inv { s with
      compiling := s.compiling ++ [m.typeName]
      journal := s.journal ++ [.compiling m.table m.typeName] } := by
  have hbegun : ∀ t, ({ s with
      compiling := s.compiling ++ [m.typeName]
      journal := s.journal ++ [.compiling m.table m.typeName] } : Session).Begun t ↔
      s.Begun t ∨ t = m.typeName := by
    intro t
    simp [Session.Begun, exists_or]
  exact { h with
    chain := hchain
    nodup := List.concat_eq_append ▸ h.nodup.concat hnew
    mapped := by
      intro t ht
      rw [List.append_assoc, List.mem_append, List.singleton_append, List.mem_cons] at ht
      rcases ht with ht | rfl | ht
      · exact h.mapped t (List.mem_append_left _ ht)
      · exact maps_typeName hm
      · exact h.mapped t (List.mem_append_right _ ht)
    opened := by
      intro t ht
      rcases List.mem_append.mp ht with ht | ht
      · exact h.opened t ht
      · exact List.mem_singleton.mp ht ▸ hopen
    fresh := fun m' hm' hnot => h.fresh m' hm' fun hb => hnot ((hbegun _).mpr (Or.inl hb))
    failed := by
      intro m' hm' hb
      rcases (hbegun _).mp hb with hb | hname
      · exact (h.failed m' hm' hb).imp_right (Or.imp_left (List.mem_append_left _))
      · exact Or.inr (Or.inl (hname ▸ List.mem_append_right _ List.mem_cons_self)) }

/-- The rest of the stack under its last type. -/
theorem pop (h : p.Inv s) (hstack : s.compiling = base ++ [m.typeName]) :
    s.compiling.dropLast = base ∧ (∀ t ∈ base, t ∈ s.compiling) ∧ base.Nodup ∧
      base.IsChain p.Refers := by
  have hnodup := h.nodup
  have hchain := h.chain
  rw [hstack] at hnodup hchain ⊢
  exact ⟨List.dropLast_concat, fun t ht => List.mem_append_left _ ht, (List.nodup_append.mp hnodup).1,
    hchain.left_of_append⟩

/-- A type that cannot be compiled leaves the stack. -/
theorem abandon (h : p.Inv s) (hm : m ∈ p.mappings) (hstack : s.compiling = base ++ [m.typeName])
    (hnot : ¬ p.Compilable m) : p.Inv { s with compiling := s.compiling.dropLast } := by
  obtain ⟨hbase, hsub, hnodup, hchain⟩ := h.pop hstack
  rw [hbase]
  exact { h with
    nodup := hnodup
    chain := hchain
    mapped := by
      intro t ht
      exact h.mapped t (List.mem_append.mpr ((List.mem_append.mp ht).imp_left (hsub t)))
    opened := fun t ht => h.opened t (hsub t ht)
    failed := by
      intro m' hm' hb
      refine (h.failed m' hm' hb).imp_right ?_
      rintro (hin | hfailed)
      · rw [hstack, List.mem_append, List.mem_singleton] at hin
        exact hin.imp_right fun hname => mappings_ext hm hm' hname ▸ hnot
      · exact Or.inr hfailed }

/-- A type leaves the stack as finished. -/
theorem finish (h : p.Inv s) (hm : m ∈ p.mappings) (hstack : s.compiling = base ++ [m.typeName])
    (hcompilable : p.Compilable m) (hfinished : p.Finished s.env m)
    (htargets : ∀ t, p.Refers m.typeName t → t ∈ s.completed) :
    p.Inv { s with
      compiling := s.compiling.dropLast
      completed := s.completed ++ [m.typeName] } := by
  obtain ⟨hbase, hsub, hnodup, hchain⟩ := h.pop hstack
  have hdone : ∀ m' ∈ p.mappings, m'.typeName ∈ s.completed ++ [m.typeName] →
      m'.typeName ∈ s.completed ∨ m' = m := by
    intro m' hm' hin
    rcases List.mem_append.mp hin with hin | hin
    · exact Or.inl hin
    · exact Or.inr (mappings_ext hm hm' (List.mem_singleton.mp hin))
  rw [hbase]
  exact { h with
    nodup := hnodup
    chain := hchain
    mapped := by
      intro t ht
      rw [List.mem_append, List.mem_append, List.mem_singleton] at ht
      rcases ht with ht | ht | rfl
      · exact h.mapped t (List.mem_append_left _ (hsub t ht))
      · exact h.mapped t (List.mem_append_right _ ht)
      · exact maps_typeName hm
    opened := by
      intro t ht hin
      rcases List.mem_append.mp hin with hin | hin
      · exact h.opened t (hsub t ht) hin
      · exact h.not_mem_base hstack (List.mem_singleton.mp hin ▸ ht)
    closed := by
      intro t ht u hu
      refine List.mem_append_left _ ?_
      rcases List.mem_append.mp ht with ht | ht
      · exact h.closed t ht u hu
      · exact htargets u (List.mem_singleton.mp ht ▸ hu)
    compilable := by
      intro m' hm' hin
      rcases hdone m' hm' hin with hin | rfl
      · exact h.compilable m' hm' hin
      · exact hcompilable
    finished := by
      intro m' hm' hin
      rcases hdone m' hm' hin with hin | rfl
      · exact h.finished m' hm' hin
      · exact hfinished
    drafted := by
      intro m' hm' hnot
      refine (h.drafted m' hm' fun hin => hnot (List.mem_append_left _ hin)).imp_right ?_
      rintro ⟨d, keyType, w, hdata, hkey, hfits, hpart⟩
      exact ⟨d, keyType, w, hdata, hkey, hfits.mono fun t ht => List.mem_append_left _ ht, hpart⟩
    failed := by
      intro m' hm' hb
      rcases h.failed m' hm' hb with hin | hin | hfailed
      · exact Or.inl (List.mem_append_left _ hin)
      · rw [hstack, List.mem_append, List.mem_singleton] at hin
        rcases hin with hin | hname
        · exact Or.inr (Or.inl hin)
        · exact Or.inl (hname ▸ List.mem_append_right _ List.mem_cons_self)
      · exact Or.inr (Or.inr hfailed) }

end LookupEnums.Plan.Inv

namespace LookupEnums
open Compile

namespace Plan
variable {p : Plan} {m : TableMapping} {d : TableData} {base : List String} {s u : Session}
  {onDemand : String → Compile Unit}

/-- How the compilation of a table ends well, the type still on the stack. -/
structure Compiled (p : Plan) (m : TableMapping) (base : List String) (s u : Session) : Prop where
  inv : p.Inv u
  grown : s.Extends base u
  finished : p.Finished u.env m
  compilable : p.Compilable m
  targets : ∀ t, p.Refers m.typeName t → t ∈ u.completed

theorem ends_fill (hm : m ∈ p.mappings) (hw : m.WellFormed) (hdata : m.data = some d) (h : p.Inv u)
    (hstack : u.compiling = base ++ [m.typeName]) (hbegun : u.Begun m.typeName)
    (hserves : p.Serves onDemand (base ++ [m.typeName]))
    (hearlier : u.env.part m.typeName = .empty ∨ ¬ p.Compilable m) :
    Ends (fill onDemand m d) u (fun _ => p.Compiled m base u) (p.Fails m base u) := by
  unfold fill fillDeclared
  rw [ends_bind]
  refine Ends.mono (ends_declare hm hw hdata h hstack hbegun) ?_ fun _ _ hfails => hfails
  rintro - v ⟨keyType, T, hstorage, w, hcolumns, hfresh, hwork⟩
  simp only [TableData.requireStorage, T.key, ends_bind, ends_liftExcept_ok]
  refine Ends.mono (ends_addRows T hwork hcolumns (hearlier.imp_left hfresh)) ?_ fun _ _ hfails => hfails
  rintro - v ⟨hrows, w, hwork, hcolumns, hall, hcases⟩
  have hsettled : p.Settled m d keyType base u [] w v := ⟨hwork, hcolumns, hall, by simp, by simp, by simp⟩
  refine Ends.mono (ends_settles T hserves hstorage hsettled) ?_ fun _ _ hfails => hfails
  rintro - v ⟨w', hsettled, hsame⟩
  refine Ends.mono (ends_addAllCases T hrows hsettled (hsame ▸ hcases)) ?_ fun _ _ hfails => hfails
  rintro - v ⟨w, hfilled⟩
  have hsettled := hfilled.settled
  refine ⟨hsettled.working.inv, hsettled.working.grown, hfilled.finished T,
    hfilled.compilable T hstorage hrows, ?_⟩
  intro t ht
  obtain ⟨c, hc, rfl⟩ := ht.exists_column hm hdata hstorage
  exact hsettled.completed c hc ht.maps_right

def begin (s : Session) (m : TableMapping) : Session :=
  { s with
    compiling := s.compiling ++ [m.typeName]
    journal := s.journal ++ [.compiling m.table m.typeName] }

theorem ends_compileTable (hm : m ∈ p.mappings) (hw : m.WellFormed) (h : p.Inv s)
    (hnew : m.typeName ∉ s.compiling) (hopen : m.typeName ∉ s.completed)
    (hchain : (s.compiling ++ [m.typeName]).IsChain p.Refers)
    (hserves : p.Serves onDemand (s.compiling ++ [m.typeName])) :
    Ends (compileTable onDemand m) { s with compiling := s.compiling ++ [m.typeName] }
      (fun _ => p.Compiled m s.compiling (begin s m)) (p.Fails m s.compiling (begin s m)) := by
  have hpush : p.Inv (begin s m) := h.push hm hnew hopen hchain
  have hbegun : (begin s m).Begun m.typeName := ⟨m.table, List.mem_append_right _ List.mem_cons_self⟩
  have hearlier : s.env.part m.typeName = .empty ∨ ¬ p.Compilable m := by
    by_cases hb : s.Begun m.typeName
    · exact Or.inr (((h.failed m hm hb).resolve_left hopen).resolve_left hnew)
    · exact Or.inl (h.fresh m hm hb)
  unfold compileTable TableMapping.requireData
  simp only [ends_bind, ends_note]
  cases hdata : m.data with
  | none =>
    rw [ends_liftExcept_error]
    refine ⟨hpush, Session.Extends.refl _ _, ?_, trivial⟩
    rintro ⟨hsome, -, -⟩
    rw [hdata] at hsome
    cases hsome
  | some d =>
    rw [ends_liftExcept_ok]
    exact ends_fill hm hw hdata hpush rfl hbegun hserves hearlier

/-- Leaving the stack, with more types finished perhaps. -/
theorem extends_of_begin {kept : List String} (h : (begin s m).Extends kept u) {completed : List String}
    (hcompleted : u.completed <+: completed) :
    s.Extends kept { u with compiling := u.compiling.dropLast, completed } where
  compiling := by
    rw [h.compiling]
    exact List.dropLast_concat
  completed := h.completed.trans hcompleted
  journal := (List.prefix_append _ _).trans h.journal
  part := h.part
  stages := h.stages

/-- There are no more types than tables. -/
theorem length_le_mappings {types : List String} (hnodup : types.Nodup)
    (hmapped : ∀ t ∈ types, p.maps t = true) : types.length ≤ p.mappings.length := by
  have hsub : types ⊆ p.typeNames := fun t ht => maps_iff.mp (hmapped t ht)
  have hle := (List.subperm_of_subset hnodup hsub).length_le
  rwa [typeNames, List.length_map] at hle

theorem Inv.length_stack_le (h : p.Inv s) : s.compiling.length ≤ p.mappings.length :=
  length_le_mappings h.nodup fun t ht => h.mapped t (List.mem_append_left _ ht)

/-- Asking for a type compiles it and all types it refers to, as long as there is room. -/
theorem serves_requireWithin (hw : ∀ m ∈ p.mappings, m.WellFormed) (room : Nat) (stack : List String)
    (hroom : p.mappings.length < room + stack.length) : p.Serves (requireWithin p room) stack := by
  induction room generalizing stack with
  | zero =>
    rintro s name h rfl -
    have hle := h.length_stack_le
    omega
  | succ room ih =>
    rintro s name h rfl hchain
    unfold requireWithin
    cases hm : p.mapping? name with
    | none =>
      rw [ends_pure]
      exact ⟨h, Session.Extends.refl _ _, by simp [maps, hm]⟩
    | some m =>
      obtain ⟨hmem, rfl⟩ := mapping?_eq_some.mp hm
      have hchain := hchain (maps_typeName hmem)
      simp only [ends_bind, ends_get, List.contains_eq_mem, decide_eq_true_eq]
      refine ends_ite.mpr ⟨?_, fun hopen => ends_ite.mpr ⟨?_, fun hnew => ?_⟩⟩
      · intro hdone
        exact ends_pure.mpr ⟨h, Session.Extends.refl _ _, fun _ => hdone⟩
      · -- the type is on the stack: the rest of the stack from it on is a cycle
        intro hstack
        have hcycle := isCycle_cycleFrom hstack h.nodup
          (fun t ht => h.mapped t (List.mem_append_left _ ht)) hchain
        refine ends_throw.mpr ⟨m, rfl, h, Session.Extends.refl _ _, ?_, hcycle⟩
        exact fun hcompilable => hcompilable.not_cyclic hmem Relation.ReflTransGen.refl
          (transGen_of_isChain hstack hchain)
      · have hserves := ih (s.compiling ++ [m.typeName]) (by simp; omega)
        rw [ends_bind, ends_during]
        refine Ends.mono (ends_compileTable hmem (hw m hmem) h hnew hopen hchain hserves) ?_ ?_
        · rintro - u hcompiled
          rw [ends_complete]
          refine ⟨?_, extends_of_begin hcompiled.grown (List.prefix_append _ _), fun _ => by simp⟩
          exact hcompiled.inv.finish hmem hcompiled.grown.compiling hcompiled.compilable
            hcompiled.finished hcompiled.targets
        · rintro e u hfails
          refine ⟨m, rfl, ?_, extends_of_begin hfails.grown (List.prefix_refl _), hfails.not_compilable,
            hfails.justified⟩
          exact hfails.inv.abandon hmem hfails.grown.compiling hfails.not_compilable

structure Idle (p : Plan) (s : Session) : Prop where
  inv : p.Inv s
  stack : s.compiling = []

theorem Idle.start (p : Plan) : p.Idle {} := ⟨Inv.start p, rfl⟩

theorem Fails.idle {e : CompileError} (h : p.Fails m [] s e u) (hs : p.Idle s) : p.Idle u :=
  ⟨h.inv, h.grown.compiling.trans hs.stack⟩

theorem ends_require (hw : ∀ m ∈ p.mappings, m.WellFormed) (h : p.Idle s) (name : String) :
    Ends (require p name) s
      (fun _ u => p.Idle u ∧ s.Extends [] u ∧ (p.maps name = true → name ∈ u.completed))
      (fun e u => ∃ target, p.mapping? name = some target ∧ p.Fails target [] s e u) := by
  have hserves := serves_requireWithin hw (p.mappings.length + 1) [] (by simp)
  refine Ends.mono (hserves s name h.inv h.stack (by simp)) ?_ fun _ _ hfails => hfails
  rintro - u ⟨hinv, hgrown, hdone⟩
  exact ⟨⟨hinv, hgrown.compiling.trans h.stack⟩, hgrown, hdone⟩

theorem ends_compileAll (hw : ∀ m ∈ p.mappings, m.WellFormed) (h : p.Idle s) :
    Ends (compileAll p) s
      (fun _ u => p.Idle u ∧ s.Extends [] u ∧ ∀ t ∈ p.typeNames, t ∈ u.completed)
      (fun e u => ∃ target ∈ p.mappings, p.Fails target [] s e u) := by
  let inv : List String → Session → Prop := fun done u =>
    p.Idle u ∧ s.Extends [] u ∧ ∀ t ∈ done, t ∈ u.completed
  unfold compileAll
  rw [ends_bind]
  refine Ends.mono (ends_forM inv p.typeNames ⟨h, Session.Extends.refl _ _, by simp⟩ ?_) ?_
    fun _ _ hfails => hfails
  · rintro before name after u hsplit ⟨hidle, hgrown, hdone⟩
    have hmaps : p.maps name = true := maps_iff.mpr (by simp [hsplit])
    refine Ends.mono (ends_require hw hidle name) ?_ ?_
    · rintro - v ⟨hidle', hgrown', hname⟩
      refine ⟨hidle', hgrown.trans hgrown', ?_⟩
      intro t ht
      rcases List.mem_append.mp ht with ht | ht
      · exact hgrown'.completed.subset (hdone t ht)
      · exact List.mem_singleton.mp ht ▸ hname hmaps
    · rintro e v ⟨target, htarget, hfails⟩
      exact ⟨target, (mapping?_eq_some.mp htarget).1, hfails.inv, hgrown.trans hfails.grown,
        hfails.not_compilable, hfails.justified⟩
  · rintro - u ⟨hidle, hgrown, hdone⟩
    simp only [ends_bind, ends_get, ends_note]
    refine ⟨⟨hidle.inv.note (by simp), hidle.stack⟩, hgrown.trans ?_, hdone⟩
    exact ⟨rfl, List.prefix_refl _, List.prefix_append _ _, fun _ _ => rfl, StagesGrow.refl _⟩

def compiles (p : Plan) : Bool :=
  match p.compile with
  | .ok _ _ => true
  | .error _ _ => false

theorem compiles_iff : p.compiles = true ↔ ∃ s, p.compile = .ok () s := by
  unfold compiles
  cases p.compile <;> simp

theorem garage_compiles : garage.compiles = true := by decide +kernel

end Plan

end LookupEnums
