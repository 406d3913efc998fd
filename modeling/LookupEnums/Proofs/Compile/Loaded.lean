import LookupEnums.Generation
import LookupEnums.Proofs.Compile.Keeping
import LookupEnums.Proofs.Compile.Reordering
import LookupEnums.Proofs.Compile.Steady
import LookupEnums.Proofs.Loading

/-! # Tables that were loaded

A table that was loaded with the columns its mapping asks for has a storage type for each of them, and
each row a cell. So neither its declaration nor its filling fails for want of a column, and a
compilation of such tables never does.
-/
namespace LookupEnums
open Compile

structure TableData.Covers (d : TableData) (m : TableMapping) : Prop where
  key : d.storageType? m.key ≠ none
  columns : ∀ c ∈ m.columns, d.storageType? c.column ≠ none
  cells : ∀ row ∈ d.rows, ∀ c ∈ m.columns, row.cells.lookup c.column ≠ none

theorem Loading.covers_of_dataOf {m : TableMapping} {r : ResultSet} {d : TableData}
    (h : r.IsFor m.queryColumns) (hd : dataOf m r = .ok d) : d.Covers m := by
  obtain ⟨hcolumns, -⟩ := keeps_of_dataOf hd
  have hknown (n : String) (hn : n ∈ m.queryColumns) : d.storageType? n ≠ none := by
    rw [TableData.storageType?, hcolumns, ← Option.isSome_iff_ne_none, isSome_lookup_iff]
    exact (h.columns n).mpr hn
  refine ⟨hknown _ (TableMapping.mem_queryColumns.mpr (.inl rfl)), fun c hc => ?_, fun row hrow c hc => ?_⟩
  · exact hknown _ (TableMapping.mem_queryColumns.mpr (.inr (.inr ⟨c, hc, rfl⟩)))
  · obtain ⟨cells, -, hkeeps⟩ := exists_keeps hd hrow
    obtain ⟨hthere, hsame⟩ := hkeeps.mapped c hc
    rw [hsame]
    exact Option.isSome_iff_ne_none.mp hthere

namespace Compile
variable {α β : Type}

/-- A step that may fail, but not for want of a column. -/
def NeverMisses (x : Compile α) : Prop :=
  ∀ s : Session, Ends x s (fun _ _ => True) fun e _ => ¬ e.IsAboutColumns

theorem neverMissesFrame : Frame (fun _ _ => True) fun e _ _ => ¬ e.IsAboutColumns where
  refl _ := trivial
  trans _ _ := trivial
  late _ h := h

namespace NeverMisses

theorem of_steady {fail : CompileError → Prop} {x : Compile α} (h : Steady fail x)
    (hfail : ∀ e, fail e → ¬ e.IsAboutColumns) : NeverMisses x :=
  fun s => (h s).mono (fun _ _ _ => trivial) fun e _ hu => hfail e hu.2

theorem pure (a : α) : NeverMisses (Pure.pure a : Compile α) := neverMissesFrame.pure a

theorem throw {e : CompileError} (h : ¬ e.IsAboutColumns) :
    NeverMisses (MonadExcept.throw e : Compile α) :=
  Within.throw fun _ => h

theorem note (events : List CompileEvent) : NeverMisses (Compile.note events) :=
  fun _ => ends_note.mpr trivial

theorem bind {x : Compile β} {f : β → Compile α} (hx : NeverMisses x) (hf : ∀ b, NeverMisses (f b)) :
    NeverMisses (x >>= f) :=
  neverMissesFrame.bind hx hf

theorem ite {c : Prop} [Decidable c] {x y : Compile α} (hx : NeverMisses x) (hy : NeverMisses y) :
    NeverMisses (if c then x else y) :=
  Within.ite hx hy

theorem forM {γ : Type} {f : γ → Compile Unit} {items : List γ} (h : ∀ a ∈ items, NeverMisses (f a)) :
    NeverMisses (items.forM f) :=
  neverMissesFrame.forM h

theorem during {t : String} {x : Compile Unit} (hx : NeverMisses x) : NeverMisses (Compile.during t x) :=
  fun s => ends_during.mpr (hx { s with compiling := s.compiling ++ [t] })

end NeverMisses

section table
variable {m : TableMapping} {d : TableData} {onDemand : String → Compile Unit}

theorem neverMisses_declare (h : d.Covers m) : NeverMisses (declare m d) := by
  rw [declare_eq]
  refine (NeverMisses.of_steady (steady_defineKeyed m d) fun e he hcolumns => ?_).bind fun keyType => ?_
  · exact h.key (he hcolumns)
  · refine .forM fun c hc => .of_steady (steady_declareColumn keyType c) fun e he hcolumns => ?_
    exact h.columns c hc (he hcolumns)

theorem neverMisses_settle (hdemand : ∀ name, NeverMisses (onDemand name)) (id : AccessorId) :
    NeverMisses (settle onDemand id) := by
  unfold settle
  refine (NeverMisses.of_steady .env fun _ => False.elim).bind fun env => ?_
  cases env.accessor? id with
  | none => exact .pure _
  | some a =>
    have hsettled := NeverMisses.of_steady (steady_settleDemanded id a.returns) fun _ => False.elim
    exact (hdemand a.returns.name).bind fun _ => hsettled

theorem neverMisses_fillDeclared (h : d.Covers m) (hdemand : ∀ name, NeverMisses (onDemand name)) :
    NeverMisses (fillDeclared onDemand m d) := by
  unfold fillDeclared
  refine (NeverMisses.of_steady (steady_requireStorage d m.key) fun e he hcolumns => ?_).bind
    fun keyType => ?_
  · exact h.key (he hcolumns)
  · have hrows : NeverMisses (d.rows.forM (addRow m keyType.name)) :=
      .forM fun row _ => .of_steady (steady_addRow m keyType.name row) fun _ he => he
    have hsettles : NeverMisses (m.columns.forM fun c => settle onDemand (m.accessorId c)) :=
      .forM fun c _ => neverMisses_settle hdemand _
    have hcases : NeverMisses (d.rows.forM (addCases m keyType.name)) := by
      refine .forM fun row hrow => .forM fun c hc => ?_
      exact .of_steady (steady_addCase _ row c) fun e he hcolumns => h.cells row hrow c hc (he hcolumns)
    exact hrows.bind fun _ => hsettles.bind fun _ => hcases

theorem neverMisses_fill (h : d.Covers m) (hdemand : ∀ name, NeverMisses (onDemand name)) :
    NeverMisses (fill onDemand m d) :=
  (neverMisses_declare h).bind fun _ => neverMisses_fillDeclared h hdemand

end table

/-- Whatever is compiled on demand is a table of the plan, and so does not miss a column either. -/
theorem neverMisses_requireWithin {p : Plan}
    (h : ∀ m ∈ p.mappings, ∀ d, m.data = some d → d.Covers m) (room : Nat) (name : String) :
    NeverMisses (requireWithin p room name) := by
  induction room generalizing name with
  | zero => exact .pure _
  | succ room ih =>
    unfold requireWithin
    cases hm : p.mapping? name with
    | none => exact .pure _
    | some m =>
      have htable : NeverMisses (compileTable (requireWithin p room) m) := by
        unfold compileTable TableMapping.requireData
        refine (NeverMisses.note _).bind fun _ => ?_
        cases hdata : m.data with
        | none => exact .throw not_false
        | some d =>
          exact neverMisses_fill (h m (Plan.mapping?_eq_some.mp hm).1 d hdata) ih
      refine (NeverMisses.of_steady .get fun _ => False.elim).bind fun s => ?_
      refine .ite (.pure _) (.ite (.throw not_false) ?_)
      exact htable.during.bind fun _ => fun _ => ends_complete.mpr trivial

end Compile

namespace Plan
variable {p : Plan}

/-- No call of a plan fails for want of a column, if all its tables that are loaded have all that is
asked for. -/
theorem neverMisses_call (h : ∀ m ∈ p.mappings, ∀ d, m.data = some d → d.Covers m) (call : Call) :
    NeverMisses (call.run p) := by
  cases call with
  | require name => exact neverMisses_requireWithin h _ name
  | compileAll =>
    unfold Call.run compileAll
    refine (NeverMisses.forM fun name _ => neverMisses_requireWithin h _ name).bind fun _ => ?_
    exact .of_steady steady_conclude fun _ => False.elim

end Plan

namespace TypeEnv

theorem isSome_accessor?_iff {env : TypeEnv} {id : AccessorId} :
    (env.accessor? id).isSome ↔ id ∈ env.accessors.map (·.id) := by
  rw [accessor?, List.find?_isSome, List.mem_map]
  exact exists_congr fun a => and_congr_right fun _ => decide_eq_true_iff

theorem mem_declare {env : TypeEnv} {a : Accessor} {id : AccessorId} :
    id ∈ (env.declare a).accessors.map (·.id) ↔ id ∈ env.accessors.map (·.id) ∨ id = a.id := by
  cases ha : env.accessor? a.id with
  | some b =>
    rw [env.declare_of_known ha, or_iff_left_of_imp]
    rintro rfl
    exact isSome_accessor?_iff.mp (by rw [ha]; rfl)
  | none =>
    rw [env.declare_of_new ha]
    change id ∈ (env.accessors ++ [a]).map (·.id) ↔ _
    rw [List.map_append, List.mem_append, List.map_singleton, List.mem_singleton]

end TypeEnv

def TableMapping.DeclaredIn (m : TableMapping) (env : TypeEnv) : Prop :=
  ∀ c ∈ m.columns, (env.accessor? (m.accessorId c)).isSome

namespace Plan
variable {p : Plan} {env env' : TypeEnv}

theorem Step.mem_accessors (h : p.Step env env') {id : AccessorId}
    (hid : id ∈ env.accessors.map (·.id)) : id ∈ env'.accessors.map (·.id) := by
  cases h with
  | define _ => rwa [TypeEnv.accessors_define]
  | setKeyType _ _ => exact hid
  | reference name => rwa [TypeEnv.accessors_reference]
  | declare _ _ _ _ _ _ => exact TypeEnv.mem_declare.mpr (.inl hid)
  | addMember added =>
    rcases TypeEnv.addMember_eq_ok added with rfl | ⟨_, -, -, rfl⟩
    · exact hid
    · exact hid
  | settleReturn settled =>
    unfold TypeEnv.settleReturn
    split
    next => exact hid
    next =>
      rw [TypeEnv.map_id_updateAccessor, TypeEnv.accessors_ground]
      · exact hid
      · exact fun _ hsame => hsame
  | setCase _ _ _ =>
    unfold TypeEnv.setCase
    rw [TypeEnv.map_id_updateAccessor]
    · exact hid
    · exact fun _ hsame => hsame

/-- No change takes an accessor away. -/
theorem closed_declaredIn (p : Plan) (m : TableMapping) :
    p.Closed fun env => Backed env ∧ m.DeclaredIn env := by
  intro env env' hstep h
  refine ⟨hstep.backed h.1, fun c hc => ?_⟩
  have hthere := TypeEnv.isSome_accessor?_iff.mp (h.2 c hc)
  exact TypeEnv.isSome_accessor?_iff.mpr (hstep.mem_accessors hthere)

end Plan

/-- A column that is declared adds its accessor to those that are there. -/
theorem Compile.ends_declareColumn_there {m : TableMapping} {d : TableData} (keyType : StorageType)
    (c : ColumnMapping) {ids : List AccessorId} {s : Session}
    (h : ∀ id ∈ ids, id ∈ s.env.accessors.map (·.id)) :
    Ends (declareColumn m d keyType c) s
      (fun _ u => ∀ id ∈ ids ++ [m.accessorId c], id ∈ u.env.accessors.map (·.id))
      fun _ _ => True := by
  unfold declareColumn
  rw [ends_bind]
  cases d.requireStorage c.column with
  | error e => exact ends_liftExcept_error.mpr trivial
  | ok storage =>
    rw [ends_liftExcept_ok]
    refine ends_ite.mpr ⟨fun _ => ?_, fun _ => ?_⟩
    · rw [ends_bind]
      exact ends_throw.mpr trivial
    · simp only [ends_bind, ends_modifyEnv]
      intro id hid
      rw [TypeEnv.mem_declare, TypeEnv.accessors_reference]
      rcases List.mem_append.mp hid with hid | hid
      · exact .inl (h id hid)
      · exact .inr (List.mem_singleton.mp hid)

theorem Compile.ends_declare_there (m : TableMapping) (d : TableData) (s : Session) :
    Ends (declare m d) s (fun _ u => m.DeclaredIn u.env) fun _ _ => True := by
  rw [declare_eq, ends_bind]
  refine (steady_defineKeyed m d s).mono (fun keyType u _ => ?_) fun _ _ _ => trivial
  have hall : Ends (m.columns.forM (declareColumn m d keyType)) u
      (fun _ v => ∀ id ∈ m.columns.map m.accessorId, id ∈ v.env.accessors.map (·.id))
      fun _ _ => True := by
    refine ends_forM (fun before v => ∀ id ∈ before.map m.accessorId, id ∈ v.env.accessors.map (·.id))
      m.columns (by simp) fun before c after v _ hbefore => ?_
    have hone := ends_declareColumn_there (m := m) (d := d) keyType c hbefore
    refine hone.mono (fun _ w hw => ?_) fun _ _ _ => trivial
    rw [List.map_append]
    exact hw
  refine hall.mono (fun _ v hv c hc => ?_) fun _ _ _ => trivial
  exact TypeEnv.isSome_accessor?_iff.mpr (hv _ (List.mem_map_of_mem hc))

namespace Loading

/-- The columns that are asked for are the key, the label and the mapped ones, each once. With a result
that has exactly these, loading ends with one row for each row of the result, in their order, each with
its own key, label and mapped cells. Declaring the table then gives each mapped column its accessor,
filling it keeps them, and neither fails for want of a column. -/
theorem loaded_table_misses_nothing {m : TableMapping} {r : ResultSet} (h : r.IsFor m.queryColumns) :
    (m.queryColumns.Nodup ∧
      ∀ n, n ∈ m.queryColumns ↔ n = m.key ∨ n = m.label ∨ ∃ c ∈ m.columns, c.column = n) ∧
    ∃ d, dataOf m r = .ok d ∧ d.columns = r.columns ∧ List.Forall₂ (Keeps m) r.rows d.rows ∧
      (∀ row ∈ d.rows, row.cells.map (·.1) = m.columns.map (·.column)) ∧
      (∀ a w, ending (a.fetch m.table m.queryColumns) w = .ok r →
        ending (load a m) w = .ok (m.withData d)) ∧
      NeverMisses (declare m d) ∧
      (∀ s, Ends (declare m d) s (fun _ u => m.DeclaredIn u.env) fun _ _ => True) ∧
      (∀ onDemand, (∀ name, NeverMisses (onDemand name)) →
        NeverMisses (fillDeclared onDemand m d) ∧ NeverMisses (fill onDemand m d)) ∧
      ∀ p room, Compile.Keeps (fun env => Plan.Backed env ∧ m.DeclaredIn env)
        (fillDeclared (requireWithin p room) m d) := by
  refine ⟨⟨m.nodup_queryColumns, fun n => TableMapping.mem_queryColumns⟩, ?_⟩
  obtain ⟨d, hd⟩ := exists_dataOf h
  obtain ⟨hcolumns, hrows⟩ := keeps_of_dataOf hd
  have hcovers := covers_of_dataOf h hd
  refine ⟨d, hd, hcolumns, hrows, map_cells_of_dataOf hd, fun a w hfetch => ?_,
    neverMisses_declare hcovers, ends_declare_there m d, fun onDemand hdemand => ?_, fun p room => ?_⟩
  · rw [ending_load hfetch, hd]
    rfl
  · exact ⟨neverMisses_fillDeclared hcovers hdemand, neverMisses_fill hcovers hdemand⟩
  · have hclosed := p.closed_declaredIn m
    exact Plan.keeps_fillDeclared hclosed (Plan.keeps_requireWithin hclosed (fun _ hkept => hkept.1) room)

/-- The key is the label, and both the key and another column are mapped. -/
def overlapping : TableMapping where
  table := "Country"
  typeName := "Country"
  key := "Id"
  label := "Id"
  columns := [⟨"Country", "Name", "Name", none, none⟩, ⟨"Country", "Id", "Id", none, none⟩]
  attributes := []

def countries : ResultSet where
  table := "Country"
  columns := [("Id", ⟨"int", false⟩), ("Name", ⟨"string", true⟩)]
  rows := [[("Id", .int 1), ("Name", .text "Canada")], [("Id", .int 2), ("Name", .null)]]

theorem loaded_table_misses_nothing_overlapping :
    countries.IsFor overlapping.queryColumns ∧ overlapping.queryColumns = ["Id", "Name"] ∧
      ∃ d, dataOf overlapping countries = .ok d ∧ d.rows.length = 2 ∧
        NeverMisses (fill (fun _ => pure ()) overlapping d) := by
  have hquery : overlapping.queryColumns = ["Id", "Name"] := by decide
  have hfor : countries.IsFor overlapping.queryColumns := by
    rw [hquery]
    have hrows : ∀ cells ∈ countries.rows, cells.map (·.1) = ["Id", "Name"] := by decide
    exact ⟨fun n => Iff.rfl, fun cells hcells n => by rw [hrows cells hcells]⟩
  obtain ⟨-, d, hd, -, hrows, -, -, -, -, hfill, -⟩ := loaded_table_misses_nothing hfor
  exact ⟨hfor, hquery, d, hd, hrows.length_eq.symm, (hfill _ fun _ => .pure ()).2⟩

theorem covers_of_loadAll {c : AdapterConfig} {ms loaded : List TableMapping} {w : World}
    (h : ending (loadAll c ms) w = .ok loaded) :
    ∀ m ∈ loaded, ∀ d, m.data = some d → d.Covers m := by
  intro m hm d hdata
  obtain ⟨asked, r, d', ⟨a, v, hfetch⟩, hd, rfl⟩ := of_loadAll h hm
  obtain rfl := Option.some.inj hdata
  have hcovers := covers_of_dataOf (Adapter.isFor_fetch hfetch) hd
  exact ⟨hcovers.key, hcovers.columns, hcovers.cells⟩

end Loading

namespace Generation

theorem ending_notes (events : List CompileEvent) (w : World) :
    ending (events.forM fun e => Run.note e.record) w = .ok () := by
  induction events generalizing w with
  | nil => rfl
  | cons e rest ih => exact ih (leaving (Run.note e.record) w)

/-- The error of a compilation is that of its plan; its events are logged before it. -/
theorem of_compilePlan_error {plan : Plan} {w : World} {e : CompileError}
    (h : ending (compilePlan plan) w = .error (.compile e)) : ∃ s, plan.compile = .error e s := by
  unfold compilePlan at h
  split at h
  next s _ =>
    rw [(bind_ok (ending_notes s.journal w)).1] at h
    cases h
  next e' s hplan =>
    rw [(bind_ok (ending_notes s.journal w)).1] at h
    cases h
    exact ⟨s, hplan⟩

/-- Once the tables are loaded, no compilation of them fails for want of a column. -/
theorem compile_misses_nothing {s : Settings} {p : Path} {explicit : Option String} {w : World}
    {ms : List TableMapping} {e : CompileError} (hloaded : ending (loadAll s p explicit) w = .ok ms)
    (h : ending (compile s p explicit) w = .error (.compile e)) : ¬ e.IsAboutColumns := by
  have hcovers : ∀ m ∈ ms, ∀ d, m.data = some d → d.Covers m := by
    obtain ⟨⟨document, c⟩, -, hall⟩ := of_bind_ok hloaded
    exact Loading.covers_of_loadAll hall
  unfold compile at h
  rw [(bind_ok hloaded).1, Run.ending_lift_bind] at h
  cases hplan : Plan.ofMappings ms with
  | error e' =>
    rw [hplan] at h
    cases h
    unfold Plan.ofMappings at hplan
    split at hplan
    next =>
      cases hplan
      exact not_false
    next => cases hplan
  | ok plan =>
    rw [hplan] at h
    obtain ⟨u, hcompile⟩ := of_compilePlan_error h
    rw [← Plan.ofMappings_eq_ok.mp hplan] at hcovers
    exact (Plan.neverMisses_call hcovers .compileAll {}).of_error hcompile

end Generation

end LookupEnums
