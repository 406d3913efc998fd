import LookupEnums.Proofs.Compile.Steady
import Mathlib.Logic.Function.Iterate

/-! # A compilation one step after the other

The same compilation with its control laid open. What is to be done is a list of jobs, and a step does
the first of them, which may put others in its place. An error gives up all that is left, but types
that were to leave the stack still leave it. Nothing bounds here how deep the requests are nested. Each
call comes to its end in finitely many steps nevertheless, and to the end of the bounded recursion.
-/
namespace LookupEnums.Compile

inductive Job
  | require (name : String)
  | load (m : TableMapping)
  | declare (m : TableMapping) (d : TableData)
  | declareColumn (m : TableMapping) (d : TableData) (keyType : StorageType) (c : ColumnMapping)
  | fill (m : TableMapping) (d : TableData)
  | addRow (m : TableMapping) (keyType : String) (row : Row)
  /-- Asks for what an accessor returns. -/
  | demand (id : AccessorId)
  | settle (id : AccessorId) (returns : TypeNode)
  | addCase (m : TableMapping) (keyType : String) (row : Row) (c : ColumnMapping)
  | leave (name : String)
  | complete (name : String)
  | conclude

namespace Job

/-- To settle an accessor is to ask for what it returns first; without an accessor there is nothing
to do. -/
def demanding (id : AccessorId) : Option Accessor → List Job
  | some a => [require a.returns.name, settle id a.returns]
  | none => []

def filling (m : TableMapping) (d : TableData) (keyType : String) : List Job :=
  d.rows.map (addRow m keyType) ++
    (m.columns.map (fun c => demand (m.accessorId c)) ++
      d.rows.flatMap fun row => m.columns.map (addCase m keyType row))

/-- Does a job as far as it goes at once, and gives what is to be done in its place. -/
def step (p : Plan) : Job → Compile (List Job)
  | require name =>
    match p.mapping? name with
    | none => pure []
    | some m => do
      let s ← get
      if s.completed.contains name then pure []
      else if s.compiling.contains name then throw (.cycle (cycleFrom name s.compiling))
      else
        enter name
        note [.compiling m.table m.typeName]
        pure [load m, leave name]
  | load m => do
    let d ← liftExcept m.requireData
    pure [declare m d, fill m d]
  | declare m d => do
    let keyType ← defineKeyed m d
    pure (m.columns.map (declareColumn m d keyType))
  | declareColumn m d keyType c => do
    Compile.declareColumn m d keyType c
    pure []
  | fill m d => do
    let keyType ← liftExcept (d.requireStorage m.key)
    pure (filling m d keyType.name)
  | addRow m keyType row => do
    Compile.addRow m keyType row
    pure []
  | demand id => do
    let env ← env
    pure (demanding id (env.accessor? id))
  | settle id returns => do
    settleDemanded id returns
    pure []
  | addCase m keyType row c => do
    Compile.addCase m (memberOf keyType row).name row c
    pure []
  | leave name => do
    Compile.leave
    pure [complete name]
  | complete name => do
    Compile.complete name
    pure []
  | conclude => do
    let s ← get
    note [.compiled s.completed.length]
    pure []

def giveUp : Job → Session → Session
  | leave _, s => { s with compiling := s.compiling.dropLast }
  | _, s => s

def closes : Job → Bool
  | leave _ | complete _ => true
  | _ => false

theorem giveUp_of_not_closes {j : Job} (h : j.closes = false) (s : Session) : j.giveUp s = s := by
  cases j with
  | leave name => cases h
  | _ => rfl

end Job

def Plain (jobs : List Job) : Prop :=
  ∀ j ∈ jobs, j.closes = false

namespace Plain
variable {γ : Type} {jobs more : List Job}

theorem append (h : Plain jobs) (h' : Plain more) : Plain (jobs ++ more) :=
  List.forall_mem_append.mpr ⟨h, h'⟩

theorem map {job : γ → Job} (h : ∀ a, (job a).closes = false) (items : List γ) :
    Plain (items.map job) := by
  intro j hj
  obtain ⟨a, -, rfl⟩ := List.mem_map.mp hj
  exact h a

theorem flatMap {jobs : γ → List Job} (h : ∀ a, Plain (jobs a)) (items : List γ) :
    Plain (items.flatMap jobs) := by
  intro j hj
  obtain ⟨a, -, hj⟩ := List.mem_flatMap.mp hj
  exact h a j hj

theorem demanding (id : AccessorId) (a : Option Accessor) : Plain (Job.demanding id a) := by
  cases a <;> simp [Plain, Job.demanding, Job.closes]

theorem cases (m : TableMapping) (rows : List Row) (keyType : String) :
    Plain (rows.flatMap fun row => m.columns.map (.addCase m keyType row)) :=
  .flatMap (fun _ => .map (fun _ => rfl) _) _

theorem filling (m : TableMapping) (d : TableData) (keyType : String) :
    Plain (Job.filling m d keyType) :=
  (map (fun _ => rfl) _).append ((map (fun _ => rfl) _).append (.cases m d.rows keyType))

end Plain

/-- A compilation at some moment: under way, or on its way out with an error. -/
inductive Execution
  | going (s : Session) (jobs : List Job)
  | failing (e : CompileError) (s : Session) (jobs : List Job)

namespace Execution

def session : Execution → Session
  | going s _ | failing _ s _ => s

def jobs : Execution → List Job
  | going _ jobs | failing _ _ jobs => jobs

def step (p : Plan) : Execution → Execution
  | going s (j :: jobs) =>
    match j.step p s with
    | .ok more u => going u (more ++ jobs)
    | .error e u => failing e u jobs
  | failing e s (j :: jobs) => failing e (j.giveUp s) jobs
  | x => x

def ended : EStateM.Result CompileError Session Unit → Execution
  | .ok _ s => going s []
  | .error e s => failing e s []

/-- Some number of steps leads from one moment to another. -/
def Leads (p : Plan) (x y : Execution) : Prop :=
  ∃ n, (step p)^[n] x = y

namespace Leads
variable {p : Plan} {x y z : Execution}

theorem refl (x : Execution) : Leads p x x := ⟨0, rfl⟩

theorem of_step (h : Leads p (step p x) y) : Leads p x y := by
  obtain ⟨n, hn⟩ := h
  exact ⟨n + 1, hn⟩

theorem trans (h : Leads p x y) (h' : Leads p y z) : Leads p x z := by
  obtain ⟨n, rfl⟩ := h
  obtain ⟨k, rfl⟩ := h'
  exact ⟨k + n, Function.iterate_add_apply _ k n x⟩

/-- Jobs that no type leaves with are given up without a trace. -/
theorem giveUp {jobs : List Job} (h : Plain jobs) (e : CompileError) (s : Session)
    (rest : List Job) : Leads p (failing e s (jobs ++ rest)) (failing e s rest) := by
  induction jobs with
  | nil => exact refl _
  | cons j jobs ih =>
    have hstep : step p (failing e s (j :: (jobs ++ rest))) = failing e s (jobs ++ rest) := by
      rw [step, Job.giveUp_of_not_closes (h j List.mem_cons_self)]
    refine of_step ?_
    rw [List.cons_append, hstep]
    exact ih fun k hk => h k (List.mem_cons_of_mem _ hk)

end Leads

end Execution

section programs
open Execution
variable {α : Type} {p : Plan} {stack : List String} {jobs more : List Job} {j : Job} {x y : Compile Unit}

/-- Under a stack the jobs lead where the program does, whatever comes after them. -/
def CarryOut (p : Plan) (stack : List String) (jobs : List Job) (x : Compile Unit) : Prop :=
  ∀ s rest, s.compiling = stack → Ends x s
    (fun _ u => u.compiling = stack ∧ Leads p (going s (jobs ++ rest)) (going u rest))
    (fun e u => u.compiling = stack ∧ Leads p (going s (jobs ++ rest)) (failing e u rest))

namespace CarryOut

theorem nil : CarryOut p stack [] (pure ()) :=
  fun _ _ hs => ends_pure.mpr ⟨hs, .refl _⟩

theorem append (hx : CarryOut p stack jobs x) (hy : CarryOut p stack more y)
    (hmore : Plain more) : CarryOut p stack (jobs ++ more) (x >>= fun _ => y) := by
  intro s rest hs
  rw [ends_bind, List.append_assoc]
  refine (hx s (more ++ rest) hs).mono ?_ ?_
  · rintro - u ⟨hu, hlead⟩
    exact (hy u rest hu).mono (fun _ _ hv => ⟨hv.1, hlead.trans hv.2⟩)
      fun _ _ hv => ⟨hv.1, hlead.trans hv.2⟩
  · rintro e u ⟨hu, hlead⟩
    exact ⟨hu, hlead.trans (.giveUp hmore e u rest)⟩

theorem flatMap {γ : Type} {f : γ → Compile Unit} {jobs : γ → List Job} {items : List γ}
    (h : ∀ a ∈ items, CarryOut p stack (jobs a) (f a)) (hjobs : ∀ a, Plain (jobs a)) :
    CarryOut p stack (items.flatMap jobs) (items.forM f) := by
  induction items with
  | nil => exact nil
  | cons a rest ih =>
    have hrest := ih fun b hb => h b (List.mem_cons_of_mem _ hb)
    exact (h a List.mem_cons_self).append hrest (.flatMap hjobs rest)

theorem map {γ : Type} {f : γ → Compile Unit} {job : γ → Job} {items : List γ}
    (h : ∀ a ∈ items, CarryOut p stack [job a] (f a)) (hjob : ∀ a, (job a).closes = false) :
    CarryOut p stack (items.map job) (items.forM f) := by
  rw [List.map_eq_flatMap]
  exact flatMap h fun a j hj => List.mem_singleton.mp hj ▸ hjob a

/-- A job that does the first part of a program and puts jobs in its place that do the rest. -/
theorem expand {first : Compile α} {last : α → Compile Unit} {next : α → List Job}
    {fail : CompileError → Prop} (hstep : j.step p = first >>= fun a => pure (next a))
    (hfirst : Steady fail first) (hlast : ∀ a, CarryOut p stack (next a) (last a)) :
    CarryOut p stack [j] (first >>= last) := by
  intro s rest hs
  have hone : Ends first s
      (fun a u => u.compiling = stack ∧ step p (going s (j :: rest)) = going u (next a ++ rest))
      (fun e u => u.compiling = stack ∧ step p (going s (j :: rest)) = failing e u rest) := by
    have hsame := hfirst s
    unfold Ends at hsame ⊢
    simp only [step, hstep, bind, EStateM.bind]
    cases hrun : first s with
    | ok a u =>
      rw [hrun] at hsame
      exact ⟨hsame.compiling.trans hs, rfl⟩
    | error e u =>
      rw [hrun] at hsame
      exact ⟨hsame.1.compiling.trans hs, rfl⟩
  rw [ends_bind]
  refine hone.mono ?_ ?_
  · rintro a u ⟨hu, hnext⟩
    have hmore (z : Execution) (h : Leads p (going u (next a ++ rest)) z) :
        Leads p (going s (j :: rest)) z := .of_step (hnext ▸ h)
    exact (hlast a u rest hu).mono (fun _ _ hv => ⟨hv.1, hmore _ hv.2⟩)
      fun _ _ hv => ⟨hv.1, hmore _ hv.2⟩
  · rintro e u ⟨hu, hnext⟩
    exact ⟨hu, .of_step (hnext ▸ .refl _)⟩

/-- A job that does a whole program at once. -/
theorem atOnce {fail : CompileError → Prop} (hstep : j.step p = x >>= fun _ => pure [])
    (hx : Steady fail x) : CarryOut p stack [j] x := by
  have hall : CarryOut p stack [j] (x >>= fun _ => pure ()) := expand hstep hx fun _ => nil
  rwa [bind_pure_unit] at hall

end CarryOut

end programs

section table
variable {p : Plan} {stack : List String} {onDemand : String → Compile Unit}

theorem carryOut_declare (m : TableMapping) (d : TableData) :
    CarryOut p stack [.declare m d] (declare m d) := by
  have hcolumns (keyType : StorageType) : CarryOut p stack
      (m.columns.map (.declareColumn m d keyType)) (m.columns.forM (declareColumn m d keyType)) :=
    .map (fun c _ => .atOnce rfl (steady_declareColumn keyType c)) fun _ => rfl
  rw [declare_eq]
  exact .expand rfl (steady_defineKeyed m d) hcolumns

theorem carryOut_settle (hdemand : ∀ name, CarryOut p stack [.require name] (onDemand name))
    (id : AccessorId) : CarryOut p stack [.demand id] (settle onDemand id) := by
  have henv : Steady (fun _ => False) env := .env
  refine .expand rfl henv fun env => ?_
  cases env.accessor? id with
  | none => exact .nil
  | some a =>
    have hsettle : CarryOut p stack [.settle id a.returns] (settleDemanded id a.returns) :=
      .atOnce rfl (steady_settleDemanded id a.returns)
    exact (hdemand a.returns.name).append hsettle (by simp [Plain, Job.closes])

theorem carryOut_fillDeclared (hdemand : ∀ name, CarryOut p stack [.require name] (onDemand name))
    (m : TableMapping) (d : TableData) :
    CarryOut p stack [.fill m d] (fillDeclared onDemand m d) := by
  refine CarryOut.expand rfl (steady_requireStorage d m.key) fun keyType => ?_
  have hrows : CarryOut p stack (d.rows.map (.addRow m keyType.name))
      (d.rows.forM (addRow m keyType.name)) :=
    .map (fun row _ => .atOnce rfl (steady_addRow m keyType.name row)) fun _ => rfl
  have hreturns : CarryOut p stack (m.columns.map fun c => .demand (m.accessorId c))
      (m.columns.forM fun c => settle onDemand (m.accessorId c)) :=
    .map (fun c _ => carryOut_settle hdemand _) fun _ => rfl
  have hcases : CarryOut p stack (d.rows.flatMap fun row => m.columns.map (.addCase m keyType.name row))
      (d.rows.forM (addCases m keyType.name)) := by
    refine .flatMap (fun row _ => ?_) fun _ => .map (fun _ => rfl) _
    exact .map (fun c _ => .atOnce rfl (steady_addCase _ row c)) fun _ => rfl
  have hplain := Plain.cases m d.rows keyType.name
  exact hrows.append (hreturns.append hcases hplain) ((Plain.map (fun _ => rfl) _).append hplain)

theorem carryOut_fill (hdemand : ∀ name, CarryOut p stack [.require name] (onDemand name))
    (m : TableMapping) :
    CarryOut p stack [.load m] (liftExcept m.requireData >>= fill onDemand m) := by
  refine CarryOut.expand rfl (steady_requireData m) fun d => ?_
  exact (carryOut_declare m d).append (carryOut_fillDeclared hdemand m d)
    (by simp [Plain, Job.closes])

end table

section calls
open Execution
variable {p : Plan} {s : Session} {rest : List Job}

/-- What becomes of a request: there is nothing to do, a cycle is closed, or a type is begun. -/
theorem step_require (p : Plan) (s : Session) (name : String) :
    (Job.require name).step p s =
      match p.mapping? name with
      | none => .ok [] s
      | some m =>
        if name ∈ s.completed then .ok [] s
        else if name ∈ s.compiling then .error (.cycle (cycleFrom name s.compiling)) s
        else .ok [.load m, .leave name] { s with
          compiling := s.compiling ++ [name]
          journal := s.journal ++ [.compiling m.table m.typeName] } := by
  simp only [Job.step]
  cases p.mapping? name with
  | none => rfl
  | some m =>
    change (if s.completed.contains name then _ else if s.compiling.contains name then _ else _ :
      Compile (List Job)) s = _
    simp only [List.contains_eq_mem, decide_eq_true_eq]
    split
    · rfl
    split
    · rfl
    · rfl

/-- A request is carried out as the recursion does it, as long as that has room. -/
theorem carryOut_requireWithin {room : Nat} {stack : List String}
    (hroom : p.mappings.length < room + stack.length) (hnodup : stack.Nodup)
    (hmapped : ∀ t ∈ stack, p.maps t = true) (name : String) :
    CarryOut p stack [.require name] (requireWithin p room name) := by
  induction room generalizing stack name with
  | zero =>
    have hle := Plan.length_le_mappings hnodup hmapped
    omega
  | succ room ih =>
    rintro s rest rfl
    have hstep : Execution.step p (going s (.require name :: rest)) =
        match (Job.require name).step p s with
        | .ok more u => going u (more ++ rest)
        | .error e u => failing e u rest := rfl
    rw [step_require] at hstep
    unfold requireWithin
    cases hm : p.mapping? name with
    | none =>
      simp only [hm] at hstep
      exact ends_pure.mpr ⟨rfl, .of_step (hstep ▸ .refl _)⟩
    | some m =>
      obtain ⟨hmem, rfl⟩ := Plan.mapping?_eq_some.mp hm
      simp only [hm] at hstep
      simp only [ends_bind, ends_get, List.contains_eq_mem, decide_eq_true_eq]
      refine ends_ite.mpr ⟨fun hdone => ?_, fun hopen => ends_ite.mpr ⟨fun hstack => ?_, fun hnew => ?_⟩⟩
      · rw [if_pos hdone] at hstep
        exact ends_pure.mpr ⟨rfl, .of_step (hstep ▸ .refl _)⟩
      · rw [if_neg hopen, if_pos hstack] at hstep
        exact ends_throw.mpr ⟨rfl, .of_step (hstep ▸ .refl _)⟩
      · rw [if_neg hopen, if_neg hnew] at hstep
        have hnodup : (s.compiling ++ [m.typeName]).Nodup :=
          List.concat_eq_append ▸ hnodup.concat hnew
        have hmapped : ∀ t ∈ s.compiling ++ [m.typeName], p.maps t = true := by
          simpa [or_imp, forall_and] using ⟨hmapped, Plan.maps_typeName hmem⟩
        have htable := carryOut_fill (ih (by simp; omega) hnodup hmapped) m
        have hbegin := htable (Plan.begin s m) (.leave m.typeName :: rest) rfl
        have hlead (z : Execution) (h : Leads p (going (Plan.begin s m)
            (.load m :: .leave m.typeName :: rest)) z) :
            Leads p (going s (.require m.typeName :: rest)) z := .of_step (hstep ▸ h)
        unfold compileTable
        rw [ends_bind, ends_during, ends_bind, ends_note]
        refine hbegin.mono ?_ ?_
        · rintro - u ⟨hu, h⟩
          have hpop : u.compiling.dropLast = s.compiling := by rw [hu, List.dropLast_concat]
          exact ends_complete.mpr ⟨hpop, hlead _ (h.trans (.of_step (.of_step (.refl _))))⟩
        · rintro e u ⟨hu, h⟩
          have hpop : u.compiling.dropLast = s.compiling := by rw [hu, List.dropLast_concat]
          exact ⟨hpop, hlead _ (h.trans (.of_step (.refl _)))⟩

def callJobs (p : Plan) : Call → List Job
  | .require name => [.require name]
  | .compileAll => p.typeNames.map .require ++ [.conclude]

theorem carryOut_require (p : Plan) (name : String) :
    CarryOut p [] [.require name] (require p name) :=
  carryOut_requireWithin (by simp) List.nodup_nil (by simp) name

theorem carryOut_call (p : Plan) (call : Call) : CarryOut p [] (callJobs p call) (call.run p) := by
  cases call with
  | require name => exact carryOut_require p name
  | compileAll =>
    have hall : CarryOut p [] (p.typeNames.map .require) (p.typeNames.forM (require p)) :=
      .map (fun name _ => carryOut_require p name) fun _ => rfl
    exact hall.append (.atOnce rfl steady_conclude) (by simp [Plain, Job.closes])

/-- Whatever the calls were, nothing is left on the stack. -/
theorem compiling_session (p : Plan) (calls : List Call) : (p.session calls).compiling = [] := by
  suffices h : ∀ s : Session, s.compiling = [] →
      (calls.foldl (fun s call => after (call.run p) s) s).compiling = [] from h {} rfl
  induction calls with
  | nil => exact fun s hs => hs
  | cons call calls ih =>
    intro s hs
    exact ih _ ((carryOut_call p call s [] hs).after (fun _ h => h.1) fun _ _ h => h.1)

/-- A call comes to its end. -/
theorem leads_ended (p : Plan) (calls : List Call) (call : Call) :
    Leads p (going (p.session calls) (callJobs p call)) (.ended (call.run p (p.session calls))) := by
  have hends := carryOut_call p call (p.session calls) [] (compiling_session p calls)
  rw [List.append_nil] at hends
  cases hrun : call.run p (p.session calls) with
  | ok _ u => exact (hends.of_ok hrun).2
  | error e u => exact (hends.of_error hrun).2

end calls

end LookupEnums.Compile
