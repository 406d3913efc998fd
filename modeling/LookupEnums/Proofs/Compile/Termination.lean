import LookupEnums.Proofs.Compile.Execution

/-! # Requests come to an end

At every moment of a compilation the stack has no type twice, holds only types of tables and none that
is finished, and it is the list of the requests under way. So requests are never nested deeper than
there are tables, and one call begins no table twice.
-/
namespace LookupEnums.Compile

/-- The types whose requests are under way, the outermost first. -/
def requests : List Job → List String
  | [] => []
  | .leave name :: jobs => requests jobs ++ [name]
  | _ :: jobs => requests jobs

theorem requests_cons {j : Job} (h : j.closes = false) (jobs : List Job) :
    requests (j :: jobs) = requests jobs := by
  cases j with
  | leave name => cases h
  | _ => rfl

theorem requests_append {more : List Job} (h : Plain more) (jobs : List Job) :
    requests (more ++ jobs) = requests jobs := by
  induction more with
  | nil => rfl
  | cons j more ih =>
    rw [List.cons_append, requests_cons (h j List.mem_cons_self)]
    exact ih fun k hk => h k (List.mem_cons_of_mem _ hk)

def Job.IsInside : Job → Prop
  | .require _ | .leave _ | .complete _ => False
  | _ => True

theorem Job.IsInside.closes {j : Job} (h : j.IsInside) : j.closes = false := by
  cases j with
  | leave name => cases h
  | complete name => cases h
  | _ => rfl

/-- A job that puts plain jobs in its place after a step that stays at the same tables. -/
theorem ends_expand {α : Type} {fail : CompileError → Prop} {s : Session} {first : Compile α}
    {next : α → List Job} (hfirst : Steady fail first) (hnext : ∀ a, Plain (next a)) :
    Ends (first >>= fun a => pure (next a)) s (fun more u => s.SameTables u ∧ Plain more)
      fun _ u => s.SameTables u := by
  rw [ends_bind]
  exact (hfirst s).mono (fun a _ hu => ends_pure.mpr ⟨hu, hnext a⟩) fun _ _ hu => hu.1

theorem ends_step_inside {p : Plan} {j : Job} (h : j.IsInside) (s : Session) :
    Ends (j.step p) s (fun more u => s.SameTables u ∧ Plain more) fun _ u => s.SameTables u := by
  have hnil : Plain [] := List.forall_mem_nil _
  cases j with
  | require name => cases h
  | leave name => cases h
  | complete name => cases h
  | load m => exact ends_expand (steady_requireData m) fun d => by simp [Plain, Job.closes]
  | declare m d =>
    exact ends_expand (steady_defineKeyed m d) fun keyType => Plain.map (fun _ => rfl) m.columns
  | declareColumn m d keyType c => exact ends_expand (steady_declareColumn keyType c) fun _ => hnil
  | fill m d =>
    exact ends_expand (steady_requireStorage d m.key) fun keyType => Plain.filling m d keyType.name
  | addRow m keyType row => exact ends_expand (steady_addRow m keyType row) fun _ => hnil
  | demand id =>
    have henv : Steady (fun _ => False) env := .env
    exact ends_expand henv fun env => Plain.demanding id _
  | settle id returns => exact ends_expand (steady_settleDemanded id returns) fun _ => hnil
  | addCase m keyType row c => exact ends_expand (steady_addCase _ row c) fun _ => hnil
  | conclude => exact ends_expand steady_conclude fun _ => hnil

/-- The stack and the types begun so far, when those in `before` had been begun before the call. -/
structure Orderly (p : Plan) (before begun : List String) (s : Session) (jobs : List Job) : Prop where
  stack : requests jobs = s.compiling
  nodup : s.compiling.Nodup
  mapped : ∀ t ∈ s.compiling ++ begun, p.maps t = true
  unfinished : ∀ t ∈ s.compiling, t ∉ s.completed
  started : s.started = before ++ begun
  once : begun.Nodup

/-- As long as nothing has failed, a type that was begun is finished or on the stack. It is neither for
the one moment in which it has left the stack and is to be counted as finished next. -/
structure Steering (p : Plan) (before begun : List String) (s : Session) (jobs : List Job) : Prop
    extends Orderly p before begun s jobs where
  accounted : ∀ t ∈ begun, t ∈ s.completed ∨ t ∈ s.compiling ∨ jobs.head? = some (.complete t)
  closing : ∀ t, jobs.head? = some (.complete t) → t ∉ s.compiling
  later : ∀ t, .complete t ∉ jobs.tail

namespace Orderly
variable {p : Plan} {before begun : List String} {s u : Session} {j : Job} {jobs : List Job}

theorem same (h : Orderly p before begun s (j :: jobs)) (hj : j.closes = false) (hu : s.SameTables u) :
    Orderly p before begun u jobs where
  stack := by rw [hu.compiling, ← h.stack, requests_cons hj]
  nodup := hu.compiling ▸ h.nodup
  mapped := hu.compiling ▸ h.mapped
  unfinished := by
    rw [hu.compiling, hu.completed]
    exact h.unfinished
  started := hu.started.trans h.started
  once := h.once

/-- A job is given up on the way out. -/
theorem giveUp (h : Orderly p before begun s (j :: jobs)) :
    Orderly p before begun (j.giveUp s) jobs := by
  cases j with
  | leave name =>
    have hstack : requests jobs ++ [name] = s.compiling := h.stack
    have hpop : s.compiling.dropLast = requests jobs := by rw [← hstack, List.dropLast_concat]
    have hsub : ∀ t ∈ s.compiling.dropLast, t ∈ s.compiling := fun t => List.mem_of_mem_dropLast
    exact { h with
      stack := hpop.symm
      nodup := h.nodup.sublist (List.dropLast_sublist _)
      mapped := fun t ht => h.mapped t (List.mem_append.mpr ((List.mem_append.mp ht).imp_left (hsub t)))
      unfinished := fun t ht => h.unfinished t (hsub t ht) }
  | complete name => exact { h with stack := h.stack }
  | _ => exact h.same rfl (.refl s)

end Orderly

namespace Steering
variable {p : Plan} {before begun : List String} {s u : Session} {j : Job} {jobs more : List Job}

/-- After a job other than the last two of a type. -/
theorem same (h : Steering p before begun s (j :: jobs)) (hj : j.closes = false)
    (hu : s.SameTables u) (hmore : Plain more) : Steering p before begun u (more ++ jobs) := by
  have hnone : ∀ t, .complete t ∉ more ++ jobs := by
    intro t ht
    rcases List.mem_append.mp ht with ht | ht
    · cases hmore _ ht
    · exact h.later t ht
  have hhead : ∀ t, (more ++ jobs).head? ≠ some (.complete t) := fun t ht =>
    hnone t (List.mem_of_mem_head? ht)
  refine ⟨{ h.toOrderly.same hj hu with stack := ?_ }, ?_, ?_, ?_⟩
  · rw [requests_append hmore]
    exact (h.toOrderly.same hj hu).stack
  · intro t ht
    rw [hu.compiling, hu.completed]
    refine (h.accounted t ht).imp_right (Or.imp_right fun hlast => ?_)
    cases hlast
    cases hj
  · exact fun t ht => absurd ht (hhead t)
  · exact fun t ht => hnone t (List.mem_of_mem_tail ht)

theorem begin {m : TableMapping} (h : Steering p before begun s (.require m.typeName :: jobs))
    (hm : m ∈ p.mappings) (hopen : m.typeName ∉ s.completed) (hnew : m.typeName ∉ s.compiling) :
    Steering p before (begun ++ [m.typeName]) (Plan.begin s m)
      (.load m :: .leave m.typeName :: jobs) := by
  have hfirst : m.typeName ∉ begun := by
    intro ht
    rcases h.accounted _ ht with hdone | hstack | hlast
    · exact hopen hdone
    · exact hnew hstack
    · cases hlast
  have hmaps := Plan.maps_typeName hm
  have hpushed : (s.compiling ++ [m.typeName]).Nodup := List.concat_eq_append ▸ h.nodup.concat hnew
  refine ⟨⟨?_, ?_, ?_, ?_, ?_, ?_⟩, ?_, ?_, ?_⟩
  · change requests jobs ++ [m.typeName] = s.compiling ++ [m.typeName]
    rw [← h.stack]
    rfl
  · exact hpushed
  · intro t ht
    simp only [Plan.begin, List.mem_append, List.mem_singleton] at ht
    rcases ht with (ht | rfl) | ht | rfl
    · exact h.mapped t (List.mem_append_left _ ht)
    · exact hmaps
    · exact h.mapped t (List.mem_append_right _ ht)
    · exact hmaps
  · intro t ht
    rcases List.mem_append.mp ht with ht | ht
    · exact h.unfinished t ht
    · exact List.mem_singleton.mp ht ▸ hopen
  · change (s.journal ++ [CompileEvent.compiling m.table m.typeName]).filterMap CompileEvent.started? = _
    rw [List.filterMap_append, ← List.append_assoc, ← h.started]
    rfl
  · exact List.concat_eq_append ▸ h.once.concat hfirst
  · intro t ht
    rcases List.mem_append.mp ht with ht | ht
    · rcases h.accounted t ht with hdone | hstack | hlast
      · exact .inl hdone
      · exact .inr (.inl (List.mem_append_left _ hstack))
      · cases hlast
    · exact .inr (.inl (List.mem_append_right _ ht))
  · simp
  · intro t ht
    exact h.later t (by simpa using ht)

theorem leave {name : String} (h : Steering p before begun s (.leave name :: jobs)) :
    Steering p before begun { s with compiling := s.compiling.dropLast } (.complete name :: jobs) := by
  have hgiven : Orderly p before begun { s with compiling := s.compiling.dropLast } jobs :=
    h.toOrderly.giveUp
  have hstack : s.compiling = s.compiling.dropLast ++ [name] := by
    have hlast : requests jobs ++ [name] = s.compiling := h.stack
    rw [← hlast, List.dropLast_concat]
  have hnodup := h.nodup
  rw [hstack] at hnodup
  refine ⟨{ hgiven with stack := hgiven.stack }, ?_, ?_, h.later⟩
  · intro t ht
    rcases h.accounted t ht with hdone | hmem | hhead
    · exact .inl hdone
    · rw [hstack, List.mem_append, List.mem_singleton] at hmem
      refine .inr (hmem.imp_right fun hname => ?_)
      rw [hname]
      rfl
    · cases hhead
  · intro t ht hmem
    cases ht
    exact (List.nodup_append.mp hnodup).2.2 _ hmem _ List.mem_cons_self rfl

theorem complete {name : String} (h : Steering p before begun s (.complete name :: jobs)) :
    Steering p before begun { s with completed := s.completed ++ [name] } jobs := by
  have hnone : ∀ t, .complete t ∉ jobs := h.later
  refine ⟨{ h.toOrderly with stack := h.stack, unfinished := ?_ }, ?_, ?_, ?_⟩
  · intro t ht hdone
    rcases List.mem_append.mp hdone with hdone | hname
    · exact h.unfinished t ht hdone
    · exact h.closing name rfl (List.mem_singleton.mp hname ▸ ht)
  · intro t ht
    rcases h.accounted t ht with hdone | hstack | hhead
    · exact .inl (List.mem_append_left _ hdone)
    · exact .inr (.inl hstack)
    · cases hhead
      exact .inl (List.mem_append_right _ List.mem_cons_self)
  · exact fun t ht => absurd (List.mem_of_mem_head? ht) (hnone t)
  · exact fun t ht => hnone t (List.mem_of_mem_tail ht)

end Steering

def Execution.IsOrderly (p : Plan) (before : List String) : Execution → Prop
  | .going s jobs => ∃ begun, Steering p before begun s jobs
  | .failing _ s jobs => ∃ begun, Orderly p before begun s jobs

open Execution in
theorem isOrderly_step {p : Plan} {before : List String} {x : Execution} (h : x.IsOrderly p before) :
    (x.step p).IsOrderly p before := by
  cases x with
  | failing e s jobs =>
    cases jobs with
    | nil => exact h
    | cons j jobs =>
      obtain ⟨begun, h⟩ := h
      exact ⟨begun, h.giveUp⟩
  | going s jobs =>
    cases jobs with
    | nil => exact h
    | cons j jobs =>
      obtain ⟨begun, h⟩ := h
      have hinside (hj : j.IsInside) : (Execution.step p (going s (j :: jobs))).IsOrderly p before := by
        have hends := ends_step_inside (p := p) hj s
        rw [Execution.step]
        cases hrun : j.step p s with
        | ok more u => exact ⟨begun, h.same hj.closes (hends.of_ok hrun).1 (hends.of_ok hrun).2⟩
        | error e u => exact ⟨begun, h.toOrderly.same hj.closes (hends.of_error hrun)⟩
      cases j with
      | leave name => exact ⟨begun, h.leave⟩
      | complete name => exact ⟨begun, h.complete⟩
      | require name =>
        have hskip : Steering p before begun s ([] ++ jobs) :=
          h.same rfl (.refl s) (List.forall_mem_nil _)
        rw [Execution.step, step_require]
        cases hm : p.mapping? name with
        | none => exact ⟨begun, hskip⟩
        | some m =>
          obtain ⟨hmem, rfl⟩ := Plan.mapping?_eq_some.mp hm
          by_cases hdone : m.typeName ∈ s.completed
          · simp only [hdone, if_true]
            exact ⟨begun, hskip⟩
          by_cases hstack : m.typeName ∈ s.compiling
          · simp only [hdone, hstack, if_true, if_false]
            exact ⟨begun, h.toOrderly.same rfl (.refl s)⟩
          · simp only [hdone, hstack, if_false]
            exact ⟨_, h.begin hmem hdone hstack⟩
      | _ => exact hinside trivial

theorem isOrderly_iterate {p : Plan} {before : List String} {x : Execution} (h : x.IsOrderly p before)
    (n : ℕ) : ((Execution.step p)^[n] x).IsOrderly p before := by
  induction n with
  | zero => exact h
  | succ n ih =>
    rw [Function.iterate_succ_apply']
    exact isOrderly_step ih

theorem plain_callJobs (p : Plan) (call : Call) : Plain (callJobs p call) := by
  cases call with
  | require name => simp [callJobs, Plain, Job.closes]
  | compileAll => exact (Plain.map (fun _ => rfl) _).append (by simp [Plain, Job.closes])

def moment (p : Plan) (calls : List Call) (call : Call) (n : ℕ) : Execution :=
  (Execution.step p)^[n] (.going (p.session calls) (callJobs p call))

theorem isOrderly_moment (p : Plan) (calls : List Call) (call : Call) (n : ℕ) :
    (moment p calls call n).IsOrderly p (p.session calls).started := by
  have hempty := compiling_session p calls
  have hplain := plain_callJobs p call
  have hrequests : requests (callJobs p call) = [] := by
    have happend := requests_append hplain []
    rwa [List.append_nil] at happend
  have hnone : ∀ t, .complete t ∉ callJobs p call := fun t ht => by cases hplain _ ht
  have hstart : Steering p (p.session calls).started [] (p.session calls) (callJobs p call) := by
    refine ⟨⟨hrequests.trans hempty.symm, ?_, ?_, ?_, ?_, List.nodup_nil⟩, by simp, ?_, ?_⟩
    · simp [hempty]
    · simp [hempty]
    · simp [hempty]
    · exact (List.append_nil _).symm
    · exact fun t ht => absurd (List.mem_of_mem_head? ht) (hnone t)
    · exact fun t ht => hnone t (List.mem_of_mem_tail ht)
  exact isOrderly_iterate (x := .going _ _) ⟨[], hstart⟩ n

/-- The stack at some moment: types of tables, each once and none of them finished, and at the same
time the requests under way, so that the next one is nested in no more requests than there are tables. -/
structure Execution.Stacked (p : Plan) (x : Execution) : Prop where
  nodup : x.session.compiling.Nodup
  mapped : ∀ t ∈ x.session.compiling, p.maps t = true
  unfinished : ∀ t ∈ x.session.compiling, t ∉ x.session.completed
  requests : requests x.jobs = x.session.compiling
  depth : (Compile.requests x.jobs).length ≤ p.mappings.length

theorem Orderly.stacked {p : Plan} {before begun : List String} {x : Execution}
    (h : Orderly p before begun x.session x.jobs) : x.Stacked p where
  nodup := h.nodup
  mapped t ht := h.mapped t (List.mem_append_left _ ht)
  unfinished := h.unfinished
  requests := h.stack
  depth := by
    rw [h.stack]
    exact Plan.length_le_mappings h.nodup fun t ht => h.mapped t (List.mem_append_left _ ht)

theorem Execution.IsOrderly.exists_orderly {p : Plan} {before : List String} {x : Execution}
    (h : x.IsOrderly p before) : ∃ begun, Orderly p before begun x.session x.jobs := by
  cases x with
  | going s jobs =>
    obtain ⟨begun, h⟩ := h
    exact ⟨begun, h.toOrderly⟩
  | failing e s jobs => exact h

/-- What a call begins it begins but once. -/
theorem exists_started (p : Plan) (calls : List Call) (call : Call) :
    ∃ begun, (p.session (calls ++ [call])).started = (p.session calls).started ++ begun ∧
      begun.Nodup ∧ ∀ t ∈ begun, p.maps t = true := by
  obtain ⟨n, hn⟩ := leads_ended p calls call
  obtain ⟨begun, h⟩ := (isOrderly_moment p calls call n).exists_orderly
  have hn : moment p calls call n = .ended (call.run p (p.session calls)) := hn
  have hsession : (moment p calls call n).session = p.session (calls ++ [call]) := by
    rw [hn, Plan.session_concat, after, EStateM.run]
    cases call.run p (p.session calls) <;> rfl
  exact ⟨begun, hsession ▸ h.started, h.once, fun t ht => h.mapped t (List.mem_append_right _ ht)⟩

/-- Whatever the tables refer to and whatever was called before, a call ends after finitely many steps,
which nothing bounds but the tables themselves. At each of its moments the stack is in order. A call
begins no table twice; in particular compiling all tables from nothing begins each at most once. -/
theorem call_terminates (p : Plan) (calls : List Call) (call : Call) :
    (∃ n, moment p calls call n = .ended (call.run p (p.session calls))) ∧
    (∀ n, (moment p calls call n).Stacked p) ∧
    (∃ begun, (p.session (calls ++ [call])).started = (p.session calls).started ++ begun ∧
      begun.Nodup ∧ ∀ t ∈ begun, p.maps t = true) ∧
    (p.session [.compileAll]).started.Nodup := by
  refine ⟨leads_ended p calls call, fun n => ?_, exists_started p calls call, ?_⟩
  · obtain ⟨begun, h⟩ := (isOrderly_moment p calls call n).exists_orderly
    exact h.stacked
  · obtain ⟨begun, hstarted, honce, -⟩ := exists_started p [] .compileAll
    have hnone : (p.session []).started = [] := rfl
    rw [hnone, List.nil_append, List.nil_append] at hstarted
    rwa [hstarted]

end LookupEnums.Compile
