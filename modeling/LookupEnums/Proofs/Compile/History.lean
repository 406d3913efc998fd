import LookupEnums.Proofs.Compile.Requiring

/-! # Calls after calls

A compilation may be called again and again, also after calls that failed. Whatever the calls were,
nothing stays on the stack between them, what is finished stays as it is, and what failed once
never gets finished.
-/
namespace LookupEnums
open Compile

inductive Call
  | require (name : String)
  | compileAll

namespace Call

def run (p : Plan) : Call → Compile Unit
  | require name => Compile.require p name
  | compileAll => Compile.compileAll p

end Call

namespace Compile

def after (x : Compile Unit) (s : Session) : Session :=
  match x.run s with
  | .ok _ u => u
  | .error _ u => u

theorem Ends.after {x : Compile Unit} {s : Session} {ok : Unit → Session → Prop}
    {fail : CompileError → Session → Prop} {motive : Session → Prop} (h : Ends x s ok fail)
    (hok : ∀ u, ok () u → motive u) (hfail : ∀ e u, fail e u → motive u) : motive (after x s) := by
  unfold Compile.after
  cases hx : x.run s with
  | ok a u => exact hok u (h.of_ok hx)
  | error e u => exact hfail e u (h.of_error hx)

end Compile

namespace Plan
variable {p : Plan} {s u : Session}

/-- The session after some calls, those that fail included. -/
def session (p : Plan) (calls : List Call) : Session :=
  calls.foldl (fun s call => after (call.run p) s) {}

theorem session_concat (p : Plan) (calls : List Call) (call : Call) :
    p.session (calls ++ [call]) = after (call.run p) (p.session calls) := by
  unfold session
  rw [List.foldl_append]
  rfl

/-- A call succeeds or fails with an error that the plan accounts for. -/
theorem ends_call (hw : ∀ m ∈ p.mappings, m.WellFormed) (h : p.Idle s) (call : Call) :
    Ends (call.run p) s (fun _ u => p.Idle u ∧ s.Extends [] u)
      (fun e u => ∃ target ∈ p.mappings, p.Fails target [] s e u) := by
  cases call with
  | require name =>
    refine Ends.mono (ends_require hw h name) (fun _ u hu => ⟨hu.1, hu.2.1⟩) ?_
    rintro e u ⟨target, htarget, hfails⟩
    exact ⟨target, (mapping?_eq_some.mp htarget).1, hfails⟩
  | compileAll =>
    exact Ends.mono (ends_compileAll hw h) (fun _ u hu => ⟨hu.1, hu.2.1⟩) fun _ _ hfails => hfails

theorem Idle.after (h : p.Idle s) (hw : ∀ m ∈ p.mappings, m.WellFormed) (call : Call) :
    p.Idle (after (call.run p) s) ∧ s.Extends [] (after (call.run p) s) := by
  refine (ends_call hw h call).after (fun _ hu => hu) ?_
  rintro e u ⟨target, -, hfails⟩
  exact ⟨hfails.idle h, hfails.grown⟩

theorem Idle.foldl (h : p.Idle s) (hw : ∀ m ∈ p.mappings, m.WellFormed) (calls : List Call) :
    p.Idle (calls.foldl (fun s call => Compile.after (call.run p) s) s) ∧
      s.Extends [] (calls.foldl (fun s call => Compile.after (call.run p) s) s) := by
  induction calls generalizing s with
  | nil => exact ⟨h, Session.Extends.refl _ _⟩
  | cons call calls ih =>
    obtain ⟨hidle, hgrown⟩ := h.after hw call
    obtain ⟨hidle', hgrown'⟩ := ih hidle
    exact ⟨hidle', hgrown.trans hgrown'⟩

theorem idle_session (hw : ∀ m ∈ p.mappings, m.WellFormed) (calls : List Call) :
    p.Idle (p.session calls) :=
  ((Idle.start p).foldl hw calls).1

theorem extends_session (hw : ∀ m ∈ p.mappings, m.WellFormed) (calls more : List Call) :
    (p.session calls).Extends [] (p.session (calls ++ more)) := by
  unfold session
  rw [List.foldl_append]
  exact ((idle_session hw calls).foldl hw more).2

/-- A finished type is as the plan says, whatever was compiled besides. -/
theorem Inv.part_eq {m : TableMapping} (hs : p.Inv s) (hu : p.Inv u) (hm : m ∈ p.mappings)
    (hsdone : m.typeName ∈ s.completed) (hudone : m.typeName ∈ u.completed) :
    u.env.part m.typeName = s.env.part m.typeName := by
  obtain ⟨d, keyType, hdata, hkey, hpart, -⟩ := hs.finished m hm hsdone
  obtain ⟨d', keyType', hdata', hkey', hpart', -⟩ := hu.finished m hm hudone
  obtain rfl : d = d' := Option.some.inj (hdata.symm.trans hdata')
  obtain rfl : keyType = keyType' := Option.some.inj (hkey.symm.trans hkey')
  exact hpart'.trans hpart.symm

theorem Inv.exists_mapping (h : p.Inv s) {t : String} (ht : t ∈ s.completed) :
    ∃ m ∈ p.mappings, m.typeName = t :=
  List.mem_map.mp (maps_iff.mp (h.mapped t (List.mem_append_right _ ht)))

/-- A compilable type is finished by asking for it. -/
theorem exists_require {m : TableMapping} (hw : ∀ m ∈ p.mappings, m.WellFormed) (h : p.Idle s)
    (hm : m ∈ p.mappings) (hcompilable : p.Compilable m) :
    ∃ u, (Compile.require p m.typeName).run s = .ok () u ∧ p.Idle u ∧ m.typeName ∈ u.completed := by
  have hends := ends_require hw h m.typeName
  cases hrun : (Compile.require p m.typeName).run s with
  | ok _ u =>
    obtain ⟨hidle, -, hdone⟩ := hends.of_ok hrun
    exact ⟨u, rfl, hidle, hdone (maps_typeName hm)⟩
  | error e u =>
    obtain ⟨target, htarget, hfails⟩ := hends.of_error hrun
    rw [mapping?_typeName hm] at htarget
    exact absurd (Option.some.inj htarget ▸ hcompilable) hfails.not_compilable

/-- Between calls a type that was begun and is not finished has failed, and it stays so. -/
theorem Idle.not_completed (h : p.Idle s) {t : String} (hbegun : s.Begun t) (hnot : t ∉ s.completed)
    (hu : p.Inv u) : t ∉ u.completed := by
  intro ht
  obtain ⟨m, hm, rfl⟩ := hu.exists_mapping ht
  rcases h.inv.failed m hm hbegun with hdone | hopen | hfailed
  · exact hnot hdone
  · rw [h.stack] at hopen
    cases hopen
  · exact hfailed (hu.compilable m hm ht)

/-- What holds between calls, whatever they were and whichever of them failed, and whatever calls
follow: nothing is being compiled, finished types stay finished and as they are, with the types they
refer to, and are what asking for each alone makes of it; and types whose compilation failed, in a
call for them or within another, are never finished. -/
theorem session_finished (hw : ∀ m ∈ p.mappings, m.WellFormed) (calls more : List Call) :
    (p.session calls).compiling = [] ∧
    (p.session calls).completed <+: (p.session (calls ++ more)).completed ∧
    (∀ t ∈ (p.session calls).completed,
      (p.session (calls ++ more)).env.part t = (p.session calls).env.part t ∧
      (∀ u, p.Refers t u → u ∈ (p.session calls).completed) ∧
      ∃ alone, (Compile.require p t).run {} = .ok () alone ∧ t ∈ alone.completed ∧
        (p.session calls).env.part t = alone.env.part t) ∧
    (∀ t, (p.session calls).Begun t → t ∉ (p.session calls).completed →
      t ∉ (p.session (calls ++ more)).completed) ∧
    (∀ t e s, (Compile.require p t).run (p.session calls) = .error e s →
      s = p.session (calls ++ [.require t]) ∧
      t ∉ (p.session (calls ++ .require t :: more)).completed) := by
  have hidle := idle_session hw calls
  have hlater := idle_session hw (calls ++ more)
  have hgrown := extends_session hw calls more
  refine ⟨hidle.stack, hgrown.completed, ?_, ?_, ?_⟩
  · intro t ht
    obtain ⟨m, hm, rfl⟩ := hidle.inv.exists_mapping ht
    obtain ⟨alone, hrun, halone, hdone⟩ :=
      exists_require hw (Idle.start p) hm (hidle.inv.compilable m hm ht)
    exact ⟨hidle.inv.part_eq hlater.inv hm ht (hgrown.completed.subset ht),
      hidle.inv.closed _ ht, alone, hrun, hdone, halone.inv.part_eq hidle.inv hm hdone ht⟩
  · exact fun t hbegun hnot => hidle.not_completed hbegun hnot hlater.inv
  · intro t e s hrun
    refine ⟨?_, ?_⟩
    · rw [session_concat, after, Call.run, hrun]
    · intro ht
      obtain ⟨m, hm, rfl⟩ := (idle_session hw _).inv.exists_mapping ht
      obtain ⟨u, hok, -⟩ := exists_require hw hidle hm ((idle_session hw _).inv.compilable m hm ht)
      rw [hrun] at hok
      cases hok

/-- A car whose colour is there and one whose colour is not. -/
def wreck : Plan where
  mappings := [
    { table := "car"
      typeName := "Car"
      key := "id"
      label := "model"
      columns := [⟨"car", "paint", "Paint", none, some "Colour"⟩]
      attributes := []
      data := some ⟨"car", [("id", ⟨"int", false⟩), ("paint", ⟨"int", true⟩)],
        [⟨.int 1, .text "Mini", [("paint", .int 7)]⟩, ⟨.int 2, .text "Beetle", [("paint", .int 8)]⟩]⟩ },
    { table := "colour"
      typeName := "Colour"
      key := "id"
      label := "name"
      columns := []
      attributes := []
      data := some ⟨"colour", [("id", ⟨"int", false⟩)], [⟨.int 7, .text "red", []⟩]⟩ }]
  distinct := by decide

/-- The call for the cars fails after the colours are finished, and no later call makes up for it. -/
theorem session_finished_wreck :
    (∃ e, (Compile.require wreck "Car").run {} = .error e (wreck.session [.require "Car"])) ∧
      (wreck.session [.require "Car"]).completed = ["Colour"] ∧
      (wreck.session [.require "Car", .compileAll]).env.part "Colour" =
        (wreck.session [.require "Car"]).env.part "Colour" ∧
      "Car" ∉ (wreck.session [.require "Car", .compileAll]).completed := by
  have hdone : (wreck.session [.require "Car"]).completed = ["Colour"] := by decide +kernel
  have hfails : ∃ e s, (Compile.require wreck "Car").run {} = .error e s := ⟨_, _, by rfl⟩
  obtain ⟨e, s, hrun⟩ := hfails
  obtain ⟨hsession, hnever⟩ :=
    (session_finished (p := wreck) (by decide) [] [.compileAll]).2.2.2.2 "Car" e s hrun
  have hcolour := (session_finished (p := wreck) (by decide) [.require "Car"] [.compileAll]).2.2.1
    "Colour" (by simp [hdone])
  exact ⟨⟨e, hsession ▸ hrun⟩, hdone, hcolour.1, hnever⟩

end Plan

end LookupEnums
