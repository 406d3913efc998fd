import LookupEnums.Proofs.Compile.History

/-! # Reported cycles

A cycle that a call reports is one of the plan, a type from which a cycle can be reached is never
compiled, and a plan without cycles is never said to have one.
-/
namespace LookupEnums.Plan
variable {p : Plan}

/-- An error of a call is justified by the plan, whatever the calls before it were. -/
theorem justifies_of_call (hw : ∀ m ∈ p.mappings, m.WellFormed) (calls : List Call) (call : Call)
    {e : CompileError} {s : Session} (h : (call.run p).run (p.session calls) = .error e s) :
    p.Justifies e := by
  obtain ⟨_, -, hfails⟩ := (ends_call hw (idle_session hw calls) call).of_error h
  exact hfails.justified

theorem Acyclic.not_isCycle (h : p.Acyclic) (path : List String) : ¬ p.IsCycle path := by
  intro hcycle
  obtain ⟨t, -, hback⟩ := hcycle.exists_transGen
  exact h t hback

/-- The path of a cycle error is a cycle; asking for a type that leads into a cycle never succeeds;
and without cycles there is no cycle error. -/
theorem cycle_errors (hw : ∀ m ∈ p.mappings, m.WellFormed) (calls : List Call) (call : Call) :
    (∀ path s, (call.run p).run (p.session calls) = .error (.cycle path) s → p.IsCycle path) ∧
    (∀ t u, p.maps t = true → Relation.ReflTransGen p.Refers t u → Relation.TransGen p.Refers u u →
      ∀ s, (Compile.require p t).run (p.session calls) ≠ .ok () s) ∧
    (p.Acyclic → ∀ path s, (call.run p).run (p.session calls) ≠ .error (.cycle path) s) := by
  refine ⟨fun path s h => justifies_of_call hw calls call h, ?_, ?_⟩
  · intro t u hmaps hreach hcycle s hrun
    obtain ⟨m, hm, rfl⟩ := List.mem_map.mp (maps_iff.mp hmaps)
    have hends := Compile.Ends.of_ok (ends_require hw (idle_session hw calls) m.typeName) hrun
    obtain ⟨hidle, -, hdone⟩ := hends
    exact (hidle.inv.compilable m hm (hdone hmaps)).not_cyclic hm hreach hcycle
  · intro hacyclic path s h
    exact hacyclic.not_isCycle path (justifies_of_call hw calls call h)

def lovers : Plan where
  mappings := [
    { table := "a"
      typeName := "A"
      key := "id"
      label := "id"
      columns := [⟨"a", "b", "B", none, some "B"⟩]
      attributes := []
      data := some ⟨"a", [("id", ⟨"int", false⟩), ("b", ⟨"int", true⟩)], []⟩ },
    { table := "b"
      typeName := "B"
      key := "id"
      label := "id"
      columns := [⟨"b", "a", "A", none, some "A"⟩]
      attributes := []
      data := some ⟨"b", [("id", ⟨"int", false⟩), ("a", ⟨"int", true⟩)], []⟩ }]
  distinct := by decide

theorem cycle_errors_lovers :
    (∃ s, (Call.compileAll.run lovers).run (lovers.session []) = .error (.cycle ["A", "B", "A"]) s) ∧
      lovers.IsCycle ["A", "B", "A"] := by
  have hrun : ∃ s, (Call.compileAll.run lovers).run (lovers.session []) =
      .error (.cycle ["A", "B", "A"]) s := ⟨_, rfl⟩
  obtain ⟨s, hs⟩ := hrun
  exact ⟨⟨s, hs⟩, (cycle_errors (by decide) [] .compileAll).1 _ s hs⟩

end LookupEnums.Plan
