import LookupEnums.Compile.Run
import LookupEnums.Proofs.Keyed
import Mathlib.Data.Fintype.Card
import Mathlib.Data.Fintype.EquivFin
import Mathlib.Data.Fintype.Sets
import Mathlib.Data.List.Chain

/-! # References between tables

A mapped type refers to another where one of its columns returns it, by an explicit name or by the
name of the storage type. Cycles of references are what a compilation refuses; over the finitely
many types of a plan their absence makes the references well-founded.
-/
namespace LookupEnums

namespace TableMapping

/-- The name of the type a column returns, as far as the table is known. -/
def returnName? (m : TableMapping) (c : ColumnMapping) : Option String :=
  match c.returns with
  | some name => some name
  | none => (m.data.bind (·.storageType? c.column)).map (·.name)

end TableMapping

namespace Plan
variable {p : Plan}

def maps (p : Plan) (name : String) : Bool :=
  (p.mapping? name).isSome

theorem mapping?_eq_some {name : String} {m : TableMapping} :
    p.mapping? name = some m ↔ m ∈ p.mappings ∧ m.typeName = name := by
  constructor
  · intro h
    exact ⟨List.mem_of_find?_eq_some h, by simpa using List.find?_some h⟩
  · rintro ⟨hm, rfl⟩
    exact Keyed.find?_key p.distinct hm

theorem mapping?_typeName {m : TableMapping} (hm : m ∈ p.mappings) :
    p.mapping? m.typeName = some m :=
  mapping?_eq_some.mpr ⟨hm, rfl⟩

theorem maps_iff {name : String} : p.maps name = true ↔ name ∈ p.typeNames := by
  unfold maps
  rw [Option.isSome_iff_exists]
  constructor
  · rintro ⟨m, hm⟩
    obtain ⟨hmem, hname⟩ := mapping?_eq_some.mp hm
    exact List.mem_map.mpr ⟨m, hmem, hname⟩
  · intro h
    obtain ⟨m, hmem, hname⟩ := List.mem_map.mp h
    exact ⟨m, mapping?_eq_some.mpr ⟨hmem, hname⟩⟩

theorem maps_typeName {m : TableMapping} (hm : m ∈ p.mappings) : p.maps m.typeName = true :=
  maps_iff.mpr (List.mem_map_of_mem hm)

/-- The first type is mapped and one of its columns returns the second, which is mapped too. -/
def Refers (p : Plan) (t u : String) : Prop :=
  ∃ m, p.mapping? t = some m ∧ p.maps u = true ∧ ∃ c ∈ m.columns, m.returnName? c = some u

theorem Refers.maps_left {t u : String} (h : p.Refers t u) : p.maps t = true := by
  obtain ⟨m, hm, -⟩ := h
  exact Option.isSome_iff_exists.mpr ⟨m, hm⟩

theorem Refers.maps_right {t u : String} (h : p.Refers t u) : p.maps u = true := by
  obtain ⟨_, _, hu, _⟩ := h
  exact hu

def Acyclic (p : Plan) : Prop :=
  ∀ t, ¬ Relation.TransGen p.Refers t t

/-- A closed path of references: it ends where it starts and meets no type twice before. -/
structure IsCycle (p : Plan) (path : List String) : Prop where
  two_le_length : 2 ≤ path.length
  closed : path.head? = path.getLast?
  distinct : path.dropLast.Nodup
  mapped : ∀ t ∈ path, p.maps t = true
  edges : path.IsChain p.Refers

theorem isCycle_self {t : String} (h : p.Refers t t) : p.IsCycle [t, t] where
  two_le_length := by simp
  closed := rfl
  distinct := by simp
  mapped := by simpa using h.maps_left
  edges := by simpa using h

theorem cycleFrom_append {name : String} {before after : List String} (hbefore : name ∉ before) :
    Compile.cycleFrom name (before ++ name :: after) = name :: after ++ [name] := by
  have hdrop : (before ++ name :: after).dropWhile (· ≠ name) = name :: after := by
    rw [List.dropWhile_append_of_pos (by
      intro t ht
      simpa using fun h : t = name => hbefore (h ▸ ht))]
    simp
  rw [Compile.cycleFrom, hdrop]

/-- The rest of a path from a type on, closed by a reference back to that type. -/
theorem isCycle_cycleFrom {name : String} {stack : List String} (hmem : name ∈ stack)
    (hnodup : stack.Nodup) (hmapped : ∀ t ∈ stack, p.maps t = true)
    (hchain : (stack ++ [name]).IsChain p.Refers) :
    p.IsCycle (Compile.cycleFrom name stack) := by
  obtain ⟨before, after, hsplit, hbefore⟩ : ∃ before after, stack = before ++ name :: after ∧
      name ∉ before := List.eq_append_cons_of_mem hmem
  have hcycle : Compile.cycleFrom name stack = name :: after ++ [name] := by
    rw [hsplit, cycleFrom_append hbefore]
  have hsuffix : name :: after ++ [name] <:+ stack ++ [name] := ⟨before, by simp [hsplit]⟩
  rw [hcycle]
  refine ⟨by simp, List.getLast?_concat.symm, ?_, ?_, hchain.suffix hsuffix⟩
  · rw [List.dropLast_concat]
    exact (List.sublist_append_right before _).nodup (hsplit ▸ hnodup)
  · intro t ht
    have ht : t ∈ stack ++ [name] := hsuffix.subset ht
    rcases List.mem_append.mp ht with ht | ht
    · exact hmapped t ht
    · rw [List.mem_singleton.mp ht]
      exact hmapped name hmem

theorem IsCycle.exists_transGen {path : List String} (h : p.IsCycle path) :
    ∃ t ∈ path.head?, Relation.TransGen p.Refers t t := by
  obtain ⟨hlen, hclosed, -, -, hedges⟩ := h
  match path with
  | [] | [_] => simp at hlen
  | t :: u :: rest =>
    refine ⟨t, rfl, ?_⟩
    obtain ⟨hstep, htail⟩ := List.isChain_cons_cons.mp hedges
    have hlast : (u :: rest).getLast (by simp) = t := by
      rw [List.getLast?_cons_cons, List.getLast?_eq_some_getLast (by simp), List.head?_cons] at hclosed
      exact (Option.some.inj hclosed).symm
    have hreach := List.relationReflTransGen_of_exists_isChain_cons rest htail hlast
    exact Relation.TransGen.head' hstep hreach

/-- A type that a path comes back to refers to itself. -/
theorem transGen_of_isChain {name : String} {stack : List String} (hmem : name ∈ stack)
    (hchain : (stack ++ [name]).IsChain p.Refers) : Relation.TransGen p.Refers name name := by
  obtain ⟨before, after, rfl⟩ := List.append_of_mem hmem
  rw [List.append_assoc, List.cons_append] at hchain
  have hback : (name :: (after ++ [name])).IsChain p.Refers := hchain.right_of_append
  cases after with
  | nil => exact Relation.TransGen.single (List.isChain_cons_cons.mp hback).1
  | cons t after =>
    obtain ⟨hstep, hrest⟩ := List.isChain_cons_cons.mp hback
    exact Relation.TransGen.head' hstep
      (List.relationReflTransGen_of_exists_isChain_cons (after ++ [name]) hrest (by simp))

/-- Over the finitely many types of a plan a property passes up all references at once. -/
theorem Acyclic.induction (h : p.Acyclic) {motive : String → Prop}
    (hstep : ∀ t, p.maps t = true → (∀ u, p.Refers t u → motive u) → motive t) {t : String}
    (ht : p.maps t = true) : motive t := by
  let below : {t // t ∈ p.typeNames} → {t // t ∈ p.typeNames} → Prop :=
    fun u t => Relation.TransGen p.Refers t.1 u.1
  have hwf : WellFounded below := by
    have : IsTrans _ below := ⟨fun _ _ _ hab hbc => Relation.TransGen.trans hbc hab⟩
    have : Std.Irrefl below := ⟨fun t => h t.1⟩
    exact Finite.wellFounded_of_trans_of_irrefl below
  suffices hall : ∀ t : {t // t ∈ p.typeNames}, motive t.1 from hall ⟨t, maps_iff.mp ht⟩
  intro t
  induction t using hwf.induction with
  | _ t ih =>
    refine hstep t.1 (maps_iff.mpr t.2) ?_
    intro u hu
    exact ih ⟨u, maps_iff.mp hu.maps_right⟩ (Relation.TransGen.single hu)

end Plan

end LookupEnums
