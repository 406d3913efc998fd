import LookupEnums.Proofs.Compile.Direct
import LookupEnums.Proofs.TypeEnv.Part

/-! # Environments a plan admits

What every environment of a compilation keeps, finished or not: no name, enumeration or accessor
is there twice; a name is internal exactly where it has an enumeration, and then a table is mapped
to it; and what an accessor returns is a name that is known. Each operation keeps it.
-/
namespace LookupEnums

structure StagesGrow (env env' : TypeEnv) : Prop where
  bound : ∀ n, (env.stage? n).isSome → (env'.stage? n).isSome
  settled : ∀ n stage, stage ≠ .unresolved → env.stage? n = some stage →
    env'.stage? n = some stage

namespace StagesGrow
variable {env env' env'' : TypeEnv}

theorem refl (env : TypeEnv) : StagesGrow env env := ⟨fun _ h => h, fun _ _ _ h => h⟩

theorem trans (h : StagesGrow env env') (h' : StagesGrow env' env'') : StagesGrow env env'' :=
  ⟨fun n hn => h'.bound n (h.bound n hn),
    fun n stage hs hn => h'.settled n stage hs (h.settled n stage hs hn)⟩

theorem of_eq (h : ∀ n, env'.stage? n = env.stage? n) : StagesGrow env env' :=
  ⟨fun n hn => (h n).symm ▸ hn, fun n _ _ hn => (h n).trans hn⟩

theorem reference (env : TypeEnv) (name : String) : StagesGrow env (env.reference name) := by
  constructor
  · intro n hn
    rw [TypeEnv.stage?_reference]
    split <;> simp [hn]
  · intro n stage _ hn
    rw [TypeEnv.stage?_reference]
    split
    next h => simp [← h, hn]
    next => exact hn

theorem define {name : String} (h : env.stage? name ≠ some .external) (attributes : List String) :
    StagesGrow env (env.define name attributes) := by
  constructor
  · intro n hn
    rw [TypeEnv.stage?_define]
    split <;> simp [hn]
  · intro n stage hs hn
    rw [TypeEnv.stage?_define]
    split
    next hname =>
      subst hname
      cases stage with
      | unresolved => exact absurd rfl hs
      | external => exact absurd hn h
      | internal => rfl
    next => exact hn

theorem ground (env : TypeEnv) (node : TypeNode) : StagesGrow env (env.ground node) := by
  constructor
  · intro n hn
    rw [TypeEnv.stage?_ground]
    split <;> simp [hn]
  · intro n stage hs hn
    rw [TypeEnv.stage?_ground]
    split
    next h =>
      obtain ⟨rfl, -⟩ := h
      cases stage with
      | unresolved => exact absurd rfl hs
      | external => simp [hn]
      | internal => simp [hn]
    next => exact hn

end StagesGrow

namespace Plan
variable {p : Plan} {env env' : TypeEnv}

/-- A node of a known name that claims no more than its name is. -/
structure NodeFits (p : Plan) (env : TypeEnv) (node : TypeNode) : Prop where
  bound : (env.stage? node.name).isSome
  internal : node.stage = .internal → p.maps node.name = true
  external : node.stage = .external → env.stage? node.name = some .external

theorem NodeFits.mono {node : TypeNode} (h : p.NodeFits env node) (hgrow : StagesGrow env env') :
    p.NodeFits env' node :=
  ⟨hgrow.bound _ h.bound, h.internal, fun hs => hgrow.settled _ _ (by simp) (h.external hs)⟩

/-- Whether a name can be met in the compilation of a plan. -/
def Knows (p : Plan) (name : String) : Prop :=
  p.maps name = true ∨ ∃ m ∈ p.mappings, ∃ c ∈ m.columns, m.returnName? c = some name

structure Admits (p : Plan) (env : TypeEnv) : Prop where
  stages : (env.stages.map (·.1)).Nodup
  enums : (env.enums.map (·.id)).Nodup
  accessors : (env.accessors.map (·.id)).Nodup
  internal : ∀ n, env.stage? n = some .internal ↔ (env.enum? ⟨n, none⟩).isSome
  mapped : ∀ n, p.maps n = true → env.stage? n ≠ some .external
  outside : ∀ n, p.maps n = false → env.stage? n ≠ some .internal
  known : ∀ n, (env.stage? n).isSome → p.Knows n
  enumOf : ∀ t ∈ env.enums, ∃ m ∈ p.mappings, t.id = m.typeId
  accessorOf : ∀ a ∈ env.accessors, ∃ m ∈ p.mappings, a.id.owner = m.typeName
  returns : ∀ a ∈ env.accessors, p.NodeFits env a.returns

namespace Admits

theorem empty (p : Plan) : p.Admits {} where
  stages := by simp
  enums := by simp
  accessors := by simp
  internal := by simp [TypeEnv.stage?, TypeEnv.enum?]
  mapped := by simp [TypeEnv.stage?]
  outside := by simp [TypeEnv.stage?]
  known := by simp [TypeEnv.stage?]
  enumOf := by simp
  accessorOf := by simp
  returns := by simp

theorem reference (h : p.Admits env) {name : String} (hname : p.Knows name) :
    p.Admits (env.reference name) where
  stages := by
    unfold TypeEnv.reference
    split
    · exact h.stages
    · exact TypeEnv.nodup_bindIn h.stages
  enums := by simpa using h.enums
  accessors := by simpa using h.accessors
  internal n := by
    have henum : (env.reference name).enum? ⟨n, none⟩ = env.enum? ⟨n, none⟩ := by
      simp [TypeEnv.enum?]
    rw [henum, ← h.internal n, TypeEnv.stage?_reference]
    split
    next hn =>
      subst hn
      cases env.stage? n <;> simp
    next => exact Iff.rfl
  mapped n hn := by
    rw [TypeEnv.stage?_reference]
    split
    next hname' =>
      subst hname'
      have hm := h.mapped n hn
      cases hs : env.stage? n <;> simp_all
    next => exact h.mapped n hn
  outside n hn := by
    rw [TypeEnv.stage?_reference]
    split
    next hname' =>
      subst hname'
      have ho := h.outside n hn
      cases hs : env.stage? n <;> simp_all
    next => exact h.outside n hn
  known n hn := by
    rw [TypeEnv.stage?_reference] at hn
    split at hn
    next hname' => exact hname' ▸ hname
    next => exact h.known n hn
  enumOf t ht := h.enumOf t (by simpa using ht)
  accessorOf a ha := h.accessorOf a (by simpa using ha)
  returns a ha := (h.returns a (by simpa using ha)).mono (StagesGrow.reference env name)

theorem define (h : p.Admits env) {m : TableMapping} (hm : m ∈ p.mappings) (attributes : List String) :
    p.Admits (env.define m.typeName attributes) := by
  have hmaps := maps_typeName hm
  have hgrow : StagesGrow env (env.define m.typeName attributes) :=
    StagesGrow.define (h.mapped _ hmaps) attributes
  by_cases hs : env.stage? m.typeName = some .internal
  · rwa [env.define_of_internal hs attributes]
  · have hnone : env.enum? ⟨m.typeName, none⟩ = none := by
      have hi := mt (h.internal m.typeName).mpr hs
      simpa using hi
    have hopen := env.define_of_open hs attributes
    constructor
    · rw [hopen]
      exact TypeEnv.nodup_bindIn h.stages
    · rw [hopen]
      exact Keyed.nodup_concat h.enums hnone
    · simpa using h.accessors
    · intro n
      rw [TypeEnv.stage?_define, TypeEnv.enum?_define, if_neg hs]
      by_cases hn : n = m.typeName
      · simp [hn]
      · simp [hn, h.internal n]
    · intro n hn
      rw [TypeEnv.stage?_define]
      split
      · simp
      · exact h.mapped n hn
    · intro n hn
      rw [TypeEnv.stage?_define]
      split
      next hname =>
        rw [hname, hmaps] at hn
        cases hn
      next => exact h.outside n hn
    · intro n hn
      rw [TypeEnv.stage?_define] at hn
      split at hn
      next hname => exact Or.inl (hname ▸ hmaps)
      next => exact h.known n hn
    · intro t ht
      rw [hopen, List.mem_append, List.mem_singleton] at ht
      rcases ht with ht | rfl
      · exact h.enumOf t ht
      · exact ⟨m, hm, rfl⟩
    · intro a ha
      exact h.accessorOf a (by simpa using ha)
    · intro a ha
      exact (h.returns a (by simpa using ha)).mono hgrow

theorem updateEnum (h : p.Admits env) {id : TypeId} {change : EnumType → EnumType}
    (hid : ∀ t, t.id = id → (change t).id = id) : p.Admits (env.updateEnum id change) where
  stages := h.stages
  enums := by
    rw [TypeEnv.map_id_updateEnum env hid]
    exact h.enums
  accessors := h.accessors
  internal n := by
    rw [TypeEnv.stage?_updateEnum, TypeEnv.enum?_updateEnum env hid]
    split
    next hn => simp [h.internal n, hn]
    next => exact h.internal n
  mapped := h.mapped
  outside := h.outside
  known := h.known
  enumOf t ht := by
    have hids : t.id ∈ (env.updateEnum id change).enums.map (·.id) := List.mem_map_of_mem ht
    rw [TypeEnv.map_id_updateEnum env hid] at hids
    obtain ⟨u, hu, hut⟩ := List.mem_map.mp hids
    exact hut ▸ h.enumOf u hu
  accessorOf := h.accessorOf
  returns a ha := (h.returns a ha).mono (StagesGrow.of_eq fun _ => rfl)

theorem declare (h : p.Admits env) {m : TableMapping} (hm : m ∈ p.mappings) {a : Accessor}
    (howner : a.id.owner = m.typeName) (hreturns : p.NodeFits env a.returns) :
    p.Admits (env.declare a) := by
  cases hf : env.accessor? a.id with
  | some b => rwa [TypeEnv.declare_of_known env hf]
  | none =>
    rw [TypeEnv.declare_of_new env hf]
    have hgrow : StagesGrow env { env with accessors := env.accessors ++ [a] } :=
      StagesGrow.of_eq fun _ => rfl
    suffices hlast : p.Admits { env with accessors := env.accessors ++ [a] } by
      refine hlast.updateEnum ?_
      intro t ht
      exact ht
    refine ⟨h.stages, h.enums, ?_, h.internal, h.mapped, h.outside, h.known, h.enumOf, ?_, ?_⟩
    · exact Keyed.nodup_concat h.accessors hf
    · intro b hb
      rcases List.mem_append.mp hb with hb | hb
      · exact h.accessorOf b hb
      · rw [List.mem_singleton.mp hb]
        exact ⟨m, hm, howner⟩
    · intro b hb
      rcases List.mem_append.mp hb with hb | hb
      · exact (h.returns b hb).mono hgrow
      · rw [List.mem_singleton.mp hb]
        exact hreturns.mono hgrow

theorem updateAccessor (h : p.Admits env) {id : AccessorId} {change : Accessor → Accessor}
    (hid : ∀ a, a.id = id → (change a).id = id)
    (hreturns : ∀ a ∈ env.accessors, a.id = id → p.NodeFits env (change a).returns) :
    p.Admits (env.updateAccessor id change) where
  stages := h.stages
  enums := h.enums
  accessors := by
    rw [TypeEnv.map_id_updateAccessor env hid]
    exact h.accessors
  internal := h.internal
  mapped := h.mapped
  outside := h.outside
  known := h.known
  enumOf := h.enumOf
  accessorOf a ha := by
    have hids : a.id ∈ (env.updateAccessor id change).accessors.map (·.id) := List.mem_map_of_mem ha
    rw [TypeEnv.map_id_updateAccessor env hid] at hids
    obtain ⟨b, hb, hba⟩ := List.mem_map.mp hids
    exact hba ▸ h.accessorOf b hb
  returns a ha := by
    obtain ⟨b, hb, rfl⟩ := List.mem_map.mp ha
    have hgrow : StagesGrow env (env.updateAccessor id change) := StagesGrow.of_eq fun _ => rfl
    by_cases hbid : b.id = id
    · rw [if_pos hbid]
      exact (hreturns b hb hbid).mono hgrow
    · rw [if_neg hbid]
      exact (h.returns b hb).mono hgrow

theorem ground (h : p.Admits env) {node : TypeNode} (hknown : p.Knows node.name)
    (hmaps : p.maps node.name = true → env.stage? node.name = some .internal) :
    p.Admits (env.ground node) where
  stages := by
    unfold TypeEnv.ground TypeEnv.resolve
    split
    · split
      · exact h.stages
      · exact h.stages
      · exact TypeEnv.nodup_bindIn h.stages
    · exact h.stages
  enums := by simpa using h.enums
  accessors := by simpa using h.accessors
  internal n := by
    have henum : (env.ground node).enum? ⟨n, none⟩ = env.enum? ⟨n, none⟩ := by
      simp [TypeEnv.enum?]
    rw [henum, ← h.internal n, TypeEnv.stage?_ground]
    split
    next hn =>
      obtain ⟨rfl, -⟩ := hn
      by_cases hs : env.stage? node.name = some .internal <;> simp [hs]
    next => exact Iff.rfl
  mapped n hn := by
    rw [TypeEnv.stage?_ground]
    split
    next hname =>
      obtain ⟨rfl, -⟩ := hname
      simp [hmaps hn]
    next => exact h.mapped n hn
  outside n hn := by
    rw [TypeEnv.stage?_ground]
    split
    next hname =>
      obtain ⟨rfl, -⟩ := hname
      simp [h.outside node.name hn]
    next => exact h.outside n hn
  known n hn := by
    rw [TypeEnv.stage?_ground] at hn
    split at hn
    next hname => exact hname.1 ▸ hknown
    next => exact h.known n hn
  enumOf t ht := h.enumOf t (by simpa using ht)
  accessorOf a ha := h.accessorOf a (by simpa using ha)
  returns a ha := (h.returns a (by simpa using ha)).mono (StagesGrow.ground env node)

/-- A settled node is what its name stands for by the plan alone, and so is the name. -/
theorem groundNode_eq (h : p.Admits env) {stage : Stage} {name : String}
    (hfits : p.NodeFits env (TypeEnv.nodeAt stage name))
    (hmaps : p.maps name = true → env.stage? name = some .internal) :
    env.groundNode (TypeEnv.nodeAt stage name) = TypeEnv.nodeAt (p.directStage name) name ∧
      (env.ground (TypeEnv.nodeAt stage name)).stage? name = some (p.directStage name) := by
  rw [TypeEnv.stage?_ground]
  unfold TypeEnv.groundNode directStage
  cases hm : p.maps name with
  | true =>
    have hs := hmaps hm
    cases stage with
    | unresolved => simp [TypeEnv.nodeAt, TypeNode.name, hs]
    | external =>
      have he : env.stage? name = some .external := hfits.external rfl
      rw [hs] at he
      cases he
    | internal => simp [TypeEnv.nodeAt, hs]
  | false =>
    have ho := h.outside name hm
    cases stage with
    | unresolved => simp [TypeEnv.nodeAt, TypeNode.name, ho]
    | external =>
      have he : env.stage? name = some .external := hfits.external rfl
      simp [TypeEnv.nodeAt, TypeNode.name, he]
    | internal =>
      have hi : p.maps name = true := hfits.internal rfl
      rw [hm] at hi
      cases hi

theorem nodeFits_direct {name : String} (hs : env.stage? name = some (p.directStage name)) :
    p.NodeFits env (TypeEnv.nodeAt (p.directStage name) name) := by
  refine ⟨Option.isSome_iff_exists.mpr ⟨_, hs⟩, directStage_eq_internal.mp, ?_⟩
  intro he
  exact hs.trans (congrArg some he)

/-- Settling what an accessor returns, once its name is internal if a table is mapped to it. -/
theorem settleReturn (h : p.Admits env) {id : AccessorId} {a : Accessor} {stage : Stage}
    {name : String} (ha : env.accessor? id = some a) (hreturns : a.returns = TypeEnv.nodeAt stage name)
    (hmaps : p.maps name = true → env.stage? name = some .internal) :
    p.Admits (env.settleReturn id) ∧
      env.settleReturn id = (env.ground a.returns).updateAccessor id
        fun b => { b with returns := TypeEnv.nodeAt (p.directStage name) name } := by
  have hfits : p.NodeFits env (TypeEnv.nodeAt stage name) :=
    hreturns ▸ h.returns a (List.mem_of_find?_eq_some ha)
  obtain ⟨hnode, hstage⟩ := h.groundNode_eq hfits hmaps
  have hsettle : env.settleReturn id = (env.ground a.returns).updateAccessor id
      fun b => { b with returns := TypeEnv.nodeAt (p.directStage name) name } := by
    unfold TypeEnv.settleReturn
    rw [ha]
    simp only [hreturns, hnode]
  refine ⟨?_, hsettle⟩
  rw [hsettle, hreturns]
  have hknown : p.Knows (TypeEnv.nodeAt stage name).name := h.known name hfits.bound
  refine (h.ground hknown hmaps).updateAccessor (fun b hb => hb) ?_
  intro b _ _
  exact nodeFits_direct hstage

theorem nodeFits_nodeOf (h : p.Admits env) {name : String} {stage : Stage}
    (hs : env.stage? name = some stage) :
    env.nodeOf name = TypeEnv.nodeAt stage name ∧ p.NodeFits env (TypeEnv.nodeAt stage name) := by
  refine ⟨by simp [TypeEnv.nodeOf, TypeEnv.lookup?, hs], Option.isSome_iff_exists.mpr ⟨_, hs⟩, ?_, ?_⟩
  · intro hi
    by_contra hm
    exact h.outside name (Bool.eq_false_iff.mpr hm) (hs.trans (congrArg some hi))
  · intro he
    exact hs.trans (congrArg some he)

end Admits

end Plan

end LookupEnums
