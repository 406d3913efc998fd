import LookupEnums.Proofs.Compile.Admitted
import LookupEnums.Proofs.Compile.Reference
import LookupEnums.Proofs.TypeEnv.Lookup

/-! # One change of the environment at a time

Whatever a compilation does to the environment is one of a few operations after the other, also
where it fails midway. So what each of the operations keeps holds in every session.
-/
namespace LookupEnums

namespace TypeEnv

@[simp] theorem name_nodeAt (stage : Stage) (name : String) : (nodeAt stage name).name = name := rfl

@[simp] theorem name_nodeOf (env : TypeEnv) (name : String) : (env.nodeOf name).name = name := by
  unfold nodeOf lookup?
  cases env.stage? name <;> rfl

@[simp] theorem name_groundNode (env : TypeEnv) (node : TypeNode) :
    (env.groundNode node).name = node.name := by
  unfold groundNode
  split <;> rfl

/-- A recorded member changes the enumeration that it was looked up in, and nothing else. -/
theorem addMember_eq_ok {env env' : TypeEnv} {id : TypeId} {member : Member} {label : Value}
    (h : env.addMember id member label = .ok env') : env' = env ∨ ∃ t ∈ env.enums, t.id = id ∧
      env' = env.updateEnum id fun _ => { t with members := t.members ++ [member] } := by
  unfold addMember at h
  cases ht : env.enum? id with
  | none =>
    rw [ht] at h
    cases h
    exact Or.inl rfl
  | some t =>
    have hid : t.id = id := by simpa using List.find?_some ht
    rw [ht] at h
    rcases t.addMember_cases member label with ⟨-, hadd⟩ | ⟨-, hadd⟩ | ⟨_, -, hadd⟩ | ⟨-, -, -, hadd⟩
    all_goals simp only [hadd, Except.map] at h
    all_goals cases h
    exact Or.inr ⟨t, List.mem_of_find?_eq_some ht, hid, rfl⟩

end TypeEnv

def TableMapping.declared (m : TableMapping) (keyType storage : StorageType) (c : ColumnMapping)
    (env : TypeEnv) : Accessor where
  id := m.accessorId c
  owner := m.typeId
  returns := env.nodeOf (c.returnName storage)
  coercion := m.isCoercion keyType c
  nullable := storage.nullable

namespace Plan
variable {p : Plan} {env env' : TypeEnv}

/-- An operation that a compilation may do to the environment. Accessors are declared for columns
of known storage types only, and after the type they belong to. -/
inductive Step (p : Plan) (env : TypeEnv) : TypeEnv → Prop
  | define {m : TableMapping} (mem : m ∈ p.mappings) :
      Step p env (env.define m.typeName m.attributes)
  | setKeyType (id : TypeId) (keyType : String) : Step p env (env.setKeyType id keyType)
  | reference (name : String) : Step p env (env.reference name)
  | declare {m : TableMapping} {d : TableData} {c : ColumnMapping} {storage : StorageType}
      (keyType : StorageType) (mem : m ∈ p.mappings) (data : m.data = some d) (column : c ∈ m.columns)
      (known : d.storageType? c.column = some storage) (defined : env.stage? m.typeName = some .internal) :
      Step p env (env.declare (m.declared keyType storage c env))
  | addMember {id : TypeId} {member : Member} {label : Value} {env' : TypeEnv}
      (added : env.addMember id member label = .ok env') : Step p env env'
  | settleReturn (id : AccessorId) : Step p env (env.settleReturn id)
  | setCase (id : AccessorId) (member expression : String) :
      Step p env (env.setCase id member expression)

/-- What lists accessors is as it was: the names with enumerations, what each enumeration lists, and
which accessors there are. -/
structure SameRegistry (env env' : TypeEnv) : Prop where
  internal : ∀ n, env'.stage? n = some .internal ↔ env.stage? n = some .internal
  enums : env'.enums.map (fun t => (t.id, t.accessorNames)) =
    env.enums.map fun t => (t.id, t.accessorNames)
  accessors : env'.accessors.map (fun a => (a.id, a.owner)) = env.accessors.map fun a => (a.id, a.owner)

namespace SameRegistry

protected theorem refl (env : TypeEnv) : SameRegistry env env := ⟨fun _ => Iff.rfl, rfl, rfl⟩

theorem reference (env : TypeEnv) (name : String) : SameRegistry env (env.reference name) where
  internal n := by
    rw [TypeEnv.stage?_reference]
    split
    next hname =>
      subst hname
      cases env.stage? n <;> simp
    next => exact Iff.rfl
  enums := by rw [TypeEnv.enums_reference]
  accessors := by rw [TypeEnv.accessors_reference]

theorem updateEnum (env : TypeEnv) {id : TypeId} {change : EnumType → EnumType}
    (hsame : ∀ t ∈ env.enums, t.id = id →
      (change t).id = t.id ∧ (change t).accessorNames = t.accessorNames) :
    SameRegistry env (env.updateEnum id change) where
  internal n := Iff.rfl
  enums := by
    unfold TypeEnv.updateEnum
    rw [List.map_map]
    apply List.map_congr_left
    intro t ht
    by_cases hid : t.id = id
    · simp [hid, hsame t ht hid]
    · simp [hid]
  accessors := rfl

theorem updateAccessor {env env' : TypeEnv} (h : SameRegistry env env') (id : AccessorId)
    {change : Accessor → Accessor}
    (hsame : ∀ a, (change a).id = a.id ∧ (change a).owner = a.owner) :
    SameRegistry env (env'.updateAccessor id change) where
  internal := h.internal
  enums := h.enums
  accessors := by
    refine Eq.trans ?_ h.accessors
    unfold TypeEnv.updateAccessor
    rw [List.map_map]
    apply List.map_congr_left
    intro a _
    by_cases hid : a.id = id
    · simp [hid, hsame]
    · simp [hid]

theorem ground (env : TypeEnv) (node : TypeNode) : SameRegistry env (env.ground node) where
  internal n := by
    rw [TypeEnv.stage?_ground]
    split
    next hname =>
      rw [hname.1]
      by_cases hs : env.stage? node.name = some .internal <;> simp [hs]
    next => exact Iff.rfl
  enums := by rw [TypeEnv.enums_ground]
  accessors := by rw [TypeEnv.accessors_ground]

theorem settleReturn (env : TypeEnv) (id : AccessorId) : SameRegistry env (env.settleReturn id) := by
  unfold TypeEnv.settleReturn
  split
  · exact SameRegistry.refl env
  · exact (SameRegistry.ground env _).updateAccessor id fun _ => ⟨rfl, rfl⟩

theorem addMember {env env' : TypeEnv} (hnodup : (env.enums.map (·.id)).Nodup) {id : TypeId}
    {member : Member} {label : Value} (h : env.addMember id member label = .ok env') :
    SameRegistry env env' := by
  rcases TypeEnv.addMember_eq_ok h with rfl | ⟨t, ht, hid, rfl⟩
  · exact SameRegistry.refl _
  · refine SameRegistry.updateEnum env ?_
    intro u hu huid
    -- the enumeration of that name is the one that was looked up
    obtain rfl : u = t := List.inj_on_of_nodup_map hnodup hu ht (huid.trans hid.symm)
    exact ⟨rfl, rfl⟩

theorem map_id {env env' : TypeEnv} (h : SameRegistry env env') :
    env'.enums.map (·.id) = env.enums.map (·.id) := by
  have hfst := congrArg (List.map Prod.fst) h.enums
  rwa [List.map_map, List.map_map] at hfst

end SameRegistry

/-- An operation defines a type, declares an accessor, or leaves the registry alone. -/
theorem Step.registry (h : p.Step env env') (hnodup : (env.enums.map (·.id)).Nodup) :
    (∃ m ∈ p.mappings, env' = env.define m.typeName m.attributes) ∨
    (∃ m ∈ p.mappings, ∃ d, m.data = some d ∧ ∃ c ∈ m.columns, ∃ keyType storage,
      d.storageType? c.column = some storage ∧ env.stage? m.typeName = some .internal ∧
      env' = env.declare (m.declared keyType storage c env)) ∨
    SameRegistry env env' := by
  cases h with
  | define mem => exact Or.inl ⟨_, mem, rfl⟩
  | declare keyType mem data column known defined =>
    exact Or.inr (Or.inl ⟨_, mem, _, data, _, column, keyType, _, known, defined, rfl⟩)
  | setKeyType id keyType =>
    exact Or.inr (Or.inr (SameRegistry.updateEnum env fun _ _ _ => ⟨rfl, rfl⟩))
  | reference name => exact Or.inr (Or.inr (SameRegistry.reference env name))
  | addMember added => exact Or.inr (Or.inr (SameRegistry.addMember hnodup added))
  | settleReturn id => exact Or.inr (Or.inr (SameRegistry.settleReturn env id))
  | setCase id =>
    exact Or.inr (Or.inr ((SameRegistry.refl _).updateAccessor id fun _ => ⟨rfl, rfl⟩))

structure Backed (env : TypeEnv) : Prop where
  nodup : (env.enums.map (·.id)).Nodup
  internal : ∀ n, env.stage? n = some .internal ↔ (⟨n, none⟩ : TypeId) ∈ env.enums.map (·.id)

theorem Backed.empty : Backed {} where
  nodup := by simp
  internal := by simp [TypeEnv.stage?]

theorem Backed.define (h : Backed env) (name : String) (attributes : List String) :
    Backed (env.define name attributes) := by
  by_cases hs : env.stage? name = some .internal
  · rwa [env.define_of_internal hs]
  · have hnew := mt (h.internal name).mpr hs
    refine ⟨?_, ?_⟩
    · rw [env.define_of_open hs, List.map_append, List.nodup_append]
      refine ⟨h.nodup, by simp, ?_⟩
      intro id hid other hother hsame
      rw [List.map_singleton, List.mem_singleton] at hother
      rw [hsame, hother] at hid
      exact hnew hid
    · intro n
      rw [TypeEnv.stage?_define, env.define_of_open hs]
      by_cases hn : n = name
      · simp [hn]
      · have hid : ¬ (⟨n, none⟩ : TypeId) = ⟨name, none⟩ := by simpa using hn
        simp only [if_neg hn, List.map_append, List.mem_append, List.map_singleton,
          List.mem_singleton, hid, or_false]
        exact h.internal n

theorem Backed.declare (h : Backed env) (a : Accessor) : Backed (env.declare a) := by
  have hids : (env.declare a).enums.map (·.id) = env.enums.map (·.id) := by
    cases hf : env.accessor? a.id with
    | some b => rw [env.declare_of_known hf]
    | none =>
      rw [env.declare_of_new hf]
      exact TypeEnv.map_id_updateEnum _ fun _ h => h
  refine ⟨hids ▸ h.nodup, fun n => ?_⟩
  rw [TypeEnv.stage?_declare, hids]
  exact h.internal n

theorem Backed.same (h : Backed env) (hsame : SameRegistry env env') : Backed env' := by
  refine ⟨hsame.map_id ▸ h.nodup, fun n => ?_⟩
  rw [hsame.internal, hsame.map_id]
  exact h.internal n

/-- A name becomes internal only by the definition of its enumeration. -/
theorem Step.backed (h : p.Step env env') (hbacked : Backed env) : Backed env' := by
  rcases h.registry hbacked.nodup with ⟨m, -, rfl⟩ | ⟨m, -, d, -, c, -, _, _, -, -, rfl⟩ | hsame
  · exact hbacked.define _ _
  · exact hbacked.declare _
  · exact hbacked.same hsame

/-- Internal names stay internal. -/
theorem Step.internal (h : p.Step env env') (hnodup : (env.enums.map (·.id)).Nodup) {n : String}
    (hn : env.stage? n = some .internal) : env'.stage? n = some .internal := by
  rcases h.registry hnodup with ⟨m, -, rfl⟩ | ⟨m, -, d, -, c, -, _, _, -, -, rfl⟩ | hsame
  · rw [TypeEnv.stage?_define, hn, ite_self]
  · rwa [TypeEnv.stage?_declare]
  · exact (hsame.internal n).mpr hn

end Plan

end LookupEnums
