import LookupEnums.Proofs.Keyed
import LookupEnums.TypeEnv.Member

/-! # Looking up after a change

What the stage of a name, an enumeration and an accessor are after each operation of the type
environment. Nothing after this module opens an operation to look something up. Recording a member
and looking one up come last, each ending with what led to it.
-/
namespace LookupEnums.TypeEnv
variable (env : TypeEnv)

theorem lookup_bindIn (name n : String) (stage : Stage) (entries : List (String × Stage)) :
    (bindIn name stage entries).lookup n = if n = name then some stage else entries.lookup n := by
  induction entries with
  | nil => by_cases h : n = name <;> simp [bindIn, List.lookup_cons, h, beq_eq_false_iff_ne.mpr]
  | cons entry rest ih =>
    obtain ⟨k, old⟩ := entry
    by_cases hk : k = name
    · subst hk
      by_cases hn : n = k <;> simp [bindIn, List.lookup_cons, hn, beq_eq_false_iff_ne.mpr]
    · rw [bindIn, if_neg hk, List.lookup_cons, List.lookup_cons, ih]
      by_cases hn : n = k
      · simp [hn, hk]
      · simp [beq_eq_false_iff_ne.mpr hn]

theorem map_fst_bindIn (name : String) (stage : Stage) (entries : List (String × Stage)) :
    (bindIn name stage entries).map (·.1) =
      if name ∈ entries.map (·.1) then entries.map (·.1) else entries.map (·.1) ++ [name] := by
  induction entries with
  | nil => simp [bindIn]
  | cons entry rest ih =>
    obtain ⟨k, old⟩ := entry
    by_cases hk : k = name
    · simp [bindIn, hk]
    · have hk' : name ≠ k := fun h => hk h.symm
      rw [bindIn, if_neg hk, List.map_cons, ih, List.map_cons]
      by_cases hm : name ∈ rest.map (·.1) <;> simp [hm, hk']

theorem nodup_bindIn {name : String} {stage : Stage} {entries : List (String × Stage)}
    (h : (entries.map (·.1)).Nodup) : ((bindIn name stage entries).map (·.1)).Nodup := by
  rw [map_fst_bindIn]
  split
  · exact h
  next hm => exact List.nodup_append.mpr ⟨h, by simp, by simpa using fun a ha => by grind⟩

@[simp] theorem stage?_bind (name n : String) (stage : Stage) :
    (env.bind name stage).stage? n = if n = name then some stage else env.stage? n :=
  lookup_bindIn name n stage env.stages

theorem stage?_reference (name n : String) :
    (env.reference name).stage? n =
      if n = name then some ((env.stage? name).getD .unresolved) else env.stage? n := by
  unfold reference
  cases h : env.stage? name with
  | none => simp
  | some stage =>
    by_cases hn : n = name
    · simp [hn, h]
    · simp [hn]

theorem stage?_resolve (name n : String) :
    (env.resolve name).stage? n =
      if n = name then some (if env.stage? name = some .internal then .internal else .external)
      else env.stage? n := by
  unfold resolve
  by_cases hn : n = name
  · subst hn
    rcases h : env.stage? n with _ | _ | _ | _ <;> simp [h]
  · rcases h : env.stage? name with _ | _ | _ | _ <;> simp [hn]

theorem stage?_define (name n : String) (attributes : List String) :
    (env.define name attributes).stage? n =
      if n = name then some .internal else env.stage? n := by
  unfold define
  split
  next h =>
    by_cases hn : n = name
    · simp [hn, h]
    · simp [hn]
  next => exact stage?_bind env name n .internal

@[simp] theorem stage?_updateEnum (id : TypeId) (change : EnumType → EnumType) (n : String) :
    (env.updateEnum id change).stage? n = env.stage? n := rfl

@[simp] theorem stage?_updateAccessor (id : AccessorId) (change : Accessor → Accessor) (n : String) :
    (env.updateAccessor id change).stage? n = env.stage? n := rfl

@[simp] theorem stage?_declare (a : Accessor) (n : String) :
    (env.declare a).stage? n = env.stage? n := by
  unfold declare
  split <;> rfl

theorem stage?_ground (node : TypeNode) (n : String) :
    (env.ground node).stage? n =
      if n = node.name ∧ node.stage = .unresolved then
        some (if env.stage? node.name = some .internal then .internal else .external)
      else env.stage? n := by
  unfold ground
  split
  next h => simp [h, stage?_resolve]
  next h =>
    have hs : node.stage ≠ .unresolved := h
    simp [hs]

@[simp] theorem enums_reference (name : String) : (env.reference name).enums = env.enums := by
  unfold reference
  split <;> rfl

@[simp] theorem enums_resolve (name : String) : (env.resolve name).enums = env.enums := by
  unfold resolve
  split <;> rfl

@[simp] theorem enums_ground (node : TypeNode) : (env.ground node).enums = env.enums := by
  unfold ground
  split
  · exact enums_resolve env node.name
  · rfl

theorem enum?_updateEnum {id : TypeId} {change : EnumType → EnumType}
    (hid : ∀ t, t.id = id → (change t).id = id) (other : TypeId) :
    (env.updateEnum id change).enum? other =
      if other = id then (env.enum? id).map change else env.enum? other :=
  Keyed.find?_map_update hid env.enums other

theorem map_id_updateEnum {id : TypeId} {change : EnumType → EnumType}
    (hid : ∀ t, t.id = id → (change t).id = id) :
    (env.updateEnum id change).enums.map (·.id) = env.enums.map (·.id) :=
  Keyed.map_key_update hid env.enums

theorem define_of_internal {name : String} (h : env.stage? name = some .internal)
    (attributes : List String) : env.define name attributes = env := by
  unfold define
  rw [h]

theorem define_of_open {name : String} (h : env.stage? name ≠ some .internal)
    (attributes : List String) :
    env.define name attributes = ({ env.bind name .internal with
      enums := env.enums ++ [{ id := ⟨name, none⟩, attributes }] } : TypeEnv) := by
  unfold define
  split
  next hi => exact absurd hi h
  next => rfl

theorem enum?_define (name : String) (attributes : List String) (id : TypeId) :
    (env.define name attributes).enum? id =
      if env.stage? name = some .internal then env.enum? id
      else (env.enum? id).or
        (if id = ⟨name, none⟩ then some { id := ⟨name, none⟩, attributes } else none) := by
  unfold define
  split
  next h => simp [h]
  next h =>
    have hs : env.stage? name ≠ some .internal := h
    rw [if_neg hs]
    by_cases hid : id = ⟨name, none⟩
    · simp [enum?, bind, hid]
    · have hid' : ¬ (⟨name, none⟩ : TypeId) = id := fun h => hid h.symm
      simp [enum?, bind, hid, hid']

@[simp] theorem accessors_reference (name : String) :
    (env.reference name).accessors = env.accessors := by
  unfold reference
  split <;> rfl

@[simp] theorem accessors_resolve (name : String) :
    (env.resolve name).accessors = env.accessors := by
  unfold resolve
  split <;> rfl

@[simp] theorem accessors_ground (node : TypeNode) : (env.ground node).accessors = env.accessors := by
  unfold ground
  split
  · exact accessors_resolve env node.name
  · rfl

@[simp] theorem accessors_define (name : String) (attributes : List String) :
    (env.define name attributes).accessors = env.accessors := by
  unfold define
  split <;> rfl

theorem accessor?_updateAccessor {id : AccessorId} {change : Accessor → Accessor}
    (hid : ∀ a, a.id = id → (change a).id = id) (other : AccessorId) :
    (env.updateAccessor id change).accessor? other =
      if other = id then (env.accessor? id).map change else env.accessor? other :=
  Keyed.find?_map_update hid env.accessors other

theorem map_id_updateAccessor {id : AccessorId} {change : Accessor → Accessor}
    (hid : ∀ a, a.id = id → (change a).id = id) :
    (env.updateAccessor id change).accessors.map (·.id) = env.accessors.map (·.id) :=
  Keyed.map_key_update hid env.accessors

/-- A new accessor is the last of the environment and the last of its owner. -/
theorem declare_of_new {a : Accessor} (h : env.accessor? a.id = none) :
    env.declare a = ({ env with accessors := env.accessors ++ [a] } : TypeEnv).updateEnum a.owner
      fun t => { t with accessorNames := t.accessorNames ++ [a.name] } := by
  unfold declare
  rw [h]

theorem declare_of_known {a b : Accessor} (h : env.accessor? a.id = some b) :
    env.declare a = env := by
  unfold declare
  rw [h]

end LookupEnums.TypeEnv

namespace LookupEnums.EnumType

/-- A member is recorded unless its name or its key is taken, or its key cannot be one. -/
theorem addMember_cases (t : EnumType) (m : Member) (label : Value) :
    (m.name ∈ t.memberNames ∧ t.addMember m label =
        .error (.duplicateMember t.name m.name (if label.isNull then m.raw else label))) ∨
      (m.raw.usableAsKey = false ∧ t.addMember m label = .error (.unusableKey m.raw.keyFault)) ∨
      (∃ holder, t.memberWithKey? m.raw m.keyType = some holder ∧
        t.addMember m label = .error (.duplicateKey t.name m.raw holder.name)) ∨
      (m.name ∉ t.memberNames ∧ m.raw.usableAsKey = true ∧
        t.memberWithKey? m.raw m.keyType = none ∧
        t.addMember m label = .ok { t with members := t.members ++ [m] }) := by
  unfold addMember
  by_cases hname : m.name ∈ t.memberNames
  · exact Or.inl ⟨hname, by simp [hname]⟩
  cases husable : m.raw.usableAsKey with
  | false => exact Or.inr (Or.inl ⟨rfl, by simp [hname]⟩)
  | true =>
    cases hkey : t.memberWithKey? m.raw m.keyType with
    | some holder => exact Or.inr (Or.inr (Or.inl ⟨holder, rfl, by simp [hname]⟩))
    | none => exact Or.inr (Or.inr (Or.inr ⟨hname, rfl, rfl, by simp [hname]⟩))

theorem memberFor_cases (t : EnumType) (raw : Value) (keyType : String) (referencedBy : Option String) :
    (raw.usableAsKey = false ∧
        t.memberFor raw keyType referencedBy = .error (.unusableKey raw.keyFault)) ∨
      (t.memberWithKey? raw keyType = none ∧
        t.memberFor raw keyType referencedBy = .error (.unresolvedKey t.name raw referencedBy)) ∨
      (∃ m, raw.usableAsKey = true ∧ t.memberWithKey? raw keyType = some m ∧
        t.memberFor raw keyType referencedBy = .ok m) := by
  unfold memberFor
  cases husable : raw.usableAsKey with
  | false => exact Or.inl ⟨rfl, by simp⟩
  | true =>
    cases hkey : t.memberWithKey? raw keyType with
    | none => exact Or.inr (Or.inl ⟨rfl, by simp⟩)
    | some m => exact Or.inr (Or.inr ⟨m, rfl, rfl, by simp⟩)

end LookupEnums.EnumType
