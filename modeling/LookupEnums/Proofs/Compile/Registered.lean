import LookupEnums.Proofs.Compile.Keeping

/-! # The registry of accessors

Accessors are kept once in the order of their declaration and once more by their names, with the
enumeration that each belongs to. In every session the two agree; and every accessor stems from a
column that is mapped and has a storage type.
-/
namespace LookupEnums

namespace TypeEnv

/-- The accessors of an enumeration among all there are, in the order of their declaration. -/
def declaredFor (env : TypeEnv) (id : TypeId) : List Accessor :=
  env.accessors.filter (·.owner = id)

theorem map_name_declaredFor_congr {env env' : TypeEnv}
    (h : env'.accessors.map (fun a => (a.id, a.owner)) = env.accessors.map fun a => (a.id, a.owner))
    (id : TypeId) :
    (env'.declaredFor id).map Accessor.name = (env.declaredFor id).map Accessor.name := by
  have hsplit : ∀ env : TypeEnv, (env.declaredFor id).map Accessor.name =
      ((env.accessors.map fun a => (a.id, a.owner)).filter (·.2 = id)).map (·.1.name) := by
    intro env
    rw [List.filter_map, List.map_map]
    rfl
  rw [hsplit env', h, ← hsplit env]

end TypeEnv

namespace Plan
variable {p : Plan} {env env' : TypeEnv}

/-- What there is of accessors is listed once by each enumeration, and comes from mapped columns. -/
structure Registered (p : Plan) (env : TypeEnv) : Prop where
  backed : Backed env
  serial : ∀ t ∈ env.enums, t.id.serial = none
  owned : ∀ a ∈ env.accessors, a.owner = ⟨a.id.owner, none⟩ ∧ a.owner ∈ env.enums.map (·.id)
  listed : ∀ t ∈ env.enums, t.accessorNames = (env.declaredFor t.id).map Accessor.name
  origin : ∀ a ∈ env.accessors, ∃ m ∈ p.mappings, ∃ d, m.data = some d ∧
    ∃ c ∈ m.columns, (d.storageType? c.column).isSome ∧ a.id = m.accessorId c

namespace Registered

theorem empty (p : Plan) : p.Registered {} where
  backed := Backed.empty
  serial := by simp
  owned := by simp
  listed := by simp
  origin := by simp

theorem define (h : p.Registered env) (name : String) (attributes : List String) :
    p.Registered (env.define name attributes) := by
  by_cases hs : env.stage? name = some .internal
  · rwa [env.define_of_internal hs]
  · have hnew : (⟨name, none⟩ : TypeId) ∉ env.enums.map (·.id) := mt (h.backed.internal name).mpr hs
    have hopen := env.define_of_open hs attributes
    -- a new enumeration has no accessors, since each belongs to one that was there before
    have hnone : env.declaredFor ⟨name, none⟩ = [] := by
      refine List.filter_eq_nil_iff.mpr ?_
      intro a ha howner
      exact hnew (of_decide_eq_true howner ▸ (h.owned a ha).2)
    refine ⟨h.backed.define name attributes, ?_, ?_, ?_, ?_⟩
    · intro t ht
      rw [hopen, List.mem_append, List.mem_singleton] at ht
      rcases ht with ht | rfl
      · exact h.serial t ht
      · rfl
    · intro a ha
      rw [TypeEnv.accessors_define] at ha
      refine ⟨(h.owned a ha).1, ?_⟩
      rw [hopen, List.map_append]
      exact List.mem_append_left _ (h.owned a ha).2
    · intro t ht
      have hsame : (env.define name attributes).declaredFor t.id = env.declaredFor t.id := by
        unfold TypeEnv.declaredFor
        rw [TypeEnv.accessors_define]
      rw [hopen, List.mem_append, List.mem_singleton] at ht
      rw [hsame]
      rcases ht with ht | rfl
      · exact h.listed t ht
      · rw [hnone]
        rfl
    · intro a ha
      exact h.origin a (by simpa using ha)

theorem declare (h : p.Registered env) {m : TableMapping} {d : TableData} {c : ColumnMapping}
    {keyType storage : StorageType} (hm : m ∈ p.mappings) (hdata : m.data = some d)
    (hc : c ∈ m.columns) (hknown : d.storageType? c.column = some storage)
    (hdefined : env.stage? m.typeName = some .internal) :
    p.Registered (env.declare (m.declared keyType storage c env)) := by
  let a := m.declared keyType storage c env
  have hbacked : Backed (env.declare a) := h.backed.declare a
  cases hf : env.accessor? a.id with
  | some b => rwa [env.declare_of_known hf]
  | none =>
    have hids : (env.declare a).enums.map (·.id) = env.enums.map (·.id) := by
      rw [env.declare_of_new hf]
      exact TypeEnv.map_id_updateEnum _ fun _ h => h
    have haccessors : (env.declare a).accessors = env.accessors ++ [a] := by
      rw [env.declare_of_new hf]
      rfl
    -- the accessor goes to the end of its owner's list and of no other
    have hfor : ∀ id, (env.declare a).declaredFor id =
        env.declaredFor id ++ if id = a.owner then [a] else [] := by
      intro id
      unfold TypeEnv.declaredFor
      rw [haccessors, List.filter_append]
      by_cases hid : id = a.owner
      · simp [hid]
      · have hid' : ¬ a.owner = id := fun h => hid h.symm
        simp [hid, hid']
    refine ⟨hbacked, ?_, ?_, ?_, ?_⟩
    · intro t ht
      have hid : t.id ∈ (env.declare a).enums.map (·.id) := List.mem_map_of_mem ht
      rw [hids] at hid
      obtain ⟨u, hu, hut⟩ := List.mem_map.mp hid
      exact hut ▸ h.serial u hu
    · intro b hb
      rw [haccessors, List.mem_append, List.mem_singleton] at hb
      rw [hids]
      rcases hb with hb | rfl
      · exact h.owned b hb
      · exact ⟨rfl, (h.backed.internal m.typeName).mp hdefined⟩
    · intro t ht
      rw [env.declare_of_new hf] at ht
      obtain ⟨u, hu, rfl⟩ := List.mem_map.mp ht
      by_cases hid : u.id = a.owner
      · rw [if_pos hid, hfor, if_pos hid, List.map_append, ← h.listed u hu]
        rfl
      · rw [if_neg hid, hfor, if_neg hid, List.append_nil]
        exact h.listed u hu
    · intro b hb
      rw [haccessors, List.mem_append, List.mem_singleton] at hb
      rcases hb with hb | rfl
      · exact h.origin b hb
      · exact ⟨m, hm, d, hdata, c, hc, Option.isSome_iff_exists.mpr ⟨storage, hknown⟩, rfl⟩

theorem same (h : p.Registered env) (hsame : SameRegistry env env') : p.Registered env' := by
  have henum : ∀ t ∈ env'.enums, ∃ u ∈ env.enums, u.id = t.id ∧ u.accessorNames = t.accessorNames := by
    intro t ht
    have hentry : (t.id, t.accessorNames) ∈ env'.enums.map fun t => (t.id, t.accessorNames) :=
      List.mem_map.mpr ⟨t, ht, rfl⟩
    rw [hsame.enums] at hentry
    obtain ⟨u, hu, hut⟩ := List.mem_map.mp hentry
    exact ⟨u, hu, congrArg Prod.fst hut, congrArg Prod.snd hut⟩
  have haccessor : ∀ a ∈ env'.accessors, ∃ b ∈ env.accessors, b.id = a.id ∧ b.owner = a.owner := by
    intro a ha
    have hentry : (a.id, a.owner) ∈ env'.accessors.map fun a => (a.id, a.owner) :=
      List.mem_map.mpr ⟨a, ha, rfl⟩
    rw [hsame.accessors] at hentry
    obtain ⟨b, hb, hba⟩ := List.mem_map.mp hentry
    exact ⟨b, hb, congrArg Prod.fst hba, congrArg Prod.snd hba⟩
  refine ⟨h.backed.same hsame, ?_, ?_, ?_, ?_⟩
  · intro t ht
    obtain ⟨u, hu, hid, -⟩ := henum t ht
    exact hid ▸ h.serial u hu
  · intro a ha
    obtain ⟨b, hb, hid, howner⟩ := haccessor a ha
    rw [← hid, ← howner, hsame.map_id]
    exact h.owned b hb
  · intro t ht
    obtain ⟨u, hu, hid, hnames⟩ := henum t ht
    rw [TypeEnv.map_name_declaredFor_congr hsame.accessors, ← hnames, ← hid]
    exact h.listed u hu
  · intro a ha
    obtain ⟨b, hb, hid, -⟩ := haccessor a ha
    exact hid ▸ h.origin b hb

theorem step (h : p.Registered env) (hstep : p.Step env env') : p.Registered env' := by
  rcases hstep.registry h.backed.nodup with
    ⟨m, -, rfl⟩ | ⟨m, hm, d, hdata, c, hc, _, _, hknown, hdefined, rfl⟩ | hsame
  · exact h.define _ _
  · exact h.declare hm hdata hc hknown hdefined
  · exact h.same hsame

end Registered

theorem registered_session (p : Plan) (calls : List Call) :
    p.Registered (p.session calls).env :=
  session_keeps (fun _ _ hstep h => h.step hstep) (fun _ h => h.backed) (Registered.empty p) calls

/-- Asking for the accessors of an enumeration by their names gives all that belong to it. -/
theorem Registered.accessorsOf_eq (h : p.Registered env) (hnodup : (env.accessors.map (·.id)).Nodup)
    {t : EnumType} (ht : t ∈ env.enums) : env.accessorsOf t = env.declaredFor t.id := by
  unfold TypeEnv.accessorsOf
  rw [h.listed t ht, List.filterMap_map]
  have hfind : ∀ a ∈ env.declaredFor t.id,
      ((fun name => env.accessor? ⟨t.name, name⟩) ∘ Accessor.name) a = some a := by
    intro a ha
    obtain ⟨hmem, howner⟩ := List.mem_filter.mp ha
    have hid : (⟨t.name, a.name⟩ : AccessorId) = a.id := by
      have howner := (of_decide_eq_true howner).symm.trans (h.owned a hmem).1
      rw [EnumType.name, howner]
      rfl
    exact (congrArg env.accessor? hid).trans (Keyed.find?_key hnodup hmem)
  rw [List.filterMap_congr hfind, List.filterMap_some]

end Plan

end LookupEnums
