import LookupEnums.Proofs.Compile.Meaning
import LookupEnums.Proofs.Mapping.Named
import LookupEnums.Proofs.Source.Binding

/-! # Types written within other types

Whether the name of a type is shortened depends on the two types alone. Whether it is understood as
that type depends on all others: on types and namespaces of the same name further in, and on the
accessors beside it.
-/
namespace LookupEnums
open Compile Source

namespace Source
variable {referenced referencing : String}

def baseOf (referenced referencing : String) : List (List Char) :=
  if Encloses referenced referencing then scopeOf referenced else []

/-- The first identifier of the name of a type as written. -/
def leading (referenced referencing : String) : List Char :=
  (path (qualifyType referenced referencing)).headD []

/-- Nothing comes between an enumeration and its name as written within the class of the accessors
of `owner`. -/
def Visible (env : TypeEnv) (owner : EnumType) (name : String) : Prop :=
  Clear (declarations env) (owner.accessorNames.map String.toList) (scopeOf owner.name)
    (baseOf name owner.name) (leading name owner.name) (.enumeration name)

theorem exists_path_eq (h : Field.isDottedIdentifier referenced.toList = true) (referencing : String) :
    ∃ rest, path (qualifyType referenced referencing) = leading referenced referencing :: rest ∧
      path referenced = baseOf referenced referencing ++ leading referenced referencing :: rest := by
  have hwritten := path_qualifyType h referencing
  unfold leading baseOf
  by_cases hencloses : Encloses referenced referencing
  · rw [if_pos hencloses] at hwritten ⊢
    exact ⟨[], by rw [hwritten]; rfl, by rw [hwritten]; exact path_eq referenced⟩
  · rw [if_neg hencloses] at hwritten ⊢
    obtain ⟨x, rest, hpath⟩ := List.exists_cons_of_ne_nil (path_ne_nil referenced)
    exact ⟨rest, by rw [hwritten, hpath]; rfl, by rw [hwritten, hpath]; rfl⟩

theorem baseOf_around (referenced referencing : String) :
    baseOf referenced referencing <+: scopeOf referencing := by
  unfold baseOf
  split
  next hencloses => exact hencloses
  next => exact List.nil_prefix

end Source

namespace Plan
variable {p : Plan} {s : Session}

theorem Admits.exists_mapping {env : TypeEnv} (h : p.Admits env) {t : EnumType}
    (ht : t ∈ env.internalTypes) : ∃ m ∈ p.mappings, t.name = m.typeName := by
  obtain ⟨name, -, hfind⟩ := List.mem_filterMap.mp ht
  obtain ⟨m, hm, hid⟩ := h.enumOf t (List.mem_of_find?_eq_some hfind)
  exact ⟨m, hm, congrArg TypeId.name hid⟩

theorem Admits.exists_internalType {env : TypeEnv} (h : p.Admits env) {name : String}
    (hname : env.stage? name = some .internal) : ∃ t ∈ env.internalTypes, t.name = name := by
  obtain ⟨t, ht⟩ := Option.isSome_iff_exists.mp ((h.internal name).mp hname)
  have hmem : (name, Stage.internal) ∈ env.stages := (Keyed.mem_iff_lookup h.stages).mpr hname
  have hinternal : name ∈ env.internalNames :=
    List.mem_filterMap.mpr ⟨(name, .internal), hmem, if_pos rfl⟩
  have hid : t.id = ⟨name, none⟩ := by simpa using List.find?_some ht
  exact ⟨t, List.mem_filterMap.mpr ⟨name, hinternal, ht⟩, congrArg TypeId.name hid⟩

theorem mem_declarations {env : TypeEnv} {t : EnumType} (ht : t ∈ env.internalTypes) :
    Declaration.enumeration t.name ∈ declarations env :=
  List.mem_flatMap.mpr ⟨t, ht, List.mem_cons_self⟩

/-- An accessor has the name of its owner, and what it returns is internal where a table is mapped to
it. -/
theorem fields_of_direct {a : Accessor} (h : a ∈ p.direct.accessors) :
    a.owner.name = a.id.owner ∧ (a.returns.isInternal = true → p.maps a.returns.name = true) := by
  obtain ⟨m, -, c, -, d, -, -, rfl⟩ := mem_direct_accessors.mp h
  refine ⟨rfl, fun hinternal => ?_⟩
  have hstage : p.directStage (d.returnName c) = .internal := eq_of_beq hinternal
  exact directStage_eq_internal.mp hstage

/-- A mapped type that an accessor returns is understood from its name as written exactly if it is
visible there: the accessors beside it do not go by the first identifier, neither a type nor a
namespace further in does, and from where the name leads to the type no other type stands in the
way. Two types are written alike within a third exactly if they have the same short name and the
namespaces of both are around it. -/
theorem written_denotes_iff (hw : ∀ m ∈ p.mappings, m.WellFormed) (hnamed : ∀ m ∈ p.mappings, m.Named)
    (h : p.compile = .ok () s) :
    (∀ r ∈ s.env.internalTypes, ∀ a ∈ s.env.accessorsOf r, a.returns.isInternal = true →
      returnName a.returns a.owner.name = qualifyType a.returns.name r.name ∧
      (denoted s.env r (qualifyType a.returns.name r.name) =
          some (.type (.enumeration a.returns.name)) ↔
        Visible s.env r a.returns.name)) ∧
    ∀ r ∈ s.env.internalTypes, ∀ t ∈ s.env.internalTypes, ∀ u ∈ s.env.internalTypes, t.name ≠ u.name →
      (qualifyType t.name r.name = qualifyType u.name r.name ↔
        shortName t.name = shortName u.name ∧ Encloses t.name r.name ∧ Encloses u.name r.name) := by
  obtain ⟨hinv, hall⟩ := finished_of_compile hw h
  have hdotted : ∀ t ∈ s.env.internalTypes, Field.isDottedIdentifier t.name.toList = true := by
    intro t ht
    obtain ⟨m, hm, hname⟩ := hinv.admits.exists_mapping ht
    exact hname ▸ (hnamed m hm).typeName
  refine ⟨?_, fun r hr t ht u hu hne => qualifyType_eq_iff (hdotted t ht) (hdotted u hu) hne⟩
  intro r hr a ha hinternal
  obtain ⟨name, -, hfind⟩ := List.mem_filterMap.mp ha
  obtain ⟨howner, hmaps⟩ := fields_of_direct
    ((perm_direct hw h).2.2.mem_iff.mp (List.mem_of_find?_eq_some hfind))
  have hid : a.id = ⟨r.name, name⟩ := by simpa using List.find?_some hfind
  have hstage : s.env.stage? a.returns.name = some .internal := by
    rw [hinv.stage?_of_knows hall (Or.inl (hmaps hinternal)), directStage_eq_internal.mpr (hmaps hinternal)]
  -- the returned type is one of those declared, so the lookup can lead to it
  obtain ⟨t, ht, hreturns⟩ := hinv.admits.exists_internalType hstage
  rw [← hreturns]
  obtain ⟨rest, hwritten, hpath⟩ := exists_path_eq (hdotted t ht) r.name
  refine ⟨?_, ?_⟩
  · rw [returnName, if_pos hinternal, howner, hid, hreturns]
  · rw [denoted, hwritten]
    exact lookup_eq_type_iff (mem_declarations ht) hpath (baseOf_around t.name r.name)

/-- Orders with a currency of the whole firm and one of the sales alone. -/
def currencies : Plan where
  mappings := [
    { table := "order"
      typeName := "Acme.Sales.Order"
      key := "id"
      label := "name"
      columns := [⟨"order", "paid", "Paid", none, some "Acme.Currency"⟩,
        ⟨"order", "bonus", "Bonus", none, some "Acme.Sales.Currency"⟩]
      attributes := []
      data := some ⟨"order", [("id", ⟨"int", false⟩), ("paid", ⟨"int", false⟩), ("bonus", ⟨"int", false⟩)],
        [⟨.int 1, .text "first", [("paid", .int 7), ("bonus", .int 8)]⟩]⟩ },
    { table := "currency"
      typeName := "Acme.Currency"
      key := "id"
      label := "name"
      columns := []
      attributes := []
      data := some ⟨"currency", [("id", ⟨"int", false⟩)], [⟨.int 7, .text "euro", []⟩]⟩ },
    { table := "bonus"
      typeName := "Acme.Sales.Currency"
      key := "id"
      label := "name"
      columns := []
      attributes := []
      data := some ⟨"bonus", [("id", ⟨"int", false⟩)], [⟨.int 8, .text "points", []⟩]⟩ }]
  distinct := by decide

def meanings (env : TypeEnv) : List (String × TypeNode × Option Entity) :=
  env.internalTypes.flatMap fun r => (env.accessorsOf r).map fun a =>
    (r.name, a.returns, denoted env r (qualifyType a.returns.name r.name))

/-- Either currency is understood as that of the sales. -/
theorem exists_accessor_currencies : ∃ s, currencies.compile = .ok () s ∧
    ∀ returned ∈ ["Acme.Currency", "Acme.Sales.Currency"],
      ∃ r ∈ s.env.internalTypes, ∃ a ∈ s.env.accessorsOf r, r.name = "Acme.Sales.Order" ∧
        a.returns = TypeEnv.nodeAt .internal returned ∧
        denoted s.env r (qualifyType a.returns.name r.name) =
          some (.type (.enumeration "Acme.Sales.Currency")) := by
  have hmeanings : (match currencies.compile with
      | .ok () s => meanings s.env
      | .error _ _ => []) =
        ["Acme.Currency", "Acme.Sales.Currency"].map fun returned =>
          ("Acme.Sales.Order", TypeEnv.nodeAt .internal returned,
            some (.type (.enumeration "Acme.Sales.Currency"))) := by
    decide +kernel
  have hcompiles : currencies.compiles = true := by decide +kernel
  obtain ⟨s, hs⟩ := compiles_iff.mp hcompiles
  rw [hs] at hmeanings
  refine ⟨s, hs, fun returned hreturned => ?_⟩
  have hmem := List.mem_map_of_mem (f := fun returned => ("Acme.Sales.Order",
    TypeEnv.nodeAt .internal returned, some (Entity.type (.enumeration "Acme.Sales.Currency")))) hreturned
  rw [← hmeanings] at hmem
  obtain ⟨r, hr, hmem⟩ := List.mem_flatMap.mp hmem
  obtain ⟨a, ha, hentry⟩ := List.mem_map.mp hmem
  obtain ⟨hname, hreturns, hdenoted⟩ := Prod.mk.inj hentry |>.imp_right Prod.mk.inj
  exact ⟨r, hr, a, ha, hname, hreturns, hdenoted⟩

theorem written_denotes_currencies : ∃ s, currencies.compile = .ok () s ∧
    ∃ r ∈ s.env.internalTypes, Visible s.env r "Acme.Sales.Currency" := by
  obtain ⟨s, hs, hall⟩ := exists_accessor_currencies
  obtain ⟨r, hr, a, ha, -, hreturns, hdenoted⟩ := hall "Acme.Sales.Currency" (by simp)
  have hiff := (written_denotes_iff (by decide) (by decide) hs).1 r hr a ha (by rw [hreturns]; rfl)
  rw [hreturns] at hiff hdenoted
  exact ⟨s, hs, r, hr, hiff.2.mp hdenoted⟩

/-- The one currency is written like the other and understood as it. -/
theorem written_clash_currencies :
    (∀ m ∈ currencies.mappings, m.WellFormed ∧ m.Named) ∧ ∃ s, currencies.compile = .ok () s ∧
    ∃ r ∈ s.env.internalTypes, ∃ a ∈ s.env.accessorsOf r, a.returns.isInternal = true ∧
      a.returns.name = "Acme.Currency" ∧
      qualifyType "Acme.Currency" r.name = qualifyType "Acme.Sales.Currency" r.name ∧
      denoted s.env r (qualifyType "Acme.Currency" r.name) ≠ some (.type (.enumeration "Acme.Currency")) := by
  obtain ⟨s, hs, hall⟩ := exists_accessor_currencies
  obtain ⟨r, hr, a, ha, hname, hreturns, hdenoted⟩ := hall "Acme.Currency" (by simp)
  rw [hreturns] at hdenoted
  refine ⟨by decide, s, hs, r, hr, a, ha, by rw [hreturns]; rfl, by rw [hreturns]; rfl, ?_, ?_⟩
  · rw [hname]
    decide
  · change denoted s.env r (qualifyType "Acme.Currency" r.name) = _ at hdenoted
    rw [hdenoted]
    decide

end Plan

end LookupEnums
