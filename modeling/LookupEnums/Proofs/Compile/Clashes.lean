import LookupEnums.Proofs.Compile.Denoting
import LookupEnums.Proofs.Source.Grouping
import LookupEnums.Proofs.Text.Unbroken

/-! # Types that go by one name

No two tables are mapped to one type, so no two enumerations have one name in one namespace, and
neither have two classes of accessors. The names of these classes are compared to nothing, and one
of them may be the name of an enumeration.
-/
namespace LookupEnums
open Compile Source Text

namespace Source

def Declaration.typeName : Declaration → String
  | enumeration name => name
  | extensions owner => owner

/-- The one is the class of the accessors of a type, and the other an enumeration of its name. -/
def Declaration.Clash : Declaration → Declaration → Prop
  | extensions owner, enumeration name => name = owner ++ "Extensions"
  | _, _ => False

/-- Two declarations have one name in one namespace exactly if they clash. -/
theorem place_eq_iff {d e : Declaration} (hd : Field.isDottedIdentifier d.typeName.toList = true)
    (he : Field.isDottedIdentifier e.typeName.toList = true) (hne : d ≠ e) :
    d.place = e.place ↔ d.Clash e ∨ e.Clash d := by
  have hplain : '.' ∉ "Extensions".toList := by decide
  have hsame : ∀ {a b : String}, Field.isDottedIdentifier a.toList = true →
      Field.isDottedIdentifier b.toList = true → namespaceOf a = namespaceOf b →
      shortName a = shortName b → a = b := by
    intro a b ha hb hspace hshort
    rw [dotted_eq ha, dotted_eq hb, hspace, hshort]
  cases d with
  | enumeration a =>
    cases e with
    | enumeration b =>
      simp only [Declaration.place, Declaration.Clash, Prod.mk.injEq, or_self, iff_false]
      exact fun h => hne (congrArg _ (hsame hd he h.1 h.2))
    | extensions b =>
      simp only [Declaration.place, Declaration.Clash, Prod.mk.injEq, false_or]
      exact (eq_append_iff he hd hplain).symm
  | extensions a =>
    cases e with
    | enumeration b =>
      simp only [Declaration.place, Declaration.Clash, Prod.mk.injEq, or_false]
      exact (and_congr eq_comm eq_comm).trans (eq_append_iff hd he hplain).symm
    | extensions b =>
      simp only [Declaration.place, Declaration.Clash, Prod.mk.injEq, or_self, iff_false]
      rintro ⟨hspace, hshort⟩
      exact hne (congrArg _ (hsame hd he hspace ((String.append_left_inj _).mp hshort)))

theorem blank_not_mem_shortName {name : String} (h : Field.isDottedIdentifier name.toList = true) :
    ' ' ∉ (shortName name).toList := by
  intro hblank
  rw [shortName, String.toList_ofList] at hblank
  have hchar := isNameChar_of_isDottedIdentifier h ' ' ((cutLast_subset _ _).2 hblank)
  exact absurd hchar (by decide)

section
variable {env : TypeEnv}

theorem mem_declarations_iff {d : Declaration} : d ∈ declarations env ↔
    ∃ t ∈ env.internalTypes, d = .enumeration t.name ∨
      env.accessorsOf t ≠ [] ∧ d = .extensions t.name := by
  rw [declarations_eq, List.mem_flatMap]
  refine exists_congr fun t => and_congr_right fun _ => ?_
  rw [declarationsOf, List.mem_cons]
  refine or_congr_right ?_
  cases env.accessorsOf t <;> simp

/-- Nothing clashes unless a type is named after the class of the accessors of another. -/
theorem forall_not_clash_iff :
    (∀ d ∈ declarations env, ∀ e ∈ declarations env, ¬ d.Clash e) ↔
      ∀ t ∈ env.internalTypes, env.accessorsOf t ≠ [] →
        ∀ u ∈ env.internalTypes, u.name ≠ t.name ++ "Extensions" := by
  constructor
  · intro hnone t ht haccessors u hu hname
    have hd : Declaration.extensions t.name ∈ declarations env :=
      mem_declarations_iff.mpr ⟨t, ht, Or.inr ⟨haccessors, rfl⟩⟩
    have he : Declaration.enumeration u.name ∈ declarations env :=
      mem_declarations_iff.mpr ⟨u, hu, Or.inl rfl⟩
    exact hnone _ hd _ he hname
  · intro hnone d hd e he hclash
    obtain ⟨t, ht, rfl | ⟨haccessors, rfl⟩⟩ := mem_declarations_iff.mp hd
    · cases hclash
    · obtain ⟨u, hu, rfl | ⟨-, rfl⟩⟩ := mem_declarations_iff.mp he
      · exact hnone t ht haccessors u hu hclash
      · cases hclash

theorem not_clash_self (d : Declaration) : ¬ d.Clash d := by
  cases d <;> exact id

/-- Distinct types have distinct declarations. -/
theorem nodup_declarations (h : (env.internalTypes.map (·.name)).Nodup) : (declarations env).Nodup := by
  have htypeName : ∀ t, ∀ d ∈ declarationsOf env t, d.typeName = t.name := by
    intro t d hd
    rcases List.mem_cons.mp hd with rfl | hd
    · rfl
    · split at hd
      · cases hd
      · obtain rfl := List.mem_singleton.mp hd
        rfl
  refine List.nodup_flatMap.mpr ⟨fun t _ => ?_, (List.pairwise_map.mp h).imp ?_⟩
  · cases (env.accessorsOf t).isEmpty <;> simp
  · intro t u hne
    exact List.disjoint_left.mpr fun d hd hd' =>
      hne ((htypeName t d hd).symm.trans (htypeName u d hd'))

/-- What is read off the source is what is declared. -/
theorem declaredOn_perm (hnames : ∀ t ∈ env.internalTypes, ' ' ∉ (shortName t.name).toList) :
    (declaredOn "" (sourceLines env)).Perm ((declarations env).map Declaration.place) := by
  have hgrouped := (perm_flatMap_typesIn env.internalTypes).flatMap_right
    fun t => (declarationsOf env t).map Declaration.place
  rw [List.flatMap_assoc] at hgrouped
  rw [declaredOn_sourceLines hnames, declarations_eq, List.map_flatMap]
  exact hgrouped

end

end Source

namespace Plan
variable {p : Plan} {s : Session}

theorem Admits.nodup_internalTypes {env : TypeEnv} (h : p.Admits env) :
    (env.internalTypes.map (·.name)).Nodup := by
  have hstage : ∀ (entry : String × Stage) (n : String),
      (if entry.2 = .internal then some entry.1 else none) = some n → id n = entry.1 := by
    intro entry n hn
    split at hn <;> cases hn
    rfl
  have henum : ∀ (n : String) (t : EnumType), env.enum? ⟨n, none⟩ = some t → t.name = id n := by
    intro n t ht
    have hid : t.id = ⟨n, none⟩ := by simpa using List.find?_some ht
    exact congrArg TypeId.name hid
  have hnames : env.internalNames.Nodup := by
    rw [← List.map_id env.internalNames]
    exact h.stages.sublist (Keyed.sublist_map_filterMap hstage env.stages)
  refine List.Nodup.sublist (Keyed.sublist_map_filterMap henum env.internalNames) ?_
  rwa [List.map_id]

theorem Admits.isDottedIdentifier {env : TypeEnv} (h : p.Admits env)
    (hnamed : ∀ m ∈ p.mappings, m.Named) :
    ∀ t ∈ env.internalTypes, Field.isDottedIdentifier t.name.toList = true := by
  intro t ht
  obtain ⟨m, hm, hname⟩ := h.exists_mapping ht
  exact hname ▸ (hnamed m hm).typeName

/-- What the source of a compilation that succeeds declares: each enumeration, and the class of the
accessors of each that has any. Two of them have one name in one namespace exactly if the one is the
class of the accessors of a type and the other the enumeration named after that class; so without
such a type all names in a namespace are distinct. -/
theorem declared_distinct_iff (hw : ∀ m ∈ p.mappings, m.WellFormed) (hnamed : ∀ m ∈ p.mappings, m.Named)
    (h : p.compile = .ok () s) :
    (declaredOn "" (sourceLines s.env)).Perm ((declarations s.env).map Declaration.place) ∧
    (declarations s.env).Nodup ∧
    (∀ d ∈ declarations s.env, ∀ e ∈ declarations s.env, d ≠ e →
      (d.place = e.place ↔ d.Clash e ∨ e.Clash d)) ∧
    ((declaredOn "" (sourceLines s.env)).Nodup ↔
      ∀ t ∈ s.env.internalTypes, s.env.accessorsOf t ≠ [] →
        ∀ u ∈ s.env.internalTypes, u.name ≠ t.name ++ "Extensions") := by
  obtain ⟨hinv, -⟩ := finished_of_compile hw h
  have hdotted := hinv.admits.isDottedIdentifier hnamed
  have hnodup := nodup_declarations hinv.admits.nodup_internalTypes
  have hperm := declaredOn_perm fun t ht => blank_not_mem_shortName (hdotted t ht)
  have hplaces : ∀ d ∈ declarations s.env, ∀ e ∈ declarations s.env, d ≠ e →
      (d.place = e.place ↔ d.Clash e ∨ e.Clash d) := by
    have htype : ∀ d ∈ declarations s.env, Field.isDottedIdentifier d.typeName.toList = true := by
      intro d hd
      obtain ⟨t, ht, rfl | ⟨-, rfl⟩⟩ := mem_declarations_iff.mp hd
      · exact hdotted t ht
      · exact hdotted t ht
    exact fun d hd e he hne => place_eq_iff (htype d hd) (htype e he) hne
  refine ⟨hperm, hnodup, hplaces, ?_⟩
  rw [hperm.nodup_iff, List.nodup_map_iff_inj_on hnodup, ← forall_not_clash_iff]
  constructor
  · intro hinjective d hd e he hclash
    have hne : d ≠ e := fun heq => not_clash_self e (heq ▸ hclash)
    exact hne (hinjective d hd e he ((hplaces d hd e he hne).mpr (Or.inl hclash)))
  · intro hnone d hd e he hplace
    by_contra hne
    exact ((hplaces d hd e he hne).mp hplace).elim (hnone d hd e he) (hnone e he d hd)

theorem declared_distinct_garage : ∃ s, garage.compile = .ok () s ∧
    (declaredOn "" (sourceLines s.env)).Nodup := by
  obtain ⟨s, hs⟩ := compiles_iff.mp garage_compiles
  obtain ⟨-, -, -, hiff⟩ := declared_distinct_iff (by decide) (by decide) hs
  refine ⟨s, hs, hiff.mpr fun t ht _ u hu hname => ?_⟩
  have hother : ∀ m ∈ garage.mappings, ∀ n ∈ garage.mappings,
      n.typeName ≠ m.typeName ++ "Extensions" := by
    decide
  have hadmits := (finished_of_compile (by decide) hs).1.admits
  obtain ⟨m, hm, ht⟩ := hadmits.exists_mapping ht
  obtain ⟨n, hn, hu⟩ := hadmits.exists_mapping hu
  exact hother m hm n hn (hu ▸ ht ▸ hname)

def suffixed : Plan where
  mappings := [
    { table := "lamp"
      typeName := "Lamp"
      key := "id"
      label := "name"
      columns := [⟨"lamp", "note", "Note", none, none⟩]
      attributes := []
      data := some ⟨"lamp", [("id", ⟨"int", false⟩), ("note", ⟨"string", false⟩)],
        [⟨.int 1, .text "red", [("note", .text "stop")]⟩]⟩ },
    { table := "extension"
      typeName := "LampExtensions"
      key := "id"
      label := "name"
      columns := []
      attributes := []
      data := some ⟨"extension", [("id", ⟨"int", false⟩)], [⟨.int 1, .text "cord", []⟩]⟩ }]
  distinct := by decide

/-- The class and the enumeration have one name. -/
theorem suffixed_clash : (∀ m ∈ suffixed.mappings, m.WellFormed ∧ m.Named) ∧
    ∃ s, suffixed.compile = .ok () s ∧
      declaredOn "" (sourceLines s.env) =
        [("", "Lamp"), ("", "LampExtensions"), ("", "LampExtensions")] ∧
      ¬ (declaredOn "" (sourceLines s.env)).Nodup := by
  have hdeclared : (match suffixed.compile with
      | .ok () s => declaredOn "" (sourceLines s.env)
      | .error _ _ => []) = [("", "Lamp"), ("", "LampExtensions"), ("", "LampExtensions")] := by
    decide +kernel
  obtain ⟨s, hs⟩ := compiles_iff.mp (by decide +kernel : suffixed.compiles = true)
  rw [hs] at hdeclared
  change declaredOn "" (sourceLines s.env) = _ at hdeclared
  refine ⟨by decide, s, hs, hdeclared, ?_⟩
  rw [hdeclared]
  decide

end Plan

end LookupEnums
