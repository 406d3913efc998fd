import LookupEnums.Proofs.Compile.Meaning
import LookupEnums.Proofs.Compile.Templates
import LookupEnums.Proofs.Loading
import LookupEnums.Proofs.Text.Separator
import LookupEnums.Source.Layout

/-! # Casts and switches

An integral key that stands by itself is read by a cast and not by a switch over the members. With the
template that is nothing but the place of the key the same column has a switch. Both give the constant
that the enumeration declares for a member, but for the key null: the cast yields the default that is
declared for it and counts no member as missing, while the switch has no case and does.
-/
namespace LookupEnums
open Compile Source Text

namespace Source

theorem isValueKind_of_isIntegral {name : String} (h : isIntegral name = true) :
    isValueKind name = true := by
  have hall : ∀ n ∈ integralKinds, isValueKind n = true := by decide
  exact hall name (by simpa [isIntegral] using h)

theorem hasConstants_of_isIntegral {t : EnumType} {keyType : String} (ht : t.keyType = some keyType)
    (h : isIntegral keyType = true) : hasConstants t = true := by
  unfold hasConstants
  rw [ht]
  split
  · rfl
  · rfl
  next hsome => exact Option.some.inj hsome ▸ h

theorem literal_of_isNull {v : Value} (h : v.isNull = true) (expected : String) :
    literal v expected = "default(" ++ expected ++ ")" := by
  cases v with
  | null =>
    have hchars : literalChars expected .null =
        "default(".toList ++ expected.toList ++ ")".toList := rfl
    rw [literal, hchars]
    simp only [String.ofList_append, String.ofList_toList]
  | _ => cases h

theorem accessorHead_congr {a b : Accessor} (hid : a.id = b.id) (howner : a.owner = b.owner)
    (hreturns : a.returns = b.returns) : accessorHead a = accessorHead b := by
  unfold accessorHead Accessor.name
  rw [hid, howner, hreturns]

end Source

namespace ColumnMapping

theorem render_placeholder {c : ColumnMapping} (h : c.template = some c.placeholder) (literal : String) :
    c.render literal = literal := by
  have hne : c.placeholderChars ≠ [] := List.cons_ne_nil _ _
  have htext : c.placeholder.toList = c.placeholderChars := String.toList_ofList
  unfold render
  rw [h]
  simp only [htext, replaceAll_self hne, String.ofList_toList]

end ColumnMapping

namespace EnumType

def constant? (t : EnumType) (member : String) : Option String :=
  if hasConstants t then (t.members.find? (·.name = member)).map (·.literal) else none

theorem constant?_eq {t : EnumType} (h : hasConstants t = true) (hnodup : t.memberNames.Nodup)
    {member : Member} (hmem : member ∈ t.members) : t.constant? member.name = some member.literal := by
  rw [constant?, if_pos h, Keyed.find?_key hnodup hmem]
  rfl

end EnumType

namespace Accessor

/-- A cast yields the constant of a member, a switch what stands in the case of the member. -/
def yield? (a : Accessor) (t : EnumType) (member : String) : Option String :=
  if a.coercion then t.constant? member else a.cases.lookup member

theorem yield?_cast {a : Accessor} (h : a.coercion = true) (t : EnumType) (member : String) :
    a.yield? t member = t.constant? member := if_pos h

theorem yield?_switch {a : Accessor} (h : a.coercion = false) (t : EnumType) (member : String) :
    a.yield? t member = a.cases.lookup member := by
  rw [yield?, h]
  rfl

end Accessor

namespace TypeEnv
variable {env : TypeEnv} {a : Accessor} {t : EnumType}

theorem missing_cast (h : a.coercion = true) : env.missing a = [] := if_pos h

theorem mem_missing_switch (h : a.coercion = false) (ht : env.enum? a.owner = some t) {member : String} :
    member ∈ env.missing a ↔ member ∈ t.memberNames ∧ a.yield? t member = none := by
  simp [missing, Accessor.yield?, h, ht]

end TypeEnv

/-- How a cast in one environment and a switch in another read the key of the same enumeration. -/
structure CastAndSwitch (env env' : TypeEnv) (t : EnumType) (keyType : String) (cast switch : Accessor) :
    Prop where
  coercion : cast.coercion = true ∧ switch.coercion = false
  /-- But for what they do the two are alike. -/
  head : accessorHead switch = accessorHead cast
  body : ∀ depth, accessorBody depth cast = [⟨depth, "return (" ++ keyType ++ ")value;"⟩]
  declared : ∀ member ∈ t.members,
    memberText t member = member.name ++ " = " ++ member.literal ++ ","
  present : ∀ member ∈ t.members, member.raw.isNull = false →
    (cast.yield? t member.name = some member.literal ∧ member.name ∉ env.missing cast) ∧
    (switch.yield? t member.name = some member.literal ∧ member.name ∉ env'.missing switch)
  null : ∀ member ∈ t.members, member.raw.isNull = true →
    (cast.yield? t member.name = some ("default(" ++ keyType ++ ")") ∧ member.name ∉ env.missing cast) ∧
    (switch.yield? t member.name = none ∧ member.name ∈ env'.missing switch)

namespace Plan
variable {p : Plan} {m : TableMapping} {d : TableData} {c : ColumnMapping} {keyType : StorageType}
  {r : ResultSet} {s s' : Session}

def spelled (t : String) (c : ColumnMapping) (u : String) (b : ColumnMapping) : Option String :=
  if u = t ∧ b = c then some b.placeholder else b.template

theorem directCase?_fst {name : String} (row : Row) (e : String × String)
    (h : p.directCase? m c name row = some e) : e.1 = row.memberName := by
  obtain ⟨raw, -, hcase⟩ := Option.bind_eq_some_iff.mp h
  obtain ⟨expression, -, rfl⟩ := Option.map_eq_some_iff.mp hcase
  rfl

/-- A member has the case of its row. -/
theorem lookup_directCases (hnames : (d.rows.map Row.memberName).Nodup) (hc : m.coerces d c = false)
    {row : Row} (hrow : row ∈ d.rows) : (p.directCases m d c).lookup row.memberName =
      (p.directCase? m c (d.returnName c) row).map (·.2) := by
  unfold directCases casesOver
  rw [hc, if_neg Bool.false_ne_true]
  exact Keyed.lookup_filterMap directCase?_fst hnames hrow

/-- What is read off a key of its own integral type, unless it is null. -/
theorem directCase?_key {row : Row} (hcell : row.cells.lookup c.column = some row.key)
    (htemplate : c.template = some c.placeholder) (houtside : p.maps keyType.name = false)
    (hintegral : keyType.isIntegral = true) : p.directCase? m c keyType.name row =
      if row.key.isNull then none else some (row.memberName, literal row.key keyType.name) := by
  have hkind : isValueKind keyType.name = true := isValueKind_of_isIntegral hintegral
  unfold directCase? directExpression?
  rw [hcell, Option.bind_some, houtside, hkind, ColumnMapping.render_placeholder htemplate]
  cases row.key.isNull <;> rfl

/-- A column of a plan that compiles, in the environment. -/
theorem column_of_compile (hw : ∀ m ∈ p.mappings, m.WellFormed) (hrun : p.compile = .ok () s)
    (hm : m ∈ p.mappings) (hdata : m.data = some d) (hc : c ∈ m.columns) :
    p.Fits m d ∧ s.env.enum? m.typeId = m.directEnum? ∧
      s.env.accessor? (m.accessorId c) = some ((p.finalDraft m d).accessor m d c) := by
  obtain ⟨hinv, hall⟩ := finished_of_compile hw hrun
  have hdone := hall m hm
  have hfits := (hinv.compilable m hm hdone).fits hdata
  refine ⟨hfits, hinv.enum?_eq hm hdone, ?_⟩
  exact (hinv.accessor?_eq_some (hw m hm) hm hdone).mpr
    ⟨c, hc, rfl, directAccessor?_eq hdata (hfits.columns c hc)⟩

theorem lookup_key (hload : Loading.dataOf m r = .ok d) (hc : c ∈ m.columns) (hcolumn : c.column = m.key)
    {row : Row} (hrow : row ∈ d.rows) : row.cells.lookup c.column = some row.key := by
  obtain ⟨cells, -, hkeeps⟩ := Loading.exists_keeps hload hrow
  rw [(hkeeps.mapped c hc).2, hcolumn]
  exact hkeeps.key

theorem returnName_key (hcolumn : c.column = m.key) (hreturns : c.returns = none)
    (hkey : d.storageType? m.key = some keyType) : d.returnName c = keyType.name := by
  rw [TableData.returnName_eq (hcolumn ▸ hkey), ColumnMapping.returnName, hreturns]
  rfl

theorem returns_outside (hname : d.returnName c = keyType.name) (houtside : p.maps keyType.name = false) :
    ((p.finalDraft m d).accessor m d c).returns = TypeEnv.nodeAt .external keyType.name := by
  change TypeEnv.nodeAt (p.directStage (d.returnName c)) (d.returnName c) = _
  rw [hname, directStage, houtside]
  rfl

/-- A switch over the keys of a table has the literal of each but null. -/
theorem lookup_keyCases (hnames : (d.rows.map Row.memberName).Nodup) (hswitch : m.coerces d c = false)
    (hcells : ∀ row ∈ d.rows, row.cells.lookup c.column = some row.key)
    (htemplate : c.template = some c.placeholder) (hname : d.returnName c = keyType.name)
    (houtside : p.maps keyType.name = false) (hintegral : keyType.isIntegral = true) :
    ∀ member ∈ d.rows.map (memberOf keyType.name), (p.directCases m d c).lookup member.name =
      if member.raw.isNull then none else some member.literal := by
  intro member hmem
  obtain ⟨row, hrow, rfl⟩ := List.mem_map.mp hmem
  have hcase := lookup_directCases (p := p) hnames hswitch hrow
  rw [hname, directCase?_key (hcells row hrow) htemplate houtside hintegral] at hcase
  refine hcase.trans ?_
  change _ = if row.key.isNull then none else some (literal row.key keyType.name)
  cases row.key.isNull <;> rfl

/-- A cast and a switch over the same members, when the switch has the literal of each key but null. -/
theorem castAndSwitch {env env' : TypeEnv} {cast switch : Accessor} {t : EnumType}
    (hnames : t.memberNames.Nodup) (ht : t.keyType = some keyType.name)
    (hintegral : keyType.isIntegral = true)
    (hliteral : ∀ member ∈ t.members, member.literal = literal member.raw keyType.name)
    (hcast : cast.coercion = true) (hswitch : switch.coercion = false)
    (hid : switch.id = cast.id) (howner : switch.owner = cast.owner)
    (hreturns : switch.returns = TypeEnv.nodeAt .external keyType.name ∧
      cast.returns = TypeEnv.nodeAt .external keyType.name)
    (henum : env'.enum? switch.owner = some t)
    (hcases : ∀ member ∈ t.members, switch.cases.lookup member.name =
      if member.raw.isNull then none else some member.literal) :
    CastAndSwitch env env' t keyType.name cast switch := by
  have hconstants : hasConstants t = true := hasConstants_of_isIntegral ht hintegral
  have hyield : ∀ member ∈ t.members, cast.yield? t member.name = some member.literal := by
    intro member hmem
    rw [Accessor.yield?_cast hcast, EnumType.constant?_eq hconstants hnames hmem]
  have hlisted : ∀ member, member ∉ env.missing cast := by
    intro member
    rw [TypeEnv.missing_cast hcast]
    exact List.not_mem_nil
  have hmissing : ∀ member ∈ t.members,
      (member.name ∈ env'.missing switch ↔ switch.yield? t member.name = none) := by
    intro member hmem
    rw [TypeEnv.mem_missing_switch hswitch henum]
    exact and_iff_right (List.mem_map_of_mem hmem)
  constructor
  · exact ⟨hcast, hswitch⟩
  · exact accessorHead_congr hid howner (hreturns.1.trans hreturns.2.symm)
  · intro depth
    rw [accessorBody, if_pos hcast, hreturns.2]
    rfl
  · intro member _
    rw [memberText, if_pos hconstants]
  · intro member hmem hsome
    have hcase : switch.yield? t member.name = some member.literal := by
      rw [Accessor.yield?_switch hswitch, hcases member hmem, hsome]
      rfl
    refine ⟨⟨hyield member hmem, hlisted _⟩, hcase, ?_⟩
    rw [hmissing member hmem, hcase]
    exact Option.some_ne_none _
  · intro member hmem hnull
    have hcase : switch.yield? t member.name = none := by
      rw [Accessor.yield?_switch hswitch, hcases member hmem, if_pos hnull]
    refine ⟨⟨?_, hlisted _⟩, hcase, (hmissing member hmem).mpr hcase⟩
    rw [hyield member hmem, hliteral member hmem, literal_of_isNull hnull]

/-- The plan in which a column has the template that is nothing but the place of the literal. -/
def spell (p : Plan) (t : String) (c : ColumnMapping) : Plan :=
  p.retemplate (spelled t c)

theorem spelled_self (c : ColumnMapping) (t : String) :
    (c.retemplate (spelled t c t)).template = some c.placeholder := by
  simp [ColumnMapping.retemplate, spelled]

/-- Where only the plain key loses its cast, all cells fit. -/
theorem compiles_spell (hw : ∀ m ∈ p.mappings, m.WellFormed) (hm : m ∈ p.mappings)
    (hload : Loading.dataOf m r = .ok d) (hdata : m.data = some d) (hc : c ∈ m.columns)
    (hcolumn : c.column = m.key) (houtside : p.maps (d.returnName c) = false)
    (hrun : p.compile = .ok () s) : ∃ s', (p.spell m.typeName c).compile = .ok () s' := by
  refine compiles_retemplate hw ?_ ⟨s, hrun⟩
  intro n hn e he b hb hcoerces htemplate row hrow
  have hplain : b.template = none := (TableMapping.coerces_iff.mp hcoerces).2.1
  have hchosen : n.typeName = m.typeName ∧ b = c := by
    by_contra hother
    rw [spelled, if_neg hother, hplain] at htemplate
    cases htemplate
  obtain ⟨htype, rfl⟩ := hchosen
  obtain rfl := mappings_ext hm hn htype
  obtain rfl := Option.some.inj (hdata.symm.trans he)
  refine ⟨row.key, lookup_key hload hc hcolumn hrow, fun hmaps => ?_⟩
  rw [houtside] at hmaps
  cases hmaps

/-- The key of a table that is integral and stands by itself, where no table is mapped to its type. A
cast and a switch read it alike, except for the key null. -/
theorem cast_or_switch (hw : ∀ m ∈ p.mappings, m.WellFormed) (hm : m ∈ p.mappings) (hc : c ∈ m.columns)
    (hload : Loading.dataOf m r = .ok d) (hdata : m.data = some d) (hcolumn : c.column = m.key)
    (htemplate : c.template = none) (hreturns : c.returns = none)
    (hkey : d.storageType? m.key = some keyType) (hintegral : keyType.isIntegral = true)
    (houtside : p.maps keyType.name = false) (hrun : p.compile = .ok () s) :
    ∃ s' t cast switch, (p.spell m.typeName c).compile = .ok () s' ∧
      s.env.enum? m.typeId = some t ∧ s'.env.enum? m.typeId = some t ∧
      s.env.accessor? (m.accessorId c) = some cast ∧ s'.env.accessor? (m.accessorId c) = some switch ∧
      t.members = d.rows.map (memberOf keyType.name) ∧
      CastAndSwitch s.env s'.env t keyType.name cast switch := by
  have hname : d.returnName c = keyType.name := returnName_key hcolumn hreturns hkey
  obtain ⟨s', hrun'⟩ := compiles_spell hw hm hload hdata hc hcolumn (hname ▸ houtside) hrun
  -- the table and its column in the other plan
  let m' := m.retemplate (spelled m.typeName c m.typeName)
  let c' := c.retemplate (spelled m.typeName c m.typeName)
  have hm' : m' ∈ (p.spell m.typeName c).mappings := mem_mappings_retemplate.mpr ⟨m, hm, rfl⟩
  have hc' : c' ∈ m'.columns := TableMapping.mem_columns_retemplate.mpr ⟨c, hc, rfl⟩
  have houtside' : (p.spell m.typeName c).maps keyType.name = false := by
    rw [spell, maps_retemplate, houtside]
  obtain ⟨hfits, henum, haccessor⟩ := column_of_compile hw hrun hm hdata hc
  obtain ⟨-, henum', haccessor'⟩ := column_of_compile (wellFormed_retemplate hw) hrun' hm' hdata hc'
  rw [directEnum?_eq hdata hkey] at henum
  rw [TableMapping.directEnum?_retemplate, directEnum?_eq (p := p) hdata hkey] at henum'
  have hspelled : c'.template = some c'.placeholder := spelled_self c m.typeName
  have hcast : m.coerces d c = true :=
    TableMapping.coerces_iff.mpr ⟨hcolumn, htemplate, hreturns, keyType, hkey, hintegral⟩
  have hswitch : m'.coerces d c' = false := by
    rw [Bool.eq_false_iff]
    intro hcoerces
    rw [(TableMapping.coerces_iff.mp hcoerces).2.1] at hspelled
    cases hspelled
  have hnames : ((p.finalDraft m d).enum m keyType).memberNames = d.rows.map Row.memberName :=
    List.map_map
  refine ⟨s', _, _, _, hrun', henum, henum', haccessor, haccessor', rfl, ?_⟩
  refine castAndSwitch (hnames ▸ hfits.rows.names) rfl hintegral ?_ hcast hswitch rfl rfl
    ⟨returns_outside hname houtside', returns_outside hname houtside⟩ henum' ?_
  · intro member hmem
    obtain ⟨row, -, rfl⟩ := List.mem_map.mp hmem
    rfl
  · exact lookup_keyCases hfits.rows.names hswitch (fun row hrow => lookup_key hload hc hcolumn hrow)
      hspelled hname houtside' hintegral

def lotId : ColumnMapping := ⟨"lot", "id", "Id", none, none⟩

def lotRows : ResultSet where
  table := "lot"
  columns := [("id", ⟨"int", true⟩), ("name", ⟨"string", false⟩)]
  rows := [[("id", .null), ("name", .text "None")], [("id", .int 7), ("name", .text "Seven")]]

def lotData : TableData where
  table := "lot"
  columns := lotRows.columns
  rows := [⟨.null, .text "None", [("id", .null)]⟩, ⟨.int 7, .text "Seven", [("id", .int 7)]⟩]

def lot : TableMapping where
  table := "lot"
  typeName := "Lot"
  key := "id"
  label := "name"
  columns := [lotId]
  attributes := []
  data := some lotData

def lots : Plan where
  mappings := [lot]
  distinct := by decide

theorem cast_or_switch_lots : ∃ s s' t cast switch, lots.compile = .ok () s ∧
    (lots.spell "Lot" lotId).compile = .ok () s' ∧ t.members.map (·.raw.isNull) = [true, false] ∧
    CastAndSwitch s.env s'.env t "int" cast switch := by
  obtain ⟨s, hrun⟩ := compiles_iff.mp (by decide +kernel : lots.compiles = true)
  have hm : lot ∈ lots.mappings := List.mem_cons_self
  have hc : lotId ∈ lot.columns := List.mem_cons_self
  have hload : Loading.dataOf lot lotRows = .ok lotData := rfl
  have hkey : lotData.storageType? lot.key = some ⟨"int", true⟩ := rfl
  obtain ⟨s', t, cast, switch, hrun', -, -, -, -, hmembers, hagree⟩ :=
    cast_or_switch (by decide) hm hc hload rfl rfl rfl rfl hkey (by decide) (by decide) hrun
  exact ⟨s, s', t, cast, switch, hrun, hrun', by rw [hmembers]; rfl, hagree⟩

/-- The lot without a number is a constant to the cast and nothing to the switch. -/
theorem cast_and_switch_lots : ∃ s s' t cast switch, lots.compile = .ok () s ∧
    (lots.spell "Lot" lotId).compile = .ok () s' ∧
    s.env.enum? lot.typeId = some t ∧ s'.env.enum? lot.typeId = some t ∧
    s.env.accessor? (lot.accessorId lotId) = some cast ∧
    s'.env.accessor? (lot.accessorId lotId) = some switch ∧
    ∃ member ∈ t.members,
      ¬ ((cast.yield? t member.name = none ∧ member.name ∈ s.env.missing cast ∧
          switch.yield? t member.name = none ∧ member.name ∈ s'.env.missing switch) ∨
        ∃ constant, cast.yield? t member.name = some constant ∧
          switch.yield? t member.name = some constant) := by
  refine ⟨_, _, _, _, _, rfl, rfl, rfl, rfl, rfl, rfl, _, List.mem_cons_self, ?_⟩
  rintro (⟨hcast, -⟩ | ⟨constant, -, hswitch⟩)
  · exact Option.some_ne_none _ hcast
  · exact Option.some_ne_none _ hswitch.symm

end Plan

end LookupEnums
