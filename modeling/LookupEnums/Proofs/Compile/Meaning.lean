import LookupEnums.Proofs.Compile.Requiring

/-! # What a compilation yields

The environment of a compilation that succeeds is the direct one, whatever the order in which the
tables came and asked for each other: the same names, types and accessors, in the order in which
they arrived.
-/
namespace LookupEnums
open Compile Source

namespace Plan
variable {p : Plan} {m : TableMapping} {d : TableData} {keyType : StorageType} {s : Session}

/-- The case of a row for a column that returns `name`: none for a null that is refused, the literal
of the cell where no table is mapped to the name, and elsewhere the member of the one row whose key
the cell is. -/
inductive CaseOf (p : Plan) (m : TableMapping) (c : ColumnMapping) (name : String) (row : Row) :
    Option (String × String) → Prop
  | refused {raw : Value} (cell : row.cells.lookup c.column = some raw) (null : raw.isNull = true)
      (refuses : p.maps name = true ∨ isValueKind name = true) : CaseOf p m c name row none
  | outside {raw : Value} (cell : row.cells.lookup c.column = some raw) (mapped : p.maps name = false)
      (accepts : raw.isNull = false ∨ isValueKind name = false) :
      CaseOf p m c name row (some (row.memberName, c.render (literal raw name)))
  | inside {raw : Value} {target : Row} (cell : row.cells.lookup c.column = some raw)
      (mapped : p.maps name = true) (present : raw.isNull = false)
      (unique : p.rowsUnder name raw = [target]) :
      CaseOf p m c name row
        (some (row.memberName, c.render (qualify name m.typeName target.memberName)))

/-- In a compilable table a key is that of one row at most. -/
theorem Compilable.rowsUnder_eq (h : p.Compilable m) (hm : m ∈ p.mappings) {raw : Value}
    (hsome : p.rowsUnder m.typeName raw ≠ []) : ∃ target, p.rowsUnder m.typeName raw = [target] := by
  obtain ⟨hdata, hfits, -⟩ := h
  obtain ⟨target, htarget⟩ := List.exists_mem_of_ne_nil _ hsome
  unfold rowsUnder at htarget ⊢
  rw [rowsOf_eq hm hdata] at htarget ⊢
  obtain ⟨hmem, hsame⟩ := List.mem_filter.mp htarget
  exact ⟨target, hfits.rows.filter_sameKey hmem hsame⟩

theorem caseOf_directCase? (h : p.Compilable m) (hm : m ∈ p.mappings) (hdata : m.data = some d)
    {c : ColumnMapping} (hc : c ∈ m.columns) (hcoerces : m.coerces d c = false) {row : Row}
    (hrow : row ∈ d.rows) :
    p.CaseOf m c (d.returnName c) row (p.directCase? m c (d.returnName c) row) := by
  have hfits := h.fits hdata
  obtain ⟨raw, hcell, htarget⟩ := hfits.cells row hrow c hc hcoerces
  simp only [directCase?, hcell, Option.bind_some, directExpression?]
  cases hmaps : p.maps (d.returnName c) with
  | false =>
    cases hnull : raw.isNull && isValueKind (d.returnName c) with
    | true =>
      obtain ⟨hnull, hkind⟩ := Bool.and_eq_true_iff.mp hnull
      exact CaseOf.refused hcell hnull (Or.inr hkind)
    | false => exact CaseOf.outside hcell hmaps (Bool.and_eq_false_iff.mp hnull)
  | true =>
    cases hnull : raw.isNull with
    | true => exact CaseOf.refused hcell hnull (Or.inl hmaps)
    | false =>
      have hrefers := refers_of_column hm hdata hc (hfits.columns c hc) hmaps
      obtain ⟨m', hm', hcompilable⟩ := h.of_refers hm hrefers
      obtain ⟨hmem, hname⟩ := mapping?_eq_some.mp hm'
      obtain ⟨target, hunique⟩ := hcompilable.rowsUnder_eq hmem (hname ▸ (htarget hmaps hnull).2)
      rw [hname] at hunique
      rw [hunique]
      exact CaseOf.inside hcell hmaps hnull hunique

theorem directEnum?_eq (hdata : m.data = some d) (hkey : d.storageType? m.key = some keyType) :
    m.directEnum? = some ((p.finalDraft m d).enum m keyType) := by
  simp [TableMapping.directEnum?, hdata, hkey, finalDraft, Draft.enum, memberOf, Row.memberName,
    TableMapping.typeId]

theorem directAccessor?_eq (hdata : m.data = some d) {c : ColumnMapping}
    (hstorage : (d.storageType? c.column).isSome) :
    p.directAccessor? m c = some ((p.finalDraft m d).accessor m d c) := by
  obtain ⟨storage, hs⟩ := Option.isSome_iff_exists.mp hstorage
  simp [directAccessor?, hdata, hs, finalDraft, Draft.accessor, TableMapping.accessorId,
    TableMapping.typeId, TypeEnv.nodeAt, TableData.nullable]

variable (p) in
theorem directEnum?_eq_some_iff {t : EnumType} : m.directEnum? = some t ↔
    ∃ d keyType, m.data = some d ∧ d.storageType? m.key = some keyType ∧
      (p.finalDraft m d).enum m keyType = t := by
  constructor
  · intro h
    obtain ⟨d, hdata, hd⟩ := Option.bind_eq_some_iff.mp h
    obtain ⟨keyType, hkey, -⟩ := Option.bind_eq_some_iff.mp hd
    exact ⟨d, keyType, hdata, hkey, Option.some.inj ((directEnum?_eq hdata hkey).symm.trans h)⟩
  · rintro ⟨d, keyType, hdata, hkey, rfl⟩
    exact directEnum?_eq hdata hkey

theorem directAccessor?_eq_some_iff {c : ColumnMapping} {a : Accessor} :
    p.directAccessor? m c = some a ↔
      ∃ d, m.data = some d ∧ (d.storageType? c.column).isSome ∧ (p.finalDraft m d).accessor m d c = a := by
  constructor
  · intro h
    obtain ⟨d, hdata, hd⟩ := Option.bind_eq_some_iff.mp h
    obtain ⟨storage, hs, -⟩ := Option.bind_eq_some_iff.mp hd
    have hstorage : (d.storageType? c.column).isSome := by simp [hs]
    exact ⟨d, hdata, hstorage, Option.some.inj ((directAccessor?_eq hdata hstorage).symm.trans h)⟩
  · rintro ⟨d, hdata, hstorage, rfl⟩
    exact directAccessor?_eq hdata hstorage

theorem mem_direct_enums {t : EnumType} : t ∈ p.direct.enums ↔
    ∃ m ∈ p.mappings, ∃ d keyType, m.data = some d ∧ d.storageType? m.key = some keyType ∧
      (p.finalDraft m d).enum m keyType = t := by
  simp only [direct, List.mem_filterMap, directEnum?_eq_some_iff p]

theorem mem_direct_accessors {a : Accessor} : a ∈ p.direct.accessors ↔
    ∃ m ∈ p.mappings, ∃ c ∈ m.columns, ∃ d, m.data = some d ∧ (d.storageType? c.column).isSome ∧
      (p.finalDraft m d).accessor m d c = a := by
  simp only [direct, List.mem_flatMap, List.mem_filterMap, directAccessor?_eq_some_iff]

theorem mem_outsideNames {n : String} : n ∈ p.outsideNames ↔
    p.maps n = false ∧ ∃ m ∈ p.mappings, ∃ c ∈ m.columns, m.returnName? c = some n := by
  unfold outsideNames
  rw [List.mem_dedup, List.mem_filter, List.mem_flatMap, and_comm]
  simp only [List.mem_filterMap, Bool.not_eq_true']

theorem mem_direct_stages {n : String} {stage : Stage} :
    (n, stage) ∈ p.direct.stages ↔ p.Knows n ∧ stage = p.directStage n := by
  have hmem : (n, stage) ∈ p.direct.stages ↔
      p.maps n = true ∧ stage = .internal ∨ n ∈ p.outsideNames ∧ stage = .external := by
    simp only [direct, List.mem_append, List.mem_map, Prod.mk.injEq, maps_iff]
    grind
  rw [hmem, mem_outsideNames]
  unfold Knows directStage
  cases p.maps n <;> simp

theorem nodup_direct_stages : p.direct.stages.Nodup := by
  refine List.Nodup.of_map (·.1) ?_
  have hnames : p.direct.stages.map (·.1) = p.typeNames ++ p.outsideNames := by
    simp [direct, Function.comp_def]
  rw [hnames, List.nodup_append]
  refine ⟨p.distinct, List.nodup_dedup _, ?_⟩
  rintro n hn _ hout rfl
  rw [← maps_iff, (mem_outsideNames.mp hout).1] at hn
  cases hn

theorem nodup_direct_enums : p.direct.enums.Nodup := by
  refine List.pairwise_filterMap.mpr ((List.pairwise_map.mp p.distinct).imp ?_)
  rintro m m' hne t ht _ ht' rfl
  obtain ⟨d, keyType, -, -, hd⟩ := (directEnum?_eq_some_iff p).mp ht
  obtain ⟨d', keyType', -, -, hd'⟩ := (directEnum?_eq_some_iff p).mp ht'
  exact hne (congrArg EnumType.name (hd.trans hd'.symm))

theorem nodup_direct_accessors (hw : ∀ m ∈ p.mappings, m.WellFormed) :
    p.direct.accessors.Nodup := by
  refine List.nodup_flatMap.mpr ⟨?_, ?_⟩
  · intro m hm
    refine List.pairwise_filterMap.mpr ((List.pairwise_map.mp (hw m hm).accessors).imp ?_)
    rintro c c' hne a ha _ ha' rfl
    obtain ⟨d, -, -, hd⟩ := directAccessor?_eq_some_iff.mp ha
    obtain ⟨d', -, -, hd'⟩ := directAccessor?_eq_some_iff.mp ha'
    exact hne (congrArg Accessor.name (hd.trans hd'.symm))
  · refine (List.pairwise_map.mp p.distinct).imp ?_
    intro m m' hne
    refine List.disjoint_left.mpr ?_
    intro a ha ha'
    obtain ⟨c, -, hc⟩ := List.mem_filterMap.mp ha
    obtain ⟨c', -, hc'⟩ := List.mem_filterMap.mp ha'
    obtain ⟨d, -, -, hd⟩ := directAccessor?_eq_some_iff.mp hc
    obtain ⟨d', -, -, hd'⟩ := directAccessor?_eq_some_iff.mp hc'
    exact hne (congrArg (·.id.owner) (hd.trans hd'.symm))

theorem Inv.stage?_of_knows (h : p.Inv s) (hall : ∀ m ∈ p.mappings, m.typeName ∈ s.completed)
    {n : String} (hn : p.Knows n) : s.env.stage? n = some (p.directStage n) := by
  rcases hn with hmaps | ⟨m, hm, c, hc, hreturn⟩
  · obtain ⟨m, hm, rfl⟩ := List.mem_map.mp (maps_iff.mp hmaps)
    rw [h.stage?_of_completed (hall m hm), directStage_eq_internal.mpr hmaps]
  · obtain ⟨d, keyType, hdata, -, -, hstages⟩ := h.finished m hm (hall m hm)
    have hstorage := ((h.compilable m hm (hall m hm)).fits hdata).columns c hc
    rw [TableMapping.returnName?_eq hdata hstorage] at hreturn
    rw [← Option.some.inj hreturn]
    exact hstages c hc

theorem Inv.mem_stages (h : p.Inv s) (hall : ∀ m ∈ p.mappings, m.typeName ∈ s.completed)
    (entry : String × Stage) : entry ∈ s.env.stages ↔ entry ∈ p.direct.stages := by
  obtain ⟨n, stage⟩ := entry
  rw [Keyed.mem_iff_lookup h.admits.stages, mem_direct_stages]
  change s.env.stage? n = some stage ↔ _
  constructor
  · intro hn
    have hknows := h.admits.known n (Option.isSome_iff_exists.mpr ⟨stage, hn⟩)
    rw [h.stage?_of_knows hall hknows] at hn
    exact ⟨hknows, (Option.some.inj hn).symm⟩
  · rintro ⟨hknows, rfl⟩
    exact h.stage?_of_knows hall hknows

theorem Inv.enum?_eq (h : p.Inv s) (hm : m ∈ p.mappings) (hdone : m.typeName ∈ s.completed) :
    s.env.enum? m.typeId = m.directEnum? := by
  obtain ⟨d, keyType, hdata, hkey, hpart, -⟩ := h.finished m hm hdone
  rw [directEnum?_eq hdata hkey]
  exact congrArg TablePart.enum hpart

theorem Inv.mem_enums (h : p.Inv s) (hall : ∀ m ∈ p.mappings, m.typeName ∈ s.completed)
    (t : EnumType) : t ∈ s.env.enums ↔ t ∈ p.direct.enums := by
  refine Iff.trans ?_ List.mem_filterMap.symm
  constructor
  · intro ht
    obtain ⟨m, hm, hid⟩ := h.admits.enumOf t ht
    refine ⟨m, hm, ?_⟩
    rw [← h.enum?_eq hm (hall m hm), ← hid]
    exact Keyed.find?_key h.admits.enums ht
  · rintro ⟨m, hm, ht⟩
    rw [← h.enum?_eq hm (hall m hm)] at ht
    exact List.mem_of_find?_eq_some ht

theorem Inv.accessor?_eq_some (h : p.Inv s) (hw : m.WellFormed) (hm : m ∈ p.mappings)
    (hdone : m.typeName ∈ s.completed) {name : String} {a : Accessor} :
    s.env.accessor? ⟨m.typeName, name⟩ = some a ↔
      ∃ c ∈ m.columns, c.accessor = name ∧ p.directAccessor? m c = some a := by
  obtain ⟨d, keyType, hdata, hkey, hpart, -⟩ := h.finished m hm hdone
  have hstorage := ((h.compilable m hm hdone).fits hdata).columns
  change (s.env.part m.typeName).accessor name = some a ↔ _
  rw [hpart]
  constructor
  · intro ha
    obtain ⟨c, hc, rfl⟩ := Option.map_eq_some_iff.mp ha
    have hmem : c ∈ m.columns := List.mem_of_find?_eq_some hc
    exact ⟨c, hmem, by simpa using List.find?_some hc, directAccessor?_eq hdata (hstorage c hmem)⟩
  · rintro ⟨c, hc, rfl, ha⟩
    rw [directAccessor?_eq hdata (hstorage c hc)] at ha
    rw [← ha]
    exact Draft.part_accessor hw.accessors hc

theorem Inv.mem_accessors (h : p.Inv s) (hw : ∀ m ∈ p.mappings, m.WellFormed)
    (hall : ∀ m ∈ p.mappings, m.typeName ∈ s.completed) (a : Accessor) :
    a ∈ s.env.accessors ↔ a ∈ p.direct.accessors := by
  refine Iff.trans ?_ List.mem_flatMap.symm
  constructor
  · intro ha
    obtain ⟨m, hm, howner⟩ := h.admits.accessorOf a ha
    have hfind : s.env.accessor? ⟨m.typeName, a.id.name⟩ = some a :=
      howner ▸ Keyed.find?_key h.admits.accessors ha
    obtain ⟨c, hc, -, hdirect⟩ := (h.accessor?_eq_some (hw m hm) hm (hall m hm)).mp hfind
    exact ⟨m, hm, List.mem_filterMap.mpr ⟨c, hc, hdirect⟩⟩
  · rintro ⟨m, hm, ha⟩
    obtain ⟨c, hc, hdirect⟩ := List.mem_filterMap.mp ha
    exact List.mem_of_find?_eq_some
      ((h.accessor?_eq_some (hw m hm) hm (hall m hm)).mpr ⟨c, hc, rfl, hdirect⟩)

/-- After a compilation that succeeds all tables are finished. -/
theorem finished_of_compile (hw : ∀ m ∈ p.mappings, m.WellFormed) (h : p.compile = .ok () s) :
    p.Inv s ∧ ∀ m ∈ p.mappings, m.typeName ∈ s.completed := by
  obtain ⟨hidle, -, hdone⟩ := (ends_compileAll hw (Idle.start p)).of_ok h
  exact ⟨hidle.inv, fun m hm => hdone _ (List.mem_map_of_mem hm)⟩

theorem perm_direct (hw : ∀ m ∈ p.mappings, m.WellFormed) (h : p.compile = .ok () s) :
    s.env.stages.Perm p.direct.stages ∧ s.env.enums.Perm p.direct.enums ∧
    s.env.accessors.Perm p.direct.accessors := by
  obtain ⟨hinv, hall⟩ := finished_of_compile hw h
  refine ⟨?_, ?_, ?_⟩
  · exact (List.perm_ext_iff_of_nodup (List.Nodup.of_map _ hinv.admits.stages) nodup_direct_stages).mpr
      (hinv.mem_stages hall)
  · exact (List.perm_ext_iff_of_nodup (List.Nodup.of_map _ hinv.admits.enums) nodup_direct_enums).mpr
      (hinv.mem_enums hall)
  · exact (List.perm_ext_iff_of_nodup (List.Nodup.of_map _ hinv.admits.accessors)
      (nodup_direct_accessors hw)).mpr (hinv.mem_accessors hw hall)

/-- A compilation of all tables that succeeds yields the direct environment, up to the order of
arrival. In it each row of a table has exactly one case for each column that is not read by a cast,
except where null is refused, and a cell that refers to a mapped type is the key of exactly one row
of its table. -/
theorem compile_eq_direct (hw : ∀ m ∈ p.mappings, m.WellFormed) (h : p.compile = .ok () s) :
    s.env.stages.Perm p.direct.stages ∧ s.env.enums.Perm p.direct.enums ∧
    s.env.accessors.Perm p.direct.accessors ∧
    ∀ m ∈ p.mappings, ∃ d, m.data = some d ∧ (d.storageType? m.key).isSome ∧
      ∀ c ∈ m.columns, (d.storageType? c.column).isSome ∧
        (m.coerces d c = false → ∀ row ∈ d.rows,
          p.CaseOf m c (d.returnName c) row (p.directCase? m c (d.returnName c) row)) := by
  obtain ⟨hinv, hall⟩ := finished_of_compile hw h
  obtain ⟨hstages, henums, haccessors⟩ := perm_direct hw h
  refine ⟨hstages, henums, haccessors, fun m hm => ?_⟩
  have hcompilable := hinv.compilable m hm (hall m hm)
  obtain ⟨d, keyType, hdata, hkey, -⟩ := hinv.finished m hm (hall m hm)
  refine ⟨d, hdata, by simp [hkey], fun c hc => ⟨(hcompilable.fits hdata).columns c hc, ?_⟩⟩
  exact fun hcoerces row hrow => caseOf_directCase? hcompilable hm hdata hc hcoerces hrow

theorem compile_eq_direct_garage : ∃ s, garage.compile = .ok () s ∧
    s.env.stages.Perm garage.direct.stages ∧ s.env.enums.Perm garage.direct.enums ∧
    s.env.accessors.Perm garage.direct.accessors := by
  obtain ⟨s, hs⟩ := compiles_iff.mp garage_compiles
  obtain ⟨hstages, henums, haccessors, -⟩ := compile_eq_direct (by decide) hs
  exact ⟨s, hs, hstages, henums, haccessors⟩

end Plan

end LookupEnums
