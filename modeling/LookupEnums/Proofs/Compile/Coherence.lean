import LookupEnums.Proofs.Compile.Registered

/-! # Coherent sessions

The names, enumerations, accessors and cases of an environment fit together between any two calls,
also where the last one broke off in the middle of a table: cases are only ever there where all
members are, and where all that they could refer to is finished.
-/
namespace LookupEnums
open Compile Source

namespace Plan

/-- How the tables of an environment fit together. -/
structure Coherent (p : Plan) (s : Session) : Prop where
  /-- A name is bound once, to a node of that name, and has an enumeration where it is internal. -/
  names : (s.env.stages.map (·.1)).Nodup
  bound : ∀ n node, s.env.lookup? n = some node →
    node.name = n ∧ (node.stage = .internal ↔ (s.env.enum? node.id).isSome)
  enums : (s.env.enums.map (·.id)).Nodup
  internal : ∀ t ∈ s.env.enums, s.env.lookup? t.name = some ⟨.internal, t.id⟩
  /-- An enumeration lists the accessors declared for it, in their order and under distinct names. -/
  listed : ∀ t ∈ s.env.enums, s.env.accessorsOf t = s.env.declaredFor t.id ∧
    t.accessorNames = (s.env.declaredFor t.id).map Accessor.name ∧ t.accessorNames.Nodup
  returns : ∀ a ∈ s.env.accessors, (s.env.lookup? a.returns.name).isSome
  /-- Cases belong to members of an existing enumeration, and coercions have none. -/
  cases : ∀ a ∈ s.env.accessors, ∃ t ∈ s.env.enums, a.owner = t.id ∧
    (∀ case ∈ a.cases, case.1 ∈ t.memberNames) ∧ (a.coercion = true → a.cases = [])
  /-- With the first case all members are there and all types referred to are finished. -/
  filled : ∀ t ∈ s.env.enums, ∀ a ∈ s.env.declaredFor t.id, a.cases ≠ [] →
    ∃ m ∈ p.mappings, m.typeName = t.name ∧ (∃ d keyType, m.data = some d ∧
      d.storageType? m.key = some keyType ∧ t.members = d.rows.map (memberOf keyType.name)) ∧
    ∀ u, p.Refers t.name u → u ∈ s.completed
  /-- The case of a row in a column returning a mapped type names the member that the row's cell
  is the key of. -/
  targets : ∀ a ∈ s.env.accessors, p.maps a.returns.name = true → ∀ case ∈ a.cases,
    ∃ m ∈ p.mappings, ∃ c ∈ m.columns, a.id = m.accessorId c ∧
    ∃ d, m.data = some d ∧ ∃ row ∈ d.rows, row.memberName = case.1 ∧
    ∃ raw, row.cells.lookup c.column = some raw ∧
    ∃ t ∈ s.env.enums, t.name = a.returns.name ∧ ∃ member ∈ t.members,
      member.raw.sameKey raw = true ∧ case.2 = c.render (qualify t.name m.typeName member.name)

section
variable {p : Plan} {s : Session} {m : TableMapping} {d : TableData} {c : ColumnMapping}

/-- The case of a row in a column returning a mapped type refers to a row of that type. -/
theorem exists_row_of_directCases {case : String × String} (h : case ∈ p.directCases m d c) :
    m.coerces d c = false ∧ ∃ row ∈ d.rows, row.memberName = case.1 ∧
      ∃ raw, row.cells.lookup c.column = some raw ∧ (p.maps (d.returnName c) = true →
        ∃ target ∈ p.rowsOf (d.returnName c), target.key.sameKey raw = true ∧
          case.2 = c.render (qualify (d.returnName c) m.typeName target.memberName)) := by
  unfold directCases casesOver at h
  split at h
  · cases h
  next hcoerces =>
    refine ⟨Bool.eq_false_iff.mpr hcoerces, ?_⟩
    obtain ⟨row, hrow, hcase⟩ := List.mem_filterMap.mp h
    obtain ⟨raw, hraw, hcase⟩ := Option.bind_eq_some_iff.mp hcase
    obtain ⟨expression, hexpression, rfl⟩ := Option.map_eq_some_iff.mp hcase
    refine ⟨row, hrow, rfl, raw, hraw, fun hmaps => ?_⟩
    unfold directExpression? at hexpression
    rw [if_pos hmaps] at hexpression
    split at hexpression
    · cases hexpression
    · obtain ⟨target, htarget, rfl⟩ := Option.map_eq_some_iff.mp hexpression
      have hunder : target ∈ p.rowsUnder (d.returnName c) raw := List.mem_of_head? htarget
      obtain ⟨hmem, hkey⟩ := List.mem_filter.mp hunder
      exact ⟨target, hmem, hkey, rfl⟩

theorem mem_enums_of_part {keyType : StorageType} {w : Draft}
    (hpart : s.env.part m.typeName = w.part m d keyType) : w.enum m keyType ∈ s.env.enums := by
  have henum : s.env.enum? ⟨m.typeName, none⟩ = some (w.enum m keyType) :=
    congrArg TablePart.enum hpart
  exact List.mem_of_find?_eq_some henum

namespace Inv

/-- The part of a table is that of a fitting draft as soon as there is anything. -/
theorem exists_draft (h : p.Inv s) (hm : m ∈ p.mappings) :
    s.env.part m.typeName = .empty ∨ p.Drafted s m := by
  by_cases hdone : m.typeName ∈ s.completed
  · -- what is finished is the draft of the whole table
    obtain ⟨d, keyType, hdata, hkey, hpart, -⟩ := h.finished m hm hdone
    have hfits := (h.compilable m hm hdone).fits hdata
    refine Or.inr ⟨d, keyType, p.finalDraft m d, hdata, hkey, ?_, hpart⟩
    refine ⟨List.prefix_refl _, List.prefix_refl _, fun _ => List.prefix_refl _, ?_⟩
    refine fun c _ => ⟨rfl, rfl, fun b hb hmaps => ?_⟩
    exact h.closed _ hdone _ (refers_of_column hm hdata hb (hfits.columns b hb) hmaps)
  · exact h.drafted m hm hdone

/-- Every enumeration is that of a draft, and so is every accessor. -/
theorem exists_draft_of_enum (h : p.Inv s) {t : EnumType} (ht : t ∈ s.env.enums) :
    ∃ m ∈ p.mappings, t.id = m.typeId ∧ ∃ d keyType, ∃ w : Draft, m.data = some d ∧
      d.storageType? m.key = some keyType ∧ w.Fits p m d s.completed ∧
      s.env.part m.typeName = w.part m d keyType ∧ t = w.enum m keyType := by
  obtain ⟨m, hm, hid⟩ := h.admits.enumOf t ht
  have henum : (s.env.part m.typeName).enum = some t := by
    have hfind : s.env.enum? t.id = some t := Keyed.find?_key h.admits.enums ht
    rwa [hid] at hfind
  rcases h.exists_draft hm with hempty | ⟨d, keyType, w, hdata, hkey, hfits, hpart⟩
  · rw [hempty] at henum
    cases henum
  · rw [hpart] at henum
    exact ⟨m, hm, hid, d, keyType, w, hdata, hkey, hfits, hpart, (Option.some.inj henum).symm⟩

theorem exists_draft_of_accessor (h : p.Inv s) {a : Accessor} (ha : a ∈ s.env.accessors) :
    ∃ m ∈ p.mappings, ∃ d keyType, ∃ w : Draft, m.data = some d ∧
      d.storageType? m.key = some keyType ∧ w.Fits p m d s.completed ∧
      s.env.part m.typeName = w.part m d keyType ∧ ∃ c ∈ w.columns, a = w.accessor m d c := by
  obtain ⟨m, hm, howner⟩ := h.admits.accessorOf a ha
  have haccessor : (s.env.part m.typeName).accessor a.id.name = some a := by
    have hfind : s.env.accessor? a.id = some a := Keyed.find?_key h.admits.accessors ha
    exact howner ▸ hfind
  rcases h.exists_draft hm with hempty | ⟨d, keyType, w, hdata, hkey, hfits, hpart⟩
  · rw [hempty] at haccessor
    cases haccessor
  · rw [hpart, Draft.part_accessor_apply] at haccessor
    obtain ⟨c, hc, rfl⟩ := Option.map_eq_some_iff.mp haccessor
    exact ⟨m, hm, d, keyType, w, hdata, hkey, hfits, hpart, c, List.mem_of_find?_eq_some hc, rfl⟩

/-- A row of a finished table has its member. -/
theorem exists_member (h : p.Inv s) {name : String} (hdone : name ∈ s.completed) {target : Row}
    (htarget : target ∈ p.rowsOf name) :
    ∃ t ∈ s.env.enums, t.name = name ∧
      ∃ member ∈ t.members, member.raw = target.key ∧ member.name = target.memberName := by
  obtain ⟨m, hm, rfl⟩ := List.mem_map.mp (maps_iff.mp (h.mapped _ (List.mem_append_right _ hdone)))
  obtain ⟨d, keyType, hdata, -, hpart, -⟩ := h.finished m hm hdone
  rw [rowsOf_eq hm hdata] at htarget
  exact ⟨_, mem_enums_of_part hpart, rfl, memberOf keyType.name target, List.mem_map_of_mem htarget, rfl, rfl⟩

end Inv

/-- All columns that are declared have a storage type, so what they return is known. -/
theorem Registered.isSome_storage (h : p.Registered s.env) (hw : m.WellFormed) (hm : m ∈ p.mappings)
    (hdata : m.data = some d) (hc : c ∈ m.columns) {a : Accessor} (ha : a ∈ s.env.accessors)
    (hid : a.id = m.accessorId c) : (d.storageType? c.column).isSome := by
  obtain ⟨m', hm', d', hdata', c', hc', hstorage, hid'⟩ := h.origin a ha
  have hsame : m.accessorId c = m'.accessorId c' := hid.symm.trans hid'
  obtain rfl : m' = m := mappings_ext hm hm' (congrArg AccessorId.owner hsame.symm)
  obtain rfl : c' = c :=
    List.inj_on_of_nodup_map hw.accessors hc' hc (congrArg AccessorId.name hsame.symm)
  rw [hdata] at hdata'
  exact Option.some.inj hdata' ▸ hstorage

end

variable {p : Plan} {s : Session}

theorem Inv.coherent (h : p.Inv s) (hregistered : p.Registered s.env)
    (hw : ∀ m ∈ p.mappings, m.WellFormed) : p.Coherent s where
  names := h.admits.stages
  bound := by
    intro n node hnode
    obtain ⟨stage, hstage, rfl⟩ := Option.map_eq_some_iff.mp hnode
    refine ⟨rfl, ?_⟩
    rw [TypeEnv.nodeAt, ← h.admits.internal n, hstage, Option.some.injEq]
  enums := h.admits.enums
  internal := by
    intro t ht
    have hfind : s.env.enum? t.id = some t := Keyed.find?_key h.admits.enums ht
    have hid : t.id = ⟨t.name, none⟩ := by
      rw [← hregistered.serial t ht]
      rfl
    rw [hid] at hfind ⊢
    have hstage : s.env.stage? t.name = some .internal :=
      (h.admits.internal t.name).mpr (Option.isSome_iff_exists.mpr ⟨t, hfind⟩)
    rw [TypeEnv.lookup?, hstage]
    rfl
  listed := by
    intro t ht
    refine ⟨hregistered.accessorsOf_eq h.admits.accessors ht, hregistered.listed t ht, ?_⟩
    obtain ⟨m, hm, -, d, keyType, w, -, -, hfits, -, rfl⟩ := h.exists_draft_of_enum ht
    exact hfits.nodup (hw m hm)
  returns := by
    intro a ha
    have hbound := (h.admits.returns a ha).bound
    unfold TypeEnv.lookup?
    rwa [Option.isSome_map]
  cases := by
    intro a ha
    obtain ⟨m, hm, d, keyType, w, hdata, -, hfits, hpart, c, hc, rfl⟩ := h.exists_draft_of_accessor ha
    refine ⟨_, mem_enums_of_part hpart, rfl, ?_, ?_⟩
    · intro case hcase
      obtain ⟨-, row, hrow, hname, -⟩ := exists_row_of_directCases ((hfits.cases c).subset hcase)
      have hrows : w.rows = d.rows := (hfits.filled c (List.ne_nil_of_mem hcase)).2.1
      rw [← hname, EnumType.memberNames, Draft.enum, List.map_map, hrows]
      exact List.mem_map_of_mem (f := Row.memberName) hrow
    · intro hcoercion
      by_contra hne
      obtain ⟨case, hcase⟩ := List.exists_mem_of_ne_nil _ hne
      have hnot := (exists_row_of_directCases ((hfits.cases c).subset hcase)).1
      exact Bool.eq_false_iff.mp hnot hcoercion
  filled := by
    intro t ht a ha hne
    obtain ⟨ha, howner⟩ := List.mem_filter.mp ha
    obtain ⟨m, hm, d, keyType, w, hdata, hkey, hfits, hpart, c, hc, rfl⟩ := h.exists_draft_of_accessor ha
    -- the accessor's draft and that of the enumeration are one, since they have the same name
    obtain rfl : w.enum m keyType = t :=
      List.inj_on_of_nodup_map h.admits.enums (mem_enums_of_part hpart) ht (of_decide_eq_true howner)
    obtain ⟨hcolumns, hrows, htargets⟩ := hfits.filled c hne
    refine ⟨m, hm, rfl, ⟨d, keyType, hdata, hkey, congrArg (List.map _) hrows⟩, ?_⟩
    intro u hu
    have hstorage : ∀ b ∈ m.columns, (d.storageType? b.column).isSome := by
      intro b hb
      have hpresent : s.env.accessor? (m.accessorId b) = some (w.accessor m d b) := by
        have hdeclared : (w.part m d keyType).accessor b.accessor = some (w.accessor m d b) :=
          Draft.part_accessor (hfits.nodup (hw m hm)) (hcolumns ▸ hb)
        rwa [← hpart] at hdeclared
      exact hregistered.isSome_storage (hw m hm) hm hdata hb (List.mem_of_find?_eq_some hpresent) rfl
    obtain ⟨b, hb, rfl⟩ := hu.exists_column hm hdata hstorage
    exact htargets b hb hu.maps_right
  targets := by
    intro a ha hmaps case hcase
    obtain ⟨m, hm, d, keyType, w, hdata, hkey, hfits, hpart, c, hc, rfl⟩ := h.exists_draft_of_accessor ha
    obtain ⟨hcolumns, -, htargets⟩ := hfits.filled c (List.ne_nil_of_mem hcase)
    obtain ⟨-, row, hrow, hname, raw, hraw, htarget⟩ :=
      exists_row_of_directCases ((hfits.cases c).subset hcase)
    obtain ⟨target, hmem, hkey, hexpression⟩ := htarget hmaps
    have hc : c ∈ m.columns := hcolumns ▸ hc
    obtain ⟨t, ht, hreturns, member, hmember, hraw', hname'⟩ :=
      h.exists_member (htargets c hc hmaps) hmem
    refine ⟨m, hm, c, hc, rfl, d, hdata, row, hrow, hname, raw, hraw, t, ht, hreturns, member, hmember,
      ?_, ?_⟩
    · rwa [hraw']
    · rwa [hname', hreturns]

/-- Whatever calls were made and whichever of them failed, the environment they leave is coherent. -/
theorem session_coherent (hw : ∀ m ∈ p.mappings, m.WellFormed) (calls : List Call) :
    p.Coherent (p.session calls) :=
  (idle_session hw calls).inv.coherent (registered_session p calls) hw

/-- The second car breaks the compilation off, after the case of the first. -/
theorem session_coherent_wreck :
    (wreck.session [.require "Car", .compileAll]).env.accessors.map (·.cases) =
      [[("Mini", "Colour.Red")]] ∧
    wreck.Coherent (wreck.session [.require "Car", .compileAll]) := by
  refine ⟨by decide +kernel, ?_⟩
  exact session_coherent (by decide) [.require "Car", .compileAll]

end Plan

end LookupEnums
