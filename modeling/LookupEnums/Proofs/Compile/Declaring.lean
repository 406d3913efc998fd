import LookupEnums.Proofs.Compile.Working
import LookupEnums.Proofs.Compile.Outcome

/-! # Declaring a table

Defining the type of a table opens its draft, or takes up the one an earlier attempt left. Declaring
the columns then leaves all of them in the draft, also where some were declared before.
-/
namespace LookupEnums
open Compile

namespace Draft
variable {m : TableMapping} {d : TableData} {keyType : StorageType} {w : Draft} {c : ColumnMapping}

theorem part_declareColumn (hnew : c.accessor ∉ w.columns.map (·.accessor)) (stage : Stage) :
    (w.declareColumn c stage).part m d keyType =
      ⟨some { w.enum m keyType with accessorNames := (w.enum m keyType).accessorNames ++ [c.accessor] },
        Function.update (w.part m d keyType).accessor c.accessor
          (some ((w.declareColumn c stage).accessor m d c))⟩ := by
  have hfresh : ∀ b ∈ w.columns, b ≠ c := fun b hb he => hnew (List.mem_map.mpr ⟨b, hb, he ▸ rfl⟩)
  unfold part
  congr 1
  · simp [enum, declareColumn]
  · funext name
    rw [Function.update_apply]
    split
    next hname =>
      subst hname
      have hnone := find?_accessor_eq_none.mpr hnew
      simp [declareColumn, List.find?_append, hnone]
    next hname =>
      have hne : ¬ c.accessor = name := fun h => hname h.symm
      cases hf : w.columns.find? (fun b => b.accessor = name) with
      | none => simp [declareColumn, List.find?_append, hf, hne]
      | some b =>
        have hbc : b ≠ c := hfresh b (List.mem_of_find?_eq_some hf)
        simp [declareColumn, List.find?_append, hf, accessor, hbc]

theorem Fits.declareColumn {p : Plan} {completed : List String} (h : w.Fits p m d completed)
    {after : List ColumnMapping} (hsplit : m.columns = w.columns ++ c :: after) (stage : Stage) :
    (w.declareColumn c stage).Fits p m d completed := by
  have hempty : ∀ b, w.cases b = [] := by
    intro b
    by_contra hb
    have hall := (h.filled b hb).1
    rw [hsplit] at hall
    simp at hall
  have hempty' : ∀ b, (w.declareColumn c stage).cases b = [] := by
    intro b
    by_cases hb : b = c <;> simp [Draft.declareColumn, hb, hempty]
  refine ⟨?_, h.rows, ?_, ?_⟩
  · exact ⟨after, by simp [Draft.declareColumn, hsplit]⟩
  · exact fun b => hempty' b ▸ List.nil_prefix
  · exact fun b hb => absurd (hempty' b) hb

end Draft

namespace Plan
variable {p : Plan} {m : TableMapping} {d : TableData} {keyType : StorageType} {base : List String}
  {s u : Session} {w : Draft}

/-- The type of a table and of its keys is there, with nothing new besides. -/
theorem part_define_setKeyType (T : p.Table m d keyType) (h : p.Inv u)
    (hopen : m.typeName ∉ u.completed) :
    ∃ w : Draft, w.Fits p m d u.completed ∧ (u.env.part m.typeName = .empty → w.rows = []) ∧
      ((u.env.define m.typeName m.attributes).setKeyType m.typeId keyType.name).part m.typeName =
        w.part m d keyType := by
  have hinternal := h.admits.internal m.typeName
  rcases h.drafted m T.mem hopen with hempty | ⟨d', k', w, hdata, hkey, hfits, hpart⟩
  · refine ⟨Draft.start, Draft.Fits.start p m d _, fun _ => rfl, ?_⟩
    have hnone : u.env.enum? ⟨m.typeName, none⟩ = none := congrArg TablePart.enum hempty
    have hnot : u.env.stage? m.typeName ≠ some .internal := by simp [hinternal, hnone]
    have hdefine := u.env.part_define m.typeName m.typeName m.attributes
    rw [if_pos ⟨rfl, hnot⟩, hempty] at hdefine
    refine (TypeEnv.part_setKeyType _ m.typeName keyType.name m.typeName).trans ?_
    rw [if_pos rfl, hdefine]
    rfl
  · obtain rfl : d = d' := Option.some.inj (T.data.symm.trans hdata)
    obtain rfl : keyType = k' := Option.some.inj (T.key.symm.trans hkey)
    refine ⟨w, hfits, ?_, ?_⟩
    · intro hempty
      rw [hempty] at hpart
      cases congrArg TablePart.enum hpart
    have hsome : u.env.enum? ⟨m.typeName, none⟩ = some (w.enum m keyType) := congrArg TablePart.enum hpart
    have hyes : u.env.stage? m.typeName = some .internal := by simp [hinternal, hsome]
    have hdefine := u.env.part_define m.typeName m.typeName m.attributes
    rw [if_neg (by simp [hyes]), hpart] at hdefine
    refine (TypeEnv.part_setKeyType _ m.typeName keyType.name m.typeName).trans ?_
    rw [if_pos rfl, hdefine]
    rfl

theorem working_defineType (T : p.Table m d keyType) (h : p.Inv u)
    (hstack : u.compiling = base ++ [m.typeName]) (hbegun : u.Begun m.typeName) :
    ∃ w : Draft, (u.env.part m.typeName = .empty → w.rows = []) ∧
      p.Working m d keyType base u w { u with
        env := (u.env.define m.typeName m.attributes).setKeyType m.typeId keyType.name } := by
  have hopen : m.typeName ∉ u.completed := h.opened _ (by simp [hstack])
  have hnotin : m.typeName ∉ base := h.not_mem_base hstack
  have hgrow : StagesGrow u.env
      ((u.env.define m.typeName m.attributes).setKeyType m.typeId keyType.name) :=
    (StagesGrow.define (h.admits.mapped _ (maps_typeName T.mem)) m.attributes).trans
      (StagesGrow.of_eq fun _ => rfl)
  have hothers : ∀ t, t ≠ m.typeName →
      ((u.env.define m.typeName m.attributes).setKeyType m.typeId keyType.name).part t =
        u.env.part t := by
    intro t ht
    refine (TypeEnv.part_setKeyType _ m.typeName keyType.name t).trans ?_
    rw [if_neg ht, TypeEnv.part_define, if_neg fun hboth => ht hboth.1]
  have hadmits : p.Admits
      ((u.env.define m.typeName m.attributes).setKeyType m.typeId keyType.name) :=
    (h.admits.define T.mem m.attributes).updateEnum fun _ he => he
  obtain ⟨w, hfits, hrows, hpart⟩ := part_define_setKeyType T h hopen
  exact ⟨w, hrows, h.change T.mem T.data T.key hopen hbegun hadmits hgrow hothers hpart hfits,
    ⟨rfl, List.prefix_refl _, List.prefix_refl _, fun t ht => hothers t fun he => hnotin (he ▸ ht),
      hgrow⟩, hstack, hbegun, hfits, hpart⟩

section column
variable {before after : List ColumnMapping} {c : ColumnMapping} {storage : StorageType}

theorem Table.knows (T : p.Table m d keyType) (hc : c ∈ m.columns)
    (hstorage : (d.storageType? c.column).isSome) : p.Knows (d.returnName c) :=
  Or.inr ⟨m, T.mem, c, hc, TableMapping.returnName?_eq T.data hstorage⟩

/-- A column of the draft is not declared again. -/
theorem Working.declare_known (h : p.Working m d keyType base s w u) (T : p.Table m d keyType)
    (hc : c ∈ w.columns) (hknows : p.Knows (d.returnName c)) {a : Accessor} (hid : a.id = m.accessorId c) :
    p.Working m d keyType base s w
      { u with env := (u.env.reference (d.returnName c)).declare a } := by
  have haccessor : (u.env.reference (d.returnName c)).accessor? a.id = some (w.accessor m d c) := by
    unfold TypeEnv.accessor?
    rw [hid, TypeEnv.accessors_reference]
    exact h.accessor?_eq T hc
  rw [TypeEnv.declare_of_known _ haccessor]
  refine h.change T (h.inv.admits.reference hknows) (StagesGrow.reference u.env _) ?_ ?_ h.fits
  · exact fun t _ => TypeEnv.part_reference _ _ t
  · rw [TypeEnv.part_reference, h.part]

/-- The next column goes to the end of the draft. -/
theorem Working.declare_next (h : p.Working m d keyType base s w u) (T : p.Table m d keyType)
    (hsplit : m.columns = w.columns ++ c :: after) (hknows : p.Knows (d.returnName c)) {stage : Stage}
    (hstage : (u.env.reference (d.returnName c)).stage? (d.returnName c) = some stage) :
    p.Working m d keyType base s (w.declareColumn c stage) { u with
      env := (u.env.reference (d.returnName c)).declare ((w.declareColumn c stage).accessor m d c) } := by
  have hadmits := h.inv.admits.reference hknows
  have hnew : c.accessor ∉ w.columns.map (·.accessor) := by
    have hnodup := T.wellFormed.accessors
    rw [hsplit, List.map_append, List.map_cons, List.nodup_append] at hnodup
    exact fun hm => hnodup.2.2 _ hm _ List.mem_cons_self rfl
  have haccessor : (u.env.reference (d.returnName c)).accessor? (m.accessorId c) = none := by
    change ((u.env.reference (d.returnName c)).part m.typeName).accessor c.accessor = none
    rw [TypeEnv.part_reference, h.part, Draft.part_accessor_eq_none.mpr hnew]
  have hpart := TypeEnv.part_declare (u.env.reference (d.returnName c))
    (a := (w.declareColumn c stage).accessor m d c) rfl haccessor
  refine h.change T ?_ ?_ ?_ ?_ (h.fits.declareColumn hsplit stage)
  · refine hadmits.declare T.mem rfl ?_
    simpa [Draft.accessor, Draft.declareColumn] using (hadmits.nodeFits_nodeOf hstage).2
  · exact (StagesGrow.reference u.env _).trans
      (StagesGrow.of_eq fun n => TypeEnv.stage?_declare _ _ n)
  · intro t ht
    exact (hpart t).trans ((if_neg ht).trans (TypeEnv.part_reference _ _ t))
  · rw [hpart m.typeName, TypeEnv.part_reference, h.part, Draft.part_declareColumn hnew]
    exact if_pos rfl

/-- A column is appended to the draft, or was there before. -/
theorem Working.declare (h : p.Working m d keyType base s w u) (T : p.Table m d keyType)
    (hsplit : m.columns = before ++ c :: after) (hbefore : before <+: w.columns)
    (hstorage : d.storageType? c.column = some storage) :
    ∃ w' : Draft, w'.rows = w.rows ∧ before ++ [c] <+: w'.columns ∧
      p.Working m d keyType base s w' { u with
        env := (u.env.reference (d.returnName c)).declare
          { id := m.accessorId c
            owner := m.typeId
            returns := (u.env.reference (d.returnName c)).nodeOf (d.returnName c)
            coercion := m.isCoercion keyType c
            nullable := storage.nullable } } := by
  have hknows := T.knows (c := c) (by simp [hsplit]) (by simp [hstorage])
  obtain ⟨rest, hrest⟩ := hbefore
  have hprefix : rest <+: c :: after := by
    have hcolumns := h.fits.columns
    rw [hsplit, ← hrest] at hcolumns
    exact (List.prefix_append_right_inj before).mp hcolumns
  cases rest with
  | cons b rest =>
    obtain ⟨rfl, -⟩ := List.cons_prefix_cons.mp hprefix
    have hmem : b ∈ w.columns := by simp [← hrest]
    exact ⟨w, rfl, ⟨rest, by simp [← hrest]⟩, h.declare_known T hmem hknows rfl⟩
  | nil =>
    rw [List.append_nil] at hrest
    obtain ⟨stage, hstage⟩ := Option.isSome_iff_exists.mp (by
      simp [TypeEnv.stage?_reference] : ((u.env.reference (d.returnName c)).stage? (d.returnName c)).isSome)
    have hnode := ((h.inv.admits.reference hknows).nodeFits_nodeOf hstage).1
    have hsame : ({ id := m.accessorId c
                    owner := m.typeId
                    returns := (u.env.reference (d.returnName c)).nodeOf (d.returnName c)
                    coercion := m.isCoercion keyType c
                    nullable := storage.nullable } : Accessor) =
        (w.declareColumn c stage).accessor m d c := by
      simp [Draft.accessor, Draft.declareColumn, hnode, TableMapping.coerces_eq T.key,
        TableData.nullable, hstorage]
    rw [hsame]
    refine ⟨w.declareColumn c stage, rfl, ?_, h.declare_next T (hrest ▸ hsplit) hknows hstage⟩
    simp [Draft.declareColumn, hrest]

end column

structure Declared (p : Plan) (m : TableMapping) (d : TableData) (keyType : StorageType)
    (base : List String) (s : Session) (rows : List Row) (done : List ColumnMapping) (u : Session) :
    Prop where
  draft : ∃ w : Draft, w.rows = rows ∧ done <+: w.columns ∧ p.Working m d keyType base s w u
  storage : ∀ c ∈ done, (d.storageType? c.column).isSome

theorem ends_declareColumn (T : p.Table m d keyType) {rows : List Row}
    {before after : List ColumnMapping} {c : ColumnMapping} (hsplit : m.columns = before ++ c :: after)
    (h : p.Declared m d keyType base s rows before u) :
    Ends (declareColumn m d keyType c) u
      (fun _ => p.Declared m d keyType base s rows (before ++ [c])) (p.Fails m base s) := by
  obtain ⟨⟨w, rfl, hbefore, hwork⟩, hknown⟩ := h
  have hc : c ∈ m.columns := by simp [hsplit]
  unfold declareColumn TableData.requireStorage
  cases hstorage : d.storageType? c.column with
  | none =>
    have hnot : ¬ p.Fits m d := by
      intro hfits
      have hcolumn := hfits.columns c hc
      simp [hstorage] at hcolumn
    have hfails : p.Fails m base s (.schema (.unknownColumn d.table c.column)) u :=
      hwork.fails (T.not_compilable hnot) trivial
    simpa using hfails
  | some storage =>
    have hname : c.returnName storage = d.returnName c := (TableData.returnName_eq hstorage).symm
    have hreturn := TableMapping.returnName?_eq (c := c) T.data (by simp [hstorage])
    simp only [ends_bind, ends_liftExcept_ok, hname]
    refine ends_ite.mpr ⟨?_, ?_⟩
    · intro hself
      have hrefers : p.Refers m.typeName m.typeName :=
        ⟨m, mapping?_typeName T.mem, maps_typeName T.mem, c, hc, hself ▸ hreturn⟩
      have hnot : ¬ p.Compilable m := fun hcompilable =>
        hcompilable.not_cyclic T.mem Relation.ReflTransGen.refl (Relation.TransGen.single hrefers)
      rw [ends_bind, ends_throw]
      exact hwork.fails hnot (isCycle_self hrefers)
    · intro _
      simp only [ends_bind, ends_modifyEnv]
      obtain ⟨w', hrows, hdone, hwork'⟩ := hwork.declare T hsplit hbefore hstorage
      refine ⟨⟨w', hrows, hdone, hwork'⟩, ?_⟩
      intro b hb
      rcases List.mem_append.mp hb with hb | hb
      · exact hknown b hb
      · rw [List.mem_singleton.mp hb, hstorage]
        rfl

/-- Declaring a table whose stack frame was opened in `u`. A draft with rows in it is one of an
earlier attempt, which is possible only for a table that had a part before. -/
theorem ends_declare (hm : m ∈ p.mappings) (hw : m.WellFormed) (hdata : m.data = some d) (h : p.Inv u)
    (hstack : u.compiling = base ++ [m.typeName]) (hbegun : u.Begun m.typeName) :
    Ends (declare m d) u
      (fun _ v => ∃ keyType, p.Table m d keyType ∧ (∀ c ∈ m.columns, (d.storageType? c.column).isSome) ∧
        ∃ w : Draft, w.columns = m.columns ∧ (u.env.part m.typeName = .empty → w.rows = []) ∧
          p.Working m d keyType base u w v)
      (p.Fails m base u) := by
  unfold declare TableData.requireStorage
  cases hkey : d.storageType? m.key with
  | none =>
    have hnot : ¬ p.Compilable m := by
      intro hcompilable
      have hfits := (hcompilable.fits hdata).key
      simp [hkey] at hfits
    have hfails : p.Fails m base u (.schema (.unknownColumn d.table m.key)) u :=
      ⟨h, Session.Extends.refl base u, hnot, trivial⟩
    simpa using hfails
  | some keyType =>
    have T : p.Table m d keyType := ⟨hm, hw, hdata, hkey⟩
    obtain ⟨w, hrows, hwork⟩ := working_defineType T h hstack hbegun
    have hnote := hwork.note (CompileEvent.ofDefine (u.env.stage? m.typeName) m.typeName) (by
      unfold CompileEvent.ofDefine
      split <;> simp)
    simp only [ends_bind, ends_liftExcept_ok, defineType, ends_env, ends_note, ends_modifyEnv]
    refine Ends.mono (ends_forM (p.Declared m d keyType base u w.rows) m.columns ?_ ?_) ?_
      fun _ _ hfails => hfails
    · exact ⟨⟨w, rfl, List.nil_prefix, hnote⟩, by simp⟩
    · intro before c after v hsplit hv
      exact ends_declareColumn T hsplit hv
    · rintro - v ⟨⟨w', hrows', hdone, hwork'⟩, hknown⟩
      exact ⟨keyType, T, hknown, w', hwork'.fits.columns.eq_of_length_le hdone.length_le,
        fun hempty => hrows'.trans (hrows hempty), hwork'⟩

end Plan

end LookupEnums
