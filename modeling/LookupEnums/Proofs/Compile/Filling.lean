import LookupEnums.Proofs.Compile.Adding
import LookupEnums.Proofs.Compile.Settling

/-! # Filling in the cases

For each row and each column one case at most. A cell of a column that returns a mapped type is
looked up among the rows of that type's table, which is finished by then; where the lookup fails
no compilation of the table can succeed.
-/
namespace LookupEnums
open Compile Source

/-- A case of a member that has none goes to the end. -/
theorem TypeEnv.setCaseIn_of_new {member expression : String} {cases : List (String × String)}
    (h : member ∉ cases.map (·.1)) :
    setCaseIn member expression cases = cases ++ [(member, expression)] := by
  induction cases with
  | nil => rfl
  | cons entry rest ih =>
    obtain ⟨k, old⟩ := entry
    rw [List.map_cons, List.mem_cons, not_or] at h
    rw [setCaseIn, if_neg fun hk => h.1 hk.symm, ih h.2]
    rfl

namespace Plan
variable {p : Plan} {m : TableMapping} {d : TableData} {keyType : StorageType} {base : List String}
  {s u : Session} {w : Draft} {c : ColumnMapping}

theorem casesOver_concat (hc : m.coerces d c = false) (rows : List Row) (row : Row) :
    p.casesOver m d c (rows ++ [row]) =
      p.casesOver m d c rows ++ (p.directCase? m c (d.returnName c) row).toList := by
  simp only [casesOver, hc, Bool.false_eq_true, if_false, List.filterMap_append, List.filterMap_cons,
    List.filterMap_nil]
  cases p.directCase? m c (d.returnName c) row <;> rfl

/-- Only members of the rows have cases. -/
theorem mem_of_mem_casesOver {rows : List Row} {member : String}
    (h : member ∈ (p.casesOver m d c rows).map (·.1)) : member ∈ rows.map Row.memberName := by
  obtain ⟨entry, hentry, rfl⟩ := List.mem_map.mp h
  unfold casesOver at hentry
  split at hentry
  · cases hentry
  · obtain ⟨row, hrow, hcase⟩ := List.mem_filterMap.mp hentry
    obtain ⟨raw, -, hcase⟩ := Option.bind_eq_some_iff.mp hcase
    obtain ⟨expression, -, rfl⟩ := Option.map_eq_some_iff.mp hcase
    exact List.mem_map_of_mem hrow

theorem refusesNull_direct (name : String) :
    refusesNull (TypeEnv.nodeAt (p.directStage name) name) = (p.maps name || isValueKind name) := by
  unfold refusesNull TypeNode.isInternal directStage
  cases p.maps name <;> rfl

theorem directExpression?_eq_none {name : String} {raw : Value}
    (h : (raw.isNull && (p.maps name || isValueKind name)) = true) :
    p.directExpression? m c name raw = none := by
  obtain ⟨hnull, hrefuses⟩ := Bool.and_eq_true_iff.mp h
  unfold directExpression?
  cases hmaps : p.maps name with
  | true => simp [hnull]
  | false =>
    rw [hmaps, Bool.false_or] at hrefuses
    simp [hnull, hrefuses]

/-- A cell of a finished type is the key of a row, or the lookup says what is wrong with it. -/
theorem referredMember_cases (h : p.Inv u) {name : String} (hdone : name ∈ u.completed) (raw : Value)
    (referencedBy : String) :
    (raw.usableAsKey = false ∧
        referredMember u.env (TypeEnv.nodeAt .internal name) raw referencedBy =
          .error (.unusableKey raw.keyFault)) ∨
      (p.rowsUnder name raw = [] ∧
        referredMember u.env (TypeEnv.nodeAt .internal name) raw referencedBy =
          .error (.unresolvedKey name raw (some referencedBy))) ∨
      ∃ target member, raw.usableAsKey = true ∧ (p.rowsUnder name raw).head? = some target ∧
        member.name = target.memberName ∧
        referredMember u.env (TypeEnv.nodeAt .internal name) raw referencedBy = .ok member := by
  obtain ⟨m, hm, rfl⟩ := List.mem_map.mp (maps_iff.mp (h.mapped name (List.mem_append_right _ hdone)))
  obtain ⟨d, keyType, hdata, -, hpart, -⟩ := h.finished m hm hdone
  have henum : u.env.enum? (TypeEnv.nodeAt .internal m.typeName).id =
      some ((p.finalDraft m d).enum m keyType) := congrArg TablePart.enum hpart
  have hhead : (p.rowsUnder m.typeName raw).head? = d.rows.find? (·.key.sameKey raw) := by
    rw [rowsUnder, rowsOf_eq hm hdata, List.head?_filter]
  have hmember : ((p.finalDraft m d).enum m keyType).memberWithKey? raw keyType.name =
      (p.rowsUnder m.typeName raw).head?.map (memberOf keyType.name) := by
    rw [hhead]
    exact Draft.memberWithKey?_enum raw
  unfold referredMember
  rw [henum]
  have hcases := ((p.finalDraft m d).enum m keyType).memberFor_cases raw keyType.name (some referencedBy)
  rw [hmember] at hcases
  rcases hcases with ⟨hunusable, hfor⟩ | ⟨hnone, hfor⟩ | ⟨member, husable, hsome, hfor⟩
  · exact Or.inl ⟨hunusable, hfor⟩
  · rw [Option.map_eq_none_iff, List.head?_eq_none_iff] at hnone
    exact Or.inr (Or.inl ⟨hnone, hfor⟩)
  · obtain ⟨target, htarget, rfl⟩ := Option.map_eq_some_iff.mp hsome
    exact Or.inr (Or.inr ⟨target, _, husable, htarget, Draft.name_memberOf _ target, hfor⟩)

/-- What a cell yields, or what is wrong with it. -/
theorem caseExpression_cases (h : p.Inv u) {name : String} (m : TableMapping) (c : ColumnMapping)
    (hdone : p.maps name = true → name ∈ u.completed) {raw : Value}
    (hnull : ¬ (raw.isNull && (p.maps name || isValueKind name)) = true) :
    (∃ expression, caseExpression u.env m c (TypeEnv.nodeAt (p.directStage name) name) raw =
        .ok expression ∧ p.directExpression? m c name raw = some expression ∧
        (p.maps name = true → raw.usableAsKey = true ∧ p.rowsUnder name raw ≠ [])) ∨
      (p.maps name = true ∧ raw.isNull = false ∧ ∃ e,
        caseExpression u.env m c (TypeEnv.nodeAt (p.directStage name) name) raw = .error e ∧
          (raw.usableAsKey = false ∧ e = .unusableKey raw.keyFault ∨
            p.rowsUnder name raw = [] ∧ ∃ referencedBy, e = .unresolvedKey name raw referencedBy)) := by
  have hstage : p.directStage name = if p.maps name then .internal else .external := rfl
  unfold directExpression?
  cases hmaps : p.maps name with
  | false =>
    rw [hmaps] at hstage
    refine Or.inl ⟨c.render (literal raw name), hstage ▸ rfl, ?_, by simp⟩
    rw [hmaps, Bool.false_or] at hnull
    simp [hnull]
  | true =>
    rw [hmaps] at hstage
    rw [hmaps, Bool.true_or, Bool.and_true, Bool.not_eq_true] at hnull
    have hlookup : caseExpression u.env m c (TypeEnv.nodeAt (p.directStage name) name) raw =
        (referredMember u.env (TypeEnv.nodeAt .internal name) raw s!"{m.typeName}.{c.accessor}").map
          fun member => c.render (qualify name m.typeName member.name) := hstage ▸ rfl
    simp only [hlookup, if_true, hnull, Bool.false_eq_true, if_false, forall_const, true_and]
    rcases referredMember_cases h (hdone hmaps) raw s!"{m.typeName}.{c.accessor}" with
      ⟨hunusable, hfor⟩ | ⟨hnone, hfor⟩ | ⟨target, member, husable, hhead, hname, hfor⟩
    · exact Or.inr ⟨_, by rw [hfor]; rfl, Or.inl ⟨hunusable, rfl⟩⟩
    · exact Or.inr ⟨_, by rw [hfor]; rfl, Or.inr ⟨hnone, _, rfl⟩⟩
    · refine Or.inl ⟨c.render (qualify name m.typeName member.name), by rw [hfor]; rfl, ?_, husable, ?_⟩
      · rw [hhead, Option.map_some, hname]
      · intro hnil
        rw [hnil] at hhead
        cases hhead

structure Filled (p : Plan) (m : TableMapping) (d : TableData) (keyType : StorageType)
    (base : List String) (s : Session) (done : ColumnMapping → List Row) (w : Draft) (u : Session) :
    Prop where
  settled : p.Settled m d keyType base s m.columns w u
  cases : ∀ c ∈ m.columns, w.cases c = p.casesOver m d c (done c)
  cells : ∀ c ∈ m.columns, m.coerces d c = false → ∀ row ∈ done c,
    p.CellFits (d.returnName c) row c.column

/-- A draft with the cases of one more row for a column. -/
theorem Working.setCase (h : p.Working m d keyType base s w u) (T : p.Table m d keyType)
    (hc : c ∈ w.columns) {member expression : String} (hnew : member ∉ (w.cases c).map (·.1))
    (hfits : (w.addCase c member expression).Fits p m d u.completed) :
    p.Working m d keyType base s (w.addCase c member expression)
      { u with env := u.env.setCase (m.accessorId c) member expression } := by
  have haccessor := h.accessor?_eq T hc
  have hpart := TypeEnv.part_updateAccessor u.env (m.accessorId c)
    (fun a => { a with cases := TypeEnv.setCaseIn member expression a.cases }) fun _ ha => ha
  refine h.change T (h.inv.admits.updateAccessor (fun _ ha => ha) ?_) (StagesGrow.of_eq fun _ => rfl)
    ?_ ?_ hfits
  · exact fun a ha _ => h.inv.admits.returns a ha
  · exact fun t ht => (hpart t).trans (if_neg ht)
  · refine (hpart m.typeName).trans ((if_pos rfl).trans ?_)
    rw [h.part, show (m.accessorId c).name = c.accessor from rfl,
      Draft.part_accessor (h.fits.nodup T.wellFormed) hc, Option.map_some]
    rw [Draft.update_part_accessor (v := w.addCase c member expression)
      (h.fits.nodup T.wellFormed) hc rfl]
    · rfl
    · intro b _ hb
      simp [Draft.accessor, Draft.addCase, hb]
    · simp [Draft.accessor, Draft.addCase, TypeEnv.setCaseIn_of_new hnew]

section step
variable {done : ColumnMapping → List Row} {before after : List Row} {row : Row}

theorem Filled.cells_update (h : p.Filled m d keyType base s done w u)
    (hcell : m.coerces d c = false → p.CellFits (d.returnName c) row c.column) {b : ColumnMapping}
    (hb : b ∈ m.columns) (hcoerces : m.coerces d b = false) {r : Row}
    (hr : r ∈ Function.update done c (done c ++ [row]) b) : p.CellFits (d.returnName b) r b.column := by
  rw [Function.update_apply] at hr
  split at hr
  next hbc =>
    subst hbc
    rcases List.mem_append.mp hr with hr | hr
    · exact h.cells b hb hcoerces r hr
    · rw [List.mem_singleton.mp hr]
      exact hcell hcoerces
  next => exact h.cells b hb hcoerces r hr

/-- A row for which a column makes no case. -/
theorem Filled.pass (h : p.Filled m d keyType base s done w u)
    (hcases : p.casesOver m d c (done c ++ [row]) = p.casesOver m d c (done c))
    (hcell : m.coerces d c = false → p.CellFits (d.returnName c) row c.column) :
    p.Filled m d keyType base s (Function.update done c (done c ++ [row])) w u := by
  refine ⟨h.settled, ?_, fun b hb hcoerces r hr => h.cells_update hcell hb hcoerces hr⟩
  intro b hb
  rw [h.cases b hb, Function.update_apply]
  split
  next hbc => rw [hbc, hcases]
  next => rfl

/-- A row for which a column makes a case. -/
theorem Filled.setCase (h : p.Filled m d keyType base s done w u) (T : p.Table m d keyType)
    (hc : c ∈ m.columns) (hsplit : d.rows = done c ++ row :: after) (hrows : RowsDistinct d.rows)
    {expression : String} (hcoerces : m.coerces d c = false)
    (hcase : p.directCase? m c (d.returnName c) row = some (row.memberName, expression))
    (hcell : p.CellFits (d.returnName c) row c.column) :
    p.Filled m d keyType base s (Function.update done c (done c ++ [row]))
      (w.addCase c row.memberName expression)
      { u with env := u.env.setCase (m.accessorId c) row.memberName expression } := by
  have hwork := h.settled.working
  have hover : p.casesOver m d c (done c ++ [row]) =
      w.cases c ++ [(row.memberName, expression)] := by
    rw [casesOver_concat hcoerces, hcase, h.cases c hc]
    rfl
  have hprefix : done c ++ [row] <+: d.rows := ⟨after, by simp [hsplit]⟩
  have hnew : row.memberName ∉ (w.cases c).map (·.1) := by
    rw [h.cases c hc]
    intro hmem
    exact (RowsDistinct.append_singleton.mp (hrows.of_prefix hprefix)).2.2.1 (mem_of_mem_casesOver hmem)
  have hcases : ∀ b, (w.addCase c row.memberName expression).cases b =
      if b = c then p.casesOver m d c (done c ++ [row]) else w.cases b := by
    intro b
    rw [hover]
    exact Function.update_apply ..
  have hfits : (w.addCase c row.memberName expression).Fits p m d u.completed := by
    refine ⟨hwork.fits.columns, hwork.fits.rows, ?_, ?_⟩
    · intro b
      rw [hcases b]
      split
      next hbc =>
        subst hbc
        exact casesOver_prefix hprefix b
      next => exact hwork.fits.cases b
    · exact fun _ _ => ⟨h.settled.columns, h.settled.rows, h.settled.completed⟩
  have hnext := hwork.setCase T (h.settled.columns ▸ hc) hnew hfits
  refine ⟨{ h.settled with working := hnext }, ?_,
    fun b hb hcoerces r hr => h.cells_update (fun _ => hcell) hb hcoerces hr⟩
  intro b hb
  rw [hcases b, Function.update_apply]
  split
  next hbc => rw [hbc]
  next => exact h.cases b hb

/-- A row whose null stands for nothing in the target. -/
theorem Filled.pass_null (h : p.Filled m d keyType base s done w u) (hcoerces : m.coerces d c = false)
    {raw : Value} (hlookup : row.cells.lookup c.column = some raw)
    (hnull : (raw.isNull && (p.maps (d.returnName c) || isValueKind (d.returnName c))) = true) :
    p.Filled m d keyType base s (Function.update done c (done c ++ [row])) w u := by
  have hnone : p.directCase? m c (d.returnName c) row = none := by
    simp [directCase?, hlookup, directExpression?_eq_none hnull]
  refine h.pass ?_ fun _ => ⟨raw, hlookup, fun _ hsome => ?_⟩
  · simp [casesOver_concat hcoerces, hnone]
  · rw [(Bool.and_eq_true_iff.mp hnull).1] at hsome
    cases hsome

/-- Where a cell does not fit no compilation of the table succeeds. -/
theorem Table.not_compilable_of_cell (T : p.Table m d keyType) (hrow : row ∈ d.rows) (hc : c ∈ m.columns)
    (hcoerces : m.coerces d c = false) (h : ¬ p.CellFits (d.returnName c) row c.column) :
    ¬ p.Compilable m :=
  T.not_compilable fun hfits => h (hfits.cells row hrow c hc hcoerces)

theorem Working.fails_missing (h : p.Working m d keyType base s w u) (T : p.Table m d keyType)
    (hrow : row ∈ d.rows) (hc : c ∈ m.columns) (hcoerces : m.coerces d c = false)
    (hlookup : row.cells.lookup c.column = none) :
    p.Fails m base s (.missingCell c.column) u := by
  refine h.fails (T.not_compilable_of_cell hrow hc hcoerces ?_) ?_
  · rintro ⟨raw, hraw, -⟩
    rw [hlookup] at hraw
    cases hraw
  · intro hloaded
    have hcell := hloaded m T.mem d T.data row hrow c hc
    simp [hlookup] at hcell

/-- A cell that is the key of no row. -/
theorem Working.fails_cell (h : p.Working m d keyType base s w u) (T : p.Table m d keyType)
    (hrow : row ∈ d.rows) (hc : c ∈ m.columns) (hcoerces : m.coerces d c = false) {raw : Value}
    (hlookup : row.cells.lookup c.column = some raw) (hmaps : p.maps (d.returnName c) = true)
    (hsome : raw.isNull = false) {e : CompileError}
    (hwrong : raw.usableAsKey = false ∧ e = .unusableKey raw.keyFault ∨
      p.rowsUnder (d.returnName c) raw = [] ∧ ∃ referencedBy, e = .unresolvedKey (d.returnName c) raw referencedBy) :
    p.Fails m base s e u := by
  have hcell : p.CellFits (d.returnName c) row c.column →
      raw.usableAsKey = true ∧ p.rowsUnder (d.returnName c) raw ≠ [] := by
    rintro ⟨raw', hraw', hfits⟩
    rw [hlookup] at hraw'
    obtain rfl := Option.some.inj hraw'
    exact hfits hmaps hsome
  rcases hwrong with ⟨hunusable, rfl⟩ | ⟨hmissing, referencedBy, rfl⟩
  · refine h.fails (T.not_compilable_of_cell hrow hc hcoerces fun hfits => ?_) ?_
    · rw [(hcell hfits).1] at hunusable
      cases hunusable
    · intro hhashable
      have husable := (hhashable m T.mem d T.data row hrow).2 c hc raw hlookup
      rw [hunusable] at husable
      cases husable
  · exact h.fails (T.not_compilable_of_cell hrow hc hcoerces fun hfits => (hcell hfits).2 hmissing) trivial

theorem ends_addCase (T : p.Table m d keyType) (hc : c ∈ m.columns)
    (hsplit : d.rows = done c ++ row :: after) (hrows : RowsDistinct d.rows)
    (h : p.Filled m d keyType base s done w u) :
    Ends (addCase m row.memberName row c) u
      (fun _ v => ∃ w', p.Filled m d keyType base s (Function.update done c (done c ++ [row])) w' v)
      (p.Fails m base s) := by
  have hrow : row ∈ d.rows := by simp [hsplit]
  have hwork := h.settled.working
  have hreturns : (w.accessor m d c).returns =
      TypeEnv.nodeAt (p.directStage (d.returnName c)) (d.returnName c) := by
    rw [Draft.accessor, h.settled.stage c hc]
  unfold addCase
  rw [ends_bind, ends_env]
  simp only [hwork.accessor?_eq T (h.settled.columns ▸ hc), hreturns,
    show (w.accessor m d c).coercion = m.coerces d c from rfl]
  cases hcoerces : m.coerces d c with
  | true =>
    simp only [Bool.not_true, Bool.false_eq_true, if_false, ends_pure]
    refine ⟨w, h.pass ?_ (by simp [hcoerces])⟩
    simp [casesOver, hcoerces]
  | false =>
    simp only [Bool.not_false, if_true]
    cases hlookup : row.cells.lookup c.column with
    | none => exact ends_throw.mpr (hwork.fails_missing T hrow hc hcoerces hlookup)
    | some raw =>
      simp only [refusesNull_direct]
      refine ends_ite.mpr ⟨?_, ?_⟩
      · intro hnull
        rw [ends_note]
        refine ⟨w, Filled.pass_null { h with settled := ?_ } hcoerces hlookup hnull⟩
        exact { h.settled with working := hwork.note _ (by simp) }
      · intro hnull
        simp only [ends_bind, ends_modifyEnv]
        rcases caseExpression_cases hwork.inv m c (h.settled.completed c hc) hnull with
          ⟨expression, hok, hdirect, htarget⟩ | ⟨hmaps, hsome, e, herror, hwrong⟩
        · simp only [hok, ends_liftExcept_ok]
          refine ⟨_, h.setCase T hc hsplit hrows hcoerces ?_ ⟨raw, hlookup, fun hmaps _ => htarget hmaps⟩⟩
          simp [directCase?, hlookup, hdirect]
        · simp only [herror, ends_liftExcept_error]
          exact hwork.fails_cell T hrow hc hcoerces hlookup hmaps hsome hwrong

end step

theorem Filled.congr {done done' : ColumnMapping → List Row}
    (h : p.Filled m d keyType base s done w u) (hsame : ∀ c ∈ m.columns, done' c = done c) :
    p.Filled m d keyType base s done' w u where
  settled := h.settled
  cases c hc := (hsame c hc).symm ▸ h.cases c hc
  cells c hc hcoerces row hrow := h.cells c hc hcoerces row (hsame c hc ▸ hrow)

theorem ends_addCases (T : p.Table m d keyType) {before after : List Row} {row : Row}
    (hsplit : d.rows = before ++ row :: after) (hrows : RowsDistinct d.rows)
    (h : p.Filled m d keyType base s (fun _ => before) w u) :
    Ends (addCases m keyType.name row) u
      (fun _ v => ∃ w', p.Filled m d keyType base s (fun _ => before ++ [row]) w' v)
      (p.Fails m base s) := by
  -- columns that had their turn are one row ahead of the others
  let inv : List ColumnMapping → Session → Prop := fun columns v =>
    ∃ w', p.Filled m d keyType base s (fun c => if c ∈ columns then before ++ [row] else before) w' v
  unfold addCases
  rw [Draft.name_memberOf]
  refine Ends.mono (ends_forM inv m.columns ?_ ?_) ?_ fun _ _ hfails => hfails
  · exact ⟨w, by simpa using h⟩
  · rintro columns c rest v hcolumns ⟨w', hfilled⟩
    have hc : c ∈ m.columns := by simp [hcolumns]
    have hturn : c ∉ columns := by
      have hnodup := T.wellFormed.accessors
      rw [hcolumns, List.map_append, List.map_cons, List.nodup_append] at hnodup
      exact fun hmem => hnodup.2.2 _ (List.mem_map_of_mem hmem) _ List.mem_cons_self rfl
    refine Ends.mono (ends_addCase T hc (by simpa [hturn] using hsplit) hrows hfilled) ?_
      fun _ _ hfails => hfails
    rintro - t ⟨w'', hnext⟩
    refine ⟨w'', hnext.congr ?_⟩
    intro b _
    by_cases hb : b = c <;> simp [hb, hturn]
  · rintro - v ⟨w', hfilled⟩
    exact ⟨w', hfilled.congr fun c hc => (if_pos hc).symm⟩

/-- All cases are there, or the table cannot be compiled. -/
theorem ends_addAllCases (T : p.Table m d keyType) (hrows : RowsDistinct d.rows)
    (h : p.Settled m d keyType base s m.columns w u) (hcases : ∀ c, w.cases c = []) :
    Ends (d.rows.forM (addCases m keyType.name)) u
      (fun _ v => ∃ w', p.Filled m d keyType base s (fun _ => d.rows) w' v) (p.Fails m base s) := by
  refine ends_forM (fun before v => ∃ w', p.Filled m d keyType base s (fun _ => before) w' v)
    d.rows ⟨w, h, ?_, by simp⟩ ?_
  · intro c _
    rw [hcases c, casesOver]
    split <;> rfl
  · rintro before row after v hsplit ⟨w', hfilled⟩
    exact ends_addCases T hsplit hrows hfilled

theorem Filled.finished (h : p.Filled m d keyType base s (fun _ => d.rows) w u)
    (T : p.Table m d keyType) : p.Finished u.env m := by
  refine ⟨d, keyType, T.data, T.key, h.settled.working.part.trans ?_, h.settled.settled⟩
  have hcolumns := h.settled.columns
  exact Draft.part_congr hcolumns h.settled.rows (fun c hc => h.settled.stage c (hcolumns ▸ hc))
    fun c hc => h.cases c (hcolumns ▸ hc)

theorem Filled.compilable (h : p.Filled m d keyType base s (fun _ => d.rows) w u)
    (T : p.Table m d keyType) (hstorage : ∀ c ∈ m.columns, (d.storageType? c.column).isSome)
    (hrows : RowsDistinct d.rows) : p.Compilable m := by
  refine Compilable.intro T.data ⟨by simp [T.key], hstorage, hrows, ?_⟩ ?_
  · exact fun row hrow c hc hcoerces => h.cells c hc hcoerces row hrow
  · intro c hc target htarget
    obtain ⟨hmem, hname⟩ := mapping?_eq_some.mp htarget
    have hmaps : p.maps (d.returnName c) = true := Option.isSome_iff_exists.mpr ⟨target, htarget⟩
    exact h.settled.working.inv.compilable target hmem (hname ▸ h.settled.completed c hc hmaps)

end Plan

end LookupEnums
