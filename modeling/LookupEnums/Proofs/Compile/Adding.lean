import LookupEnums.Proofs.Compile.Outcome
import LookupEnums.Proofs.Compile.Working
import LookupEnums.Proofs.TypeEnv.Lookup

/-! # Adding the rows

Rows become members one after the other as long as they are distinct. A draft that has rows already
is one an earlier attempt left: its table cannot be compiled, and the very first row is refused.
-/
namespace LookupEnums
open Compile

namespace Draft
variable {p : Plan} {m : TableMapping} {d : TableData} {keyType : StorageType} {w : Draft}

@[simp] theorem name_memberOf (key : String) (row : Row) : (memberOf key row).name = row.memberName :=
  rfl

theorem memberNames_enum : (w.enum m keyType).memberNames = w.rows.map Row.memberName := by
  simp [EnumType.memberNames, enum, memberOf, Row.memberName]

/-- A key is looked up among the rows. -/
theorem memberWithKey?_enum (raw : Value) :
    (w.enum m keyType).memberWithKey? raw keyType.name =
      (w.rows.find? (·.key.sameKey raw)).map (memberOf keyType.name) := by
  unfold EnumType.memberWithKey? enum
  rw [List.find?_map]
  congr 2
  funext row
  simp [Member.hasKey, memberOf]

/-- A row whose member has the key of `row`. -/
theorem memberWithKey?_memberOf (row : Row) :
    (w.enum m keyType).memberWithKey? (memberOf keyType.name row).raw
        (memberOf keyType.name row).keyType =
      (w.rows.find? (·.key.sameKey row.key)).map (memberOf keyType.name) :=
  memberWithKey?_enum row.key

/-- The next row of a draft whose rows are not all there: so far there is no case. -/
theorem Fits.addRow {completed : List String} (h : w.Fits p m d completed) {row : Row}
    {after : List Row} (hsplit : d.rows = w.rows ++ row :: after) :
    (w.addRow row).Fits p m d completed := by
  have hempty : ∀ c, w.cases c = [] := by
    intro c
    by_contra hc
    have hall := (h.filled c hc).2.1
    rw [hsplit] at hall
    simp at hall
  exact ⟨h.columns, ⟨after, by simp [Draft.addRow, hsplit]⟩, h.cases, fun c hc => absurd (hempty c) hc⟩

end Draft

namespace Plan
variable {p : Plan} {m : TableMapping} {d : TableData} {keyType : StorageType} {base : List String}
  {s u : Session} {w : Draft}

theorem Working.addRow (h : p.Working m d keyType base s w u) (T : p.Table m d keyType) {row : Row}
    {after : List Row} (hsplit : d.rows = w.rows ++ row :: after) :
    p.Working m d keyType base s (w.addRow row) { u with
      env := u.env.updateEnum m.typeId fun _ =>
        { w.enum m keyType with
          members := (w.enum m keyType).members ++ [memberOf keyType.name row] } } := by
  have henum : ({ w.enum m keyType with
      members := (w.enum m keyType).members ++ [memberOf keyType.name row] } : EnumType) =
      (w.addRow row).enum m keyType := by
    simp [Draft.enum, Draft.addRow]
  have hpart := TypeEnv.part_updateEnum u.env m.typeName
    (fun _ => (w.addRow row).enum m keyType) fun _ _ => rfl
  rw [henum]
  refine h.change T (h.inv.admits.updateEnum fun _ _ => rfl) (StagesGrow.of_eq fun _ => rfl) ?_ ?_
    (h.fits.addRow hsplit)
  · exact fun t ht => (hpart t).trans (if_neg ht)
  · refine (hpart m.typeName).trans ?_
    rw [if_pos rfl, h.part]
    rfl

structure Added (p : Plan) (m : TableMapping) (d : TableData) (keyType : StorageType)
    (base : List String) (s : Session) (done : List Row) (w : Draft) (u : Session) : Prop where
  working : p.Working m d keyType base s w u
  columns : w.columns = m.columns
  rows : w.rows = done ∧ RowsDistinct done ∧ (∀ c, w.cases c = []) ∨
    done = [] ∧ w.rows ≠ [] ∧ ¬ p.Compilable m

/-- Whatever refuses a row refuses every compilation of the table. -/
theorem Added.fails {before after : List Row} {row : Row}
    (h : p.Added m d keyType base s before w u) (T : p.Table m d keyType)
    (hsplit : d.rows = before ++ row :: after) {e : CompileError} (he : p.Justifies e)
    (hnot : w.rows = before → ¬ RowsDistinct (before ++ [row])) : p.Fails m base s e u := by
  refine h.working.fails ?_ he
  rcases h.rows with ⟨hbefore, -⟩ | ⟨-, -, hfailed⟩
  · refine T.not_compilable fun hfits => hnot hbefore (hfits.rows.of_prefix ?_)
    exact ⟨after, by simp [hsplit]⟩
  · exact hfailed

/-- The first row of the table is among the rows of an earlier attempt. -/
theorem Added.rows_eq {before after : List Row} {row : Row}
    (h : p.Added m d keyType base s before w u) (hsplit : d.rows = before ++ row :: after)
    (hnew : row.memberName ∉ w.rows.map Row.memberName) :
    w.rows = before ∧ RowsDistinct before ∧ ∀ c, w.cases c = [] := by
  rcases h.rows with hrows | ⟨rfl, hsome, -⟩
  · exact hrows
  · have hprefix := h.working.fits.rows
    rw [hsplit, List.nil_append] at hprefix
    obtain ⟨first, rest, hw⟩ := List.exists_cons_of_ne_nil hsome
    rw [hw] at hprefix hnew
    obtain ⟨rfl, -⟩ := List.cons_prefix_cons.mp hprefix
    simp at hnew

theorem ends_addRow (T : p.Table m d keyType) {before after : List Row} {row : Row}
    (hsplit : d.rows = before ++ row :: after) (h : p.Added m d keyType base s before w u) :
    Ends (addRow m keyType.name row) u
      (fun _ v => ∃ w', p.Added m d keyType base s (before ++ [row]) w' v) (p.Fails m base s) := by
  have hmem : row ∈ d.rows := by simp [hsplit]
  unfold addRow
  simp only [Draft.name_memberOf, String.isEmpty_iff]
  refine ends_ite.mpr ⟨?_, ?_⟩
  · intro hempty
    rw [ends_bind, ends_throw]
    refine h.fails T hsplit trivial ?_
    intro _ hdistinct
    exact (RowsDistinct.append_singleton.mp hdistinct).2.1 hempty
  · intro hnamed
    simp only [ends_tryEnv, TypeEnv.addMember, h.working.enum?_eq]
    have hcases := (w.enum m keyType).addMember_cases (memberOf keyType.name row) row.label
    rcases hcases with ⟨htaken, hadd⟩ | ⟨hunusable, hadd⟩ | ⟨holder, hholder, hadd⟩ |
      ⟨hnew, husable, hkey, hadd⟩
    all_goals simp only [hadd, Except.map, ends_liftExcept_ok, ends_liftExcept_error]
    · refine h.fails T hsplit trivial ?_
      rintro rfl hdistinct
      rw [Draft.name_memberOf, Draft.memberNames_enum] at htaken
      exact (RowsDistinct.append_singleton.mp hdistinct).2.2.1 htaken
    · have hunusable : row.key.usableAsKey = false := hunusable
      refine h.fails T hsplit ?_ ?_
      · intro hhashable
        rw [(hhashable m T.mem d T.data row hmem).1] at hunusable
        cases hunusable
      · intro _ hdistinct
        rw [(RowsDistinct.append_singleton.mp hdistinct).2.2.2.1] at hunusable
        cases hunusable
    · refine h.fails T hsplit trivial ?_
      rintro rfl hdistinct
      rw [Draft.memberWithKey?_memberOf] at hholder
      obtain ⟨r, hr, -⟩ := Option.map_eq_some_iff.mp hholder
      have hsame : r.key.sameKey row.key = true := by simpa using List.find?_some hr
      rw [(RowsDistinct.append_singleton.mp hdistinct).2.2.2.2 r (List.mem_of_find?_eq_some hr)] at hsame
      cases hsame
    · rw [Draft.name_memberOf, Draft.memberNames_enum] at hnew
      obtain ⟨rfl, hdistinct, hcases⟩ := h.rows_eq hsplit hnew
      refine ⟨w.addRow row, h.working.addRow T hsplit, h.columns, Or.inl ⟨rfl, ?_, hcases⟩⟩
      rw [Draft.memberWithKey?_memberOf, Option.map_eq_none_iff] at hkey
      refine RowsDistinct.append_singleton.mpr ⟨hdistinct, hnamed, hnew, husable, ?_⟩
      exact fun r hr => by simpa using List.find?_eq_none.mp hkey r hr

/-- All rows are added, or the table cannot be compiled. -/
theorem ends_addRows (T : p.Table m d keyType) (h : p.Working m d keyType base s w u)
    (hcolumns : w.columns = m.columns) (hrows : w.rows = [] ∨ ¬ p.Compilable m) :
    Ends (d.rows.forM (addRow m keyType.name)) u
      (fun _ v => RowsDistinct d.rows ∧ ∃ w' : Draft, p.Working m d keyType base s w' v ∧
        w'.columns = m.columns ∧ w'.rows = d.rows ∧ ∀ c, w'.cases c = [])
      (p.Fails m base s) := by
  refine Ends.mono (ends_forM (fun done v => ∃ w', p.Added m d keyType base s done w' v)
    d.rows ?_ ?_) ?_ fun _ _ hfails => hfails
  · refine ⟨w, h, hcolumns, ?_⟩
    by_cases hnil : w.rows = []
    · exact Or.inl ⟨hnil, RowsDistinct.nil, h.fits.cases_eq_nil hnil⟩
    · exact Or.inr ⟨rfl, hnil, hrows.resolve_left hnil⟩
  · rintro before row after v hsplit ⟨w', hadded⟩
    exact ends_addRow T hsplit hadded
  · rintro - v ⟨w', hwork, hcolumns', hrows'⟩
    rcases hrows' with ⟨hall, hdistinct, hcases⟩ | ⟨hnone, hsome, -⟩
    · exact ⟨hdistinct, w', hwork, hcolumns', hall, hcases⟩
    · -- an earlier attempt leaves rows of the table only
      have hprefix := hwork.fits.rows
      rw [hnone, List.prefix_nil] at hprefix
      exact absurd hprefix hsome

end Plan

end LookupEnums
