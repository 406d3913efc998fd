import LookupEnums.Proofs.Mapping.Named
import LookupEnums.Proofs.Mapping.Reporting
import LookupEnums.Proofs.Mapping.WellFormed
import LookupEnums.Proofs.Source.Path
import LookupEnums.Proofs.Text.Separator

/-! # What becomes of a configuration

A configuration of any shape is read as a well-formed document or refused with a list of problems,
unless one of its tables gives for its columns a value that is neither blank nor made of anything: at
such a value the check ends.
-/
namespace LookupEnums
open Text Checked

def Value.Unwalkable : Value → Prop
  | .list _ | .text _ | .dict _ | .bytes _ _ => False
  | v => v.isTruthy = true

/-- One of the tables gives such a value for its columns. -/
def MappingDocument.Unwalkable (config : Value) : Prop :=
  ∃ entries tables table columns, config = .dict entries ∧
    Value.field? "tables" entries = some (.list tables) ∧ .dict table ∈ tables ∧
    Value.field? "columns" table = some columns ∧ columns.Unwalkable

namespace TableMapping

theorem columnEntries_cases (v : Value) :
    (v.Unwalkable ∧ columnEntries v = .error .notIterable) ∨
    (¬ v.Unwalkable ∧ ∃ items, columnEntries v = .ok items) := by
  have hscalar : ∀ v : Value, (v.Unwalkable ↔ v.isTruthy = true) →
      columnEntries v = (if v.isTruthy then .error .notIterable else .ok []) →
      (v.Unwalkable ∧ columnEntries v = .error .notIterable) ∨
      (¬ v.Unwalkable ∧ ∃ items, columnEntries v = .ok items) := by
    intro v hv hcolumns
    by_cases htruthy : v.isTruthy = true
    · exact Or.inl ⟨hv.mpr htruthy, hcolumns.trans (if_pos htruthy)⟩
    · exact Or.inr ⟨fun h => htruthy (hv.mp h), [], hcolumns.trans (if_neg htruthy)⟩
  cases v with
  | list items => exact Or.inr ⟨id, items, rfl⟩
  | text s => exact Or.inr ⟨id, _, rfl⟩
  | dict entries => exact Or.inr ⟨id, _, rfl⟩
  | bytes form content => exact Or.inr ⟨id, _, rfl⟩
  | _ => exact hscalar _ Iff.rfl rfl

theorem check_of_unwalkable {table : List (Value × Value)} {columns : Value}
    (hfield : Value.field? "columns" table = some columns) (h : columns.Unwalkable) :
    check (.dict table) = .error .notIterable := by
  have hcolumns : Value.fieldOrNull "columns" table = columns := by
    rw [Value.fieldOrNull, hfield]
    rfl
  change (prepare table >>= _) = _
  obtain ⟨-, hentries⟩ | ⟨hwalkable, -⟩ := columnEntries_cases columns
  · rw [prepare, hcolumns, hentries]
    rfl
  · exact absurd h hwalkable

theorem reports_prepare {entries : List (Value × Value)}
    (h : ∀ columns, Value.field? "columns" entries = some columns → ¬ columns.Unwalkable) :
    Reports (prepare entries) := by
  have hwalkable : ¬ (Value.fieldOrNull "columns" entries).Unwalkable := by
    rw [Value.fieldOrNull]
    cases hfield : Value.field? "columns" entries with
    | none => exact fun hnull => Bool.false_ne_true hnull
    | some columns => exact h columns hfield
  obtain ⟨hunwalkable, -⟩ | ⟨-, items, hitems⟩ :=
    columnEntries_cases (Value.fieldOrNull "columns" entries)
  · exact absurd hunwalkable hwalkable
  · rw [prepare, hitems]
    exact reports_ok _

theorem reports_checkRepeats (columns accessors : List String) (list : List ColumnMapping) :
    Reports (checkRepeats columns accessors list) := by
  induction list generalizing columns accessors with
  | nil => exact reports_ok ()
  | cons c rest ih =>
    unfold checkRepeats
    split
    · exact reports_problem _
    · split
      · exact reports_problem _
      · exact ih _ _

theorem reports_check {v : Value} (h : ∀ table columns, v = .dict table →
    Value.field? "columns" table = some columns → ¬ columns.Unwalkable) : Reports (check v) := by
  unfold check
  split
  next table =>
    refine (reports_prepare fun columns => h table columns rfl).bind fun entries => ?_
    refine Reports.bind ?_ fun fields => (reports_checkRepeats _ _ _).bind fun _ => reports_ok _
    exact (Field.reports_required Field.reports_nonEmptyText _ _).both
      ((Field.reports_requiredAs (Field.reports_matching _ _) _).both
        ((Field.reports_requiredAs Field.reports_nonEmptyText _).both
          ((Field.reports_required Field.reports_nonEmptyText _ _).both
            ((Field.reports_required (Field.reports_tuple ColumnMapping.reports_check) _ _).both
              ((Field.reports_withDefault (Field.reports_tuple Field.reports_text) _ _ _).both
                (Field.reports_withDefault (Field.reports_optional TableData.reports_check) _ _ _))))))
  next => exact reports_problem _

end TableMapping

namespace MappingDocument

theorem reports_checkTypeNames (seen : List String) (list : List TableMapping) :
    Reports (checkTypeNames seen list) := by
  induction list generalizing seen with
  | nil => exact reports_ok ()
  | cons m rest ih =>
    unfold checkTypeNames
    split
    · exact reports_problem _
    · exact ih _

theorem reports_atLeastOne (count : Nat) : Reports (atLeastOne count) := by
  unfold atLeastOne
  split
  · exact reports_problem _
  · exact reports_ok ()

theorem reports_checkTables {v : Value} (h : ∀ tables table columns, v = .list tables →
    .dict table ∈ tables → Value.field? "columns" table = some columns → ¬ columns.Unwalkable) :
    Reports (checkTables v) := by
  unfold checkTables
  split
  next tables =>
    refine ((reports_items (fun item hitem => ?_) 0).both (reports_atLeastOne _)).map _
    refine TableMapping.reports_check fun table columns htable => ?_
    exact h tables table columns rfl (htable ▸ hitem)
  next hlist =>
    unfold Field.tuple
    split
    next tables => exact absurd rfl (hlist tables)
    next => exact reports_problem _

theorem reports_check {config : Value} (h : ¬ Unwalkable config) : Reports (check config) := by
  unfold check
  split
  next entries =>
    refine Reports.bind ?_ fun fields => (reports_checkTypeNames _ _).bind fun _ => reports_ok _
    refine (Field.reports_withDefault (Field.reports_optional SourceConfig.reports_check) _ _ _).both
      (Reports.within ?_ _)
    cases htables : Value.field? "tables" entries with
    | none => exact reports_problem _
    | some v =>
      refine reports_checkTables fun tables table columns hlist htable hcolumns hunwalkable => h ?_
      subst hlist
      exact ⟨entries, tables, table, columns, rfl, htables, htable, hcolumns, hunwalkable⟩
  next => exact reports_problem _

theorem check_of_unwalkable {config : Value} (h : Unwalkable config) :
    check config = .error .notIterable := by
  obtain ⟨entries, tables, table, columns, rfl, htables, htable, hcolumns, hunwalkable⟩ := h
  have hlist : checkTables (.list tables) = .error .notIterable := by
    have hall := items_of_notIterable htable
      (TableMapping.check_of_unwalkable hcolumns hunwalkable) 0
    rw [checkTables, Checked.items, hall]
    cases atLeastOne (tables.countP fun v => (TableMapping.check v).isOk) <;> rfl
  have hfield : Field.required "tables" checkTables entries = .error .notIterable := by
    rw [Field.required, htables]
    change within _ (checkTables (.list tables)) = _
    rw [hlist]
    rfl
  change checkEntries entries = _
  rw [checkEntries, hfield, both_of_notIterable _ rfl]
  rfl

end MappingDocument

def IsIdentifier (s : List Char) : Prop :=
  ∃ c rest, s = c :: rest ∧ (c.isAlpha = true ∨ c = '_') ∧
    ∀ d ∈ rest, d.isAlphanum = true ∨ d = '_'

def IsDottedIdentifier (s : List Char) : Prop :=
  ∃ parts, parts ≠ [] ∧ (∀ part ∈ parts, IsIdentifier part) ∧ s = joinWith ['.'] parts

theorem isIdentifier_of_check {s : List Char} (h : Field.isIdentifier s = true) :
    IsIdentifier s := by
  cases s with
  | nil => cases h
  | cons c rest =>
    simp only [Field.isIdentifier, Field.isNameStart, Field.isNameChar, Bool.and_eq_true,
      Bool.or_eq_true, beq_iff_eq, List.all_eq_true] at h
    exact ⟨c, rest, rfl, h.1, h.2⟩

theorem isDottedIdentifier_of_check {s : List Char} (h : Field.isDottedIdentifier s = true) :
    IsDottedIdentifier s := by
  refine ⟨pieces ['.'] s, pieces_ne_nil '.' s, ?_, (joinWith_pieces '.' s).symm⟩
  intro part hpart
  exact isIdentifier_of_check (List.all_eq_true.mp h part hpart)

/-- The place for the literal stands in the template, if there is one. -/
theorem ColumnMapping.infix_of_templateHolds {c : ColumnMapping} (h : c.templateHolds = true) :
    ∀ t ∈ c.template, '%' :: c.column.toList ++ ['%'] <:+: t.toList := by
  intro t ht
  rw [ColumnMapping.templateHolds, Option.mem_def.mp ht] at h
  exact (occursIn_iff (List.cons_ne_nil _ _)).mp h

/-- What a document promises of its tables and their columns. -/
structure MappingDocument.WellFormed (d : MappingDocument) : Prop where
  tables : d.tables ≠ []
  typeNames : d.typeNames.Nodup
  typeName : ∀ m ∈ d.tables, IsDottedIdentifier m.typeName.toList
  columns : ∀ m ∈ d.tables, (m.columns.map (·.column)).Nodup
  accessors : ∀ m ∈ d.tables, (m.columns.map (·.accessor)).Nodup
  accessor : ∀ m ∈ d.tables, ∀ c ∈ m.columns, IsIdentifier c.accessor.toList
  template : ∀ m ∈ d.tables, ∀ c ∈ m.columns, ∀ t ∈ c.template,
    '%' :: c.column.toList ++ ['%'] <:+: t.toList

namespace MappingDocument

theorem nodup_of_checkTypeNames {seen : List String} {list : List TableMapping}
    (h : checkTypeNames seen list = .ok ()) :
    (list.map (·.typeName)).Nodup ∧ ∀ m ∈ list, m.typeName ∉ seen := by
  induction list generalizing seen with
  | nil => simp
  | cons m rest ih =>
    unfold checkTypeNames at h
    split at h
    · cases h
    next hnew => exact Keyed.fresh_cons (by simpa using hnew) (ih h)

theorem of_checkTables {v : Value} {tables : List TableMapping} (h : checkTables v = .ok tables) :
    tables ≠ [] ∧ ∀ m ∈ tables, ∃ v, TableMapping.check v = .ok m := by
  cases v with
  | list items =>
    obtain ⟨⟨checked, _⟩, hboth, rfl⟩ := of_map h
    obtain ⟨hitems, hone⟩ := both_eq_ok hboth
    refine ⟨?_, of_items hitems⟩
    cases items with
    | nil => cases hone
    | cons item rest =>
      obtain ⟨⟨m, more⟩, -, rfl⟩ := of_map hitems
      exact List.cons_ne_nil m more
  | _ => cases h

theorem wellFormed_of_check {config : Value} {d : MappingDocument} (h : check config = .ok d) :
    d.WellFormed := by
  cases config with
  | dict entries =>
    change checkEntries entries = .ok d at h
    unfold checkEntries at h
    obtain ⟨⟨source, tables⟩, hfields, h⟩ := of_bind h
    obtain ⟨_, hnames, h⟩ := of_bind h
    cases h
    obtain ⟨given, hgiven⟩ := Field.of_requiredAs (both_eq_ok hfields).2
    obtain ⟨hne, hchecked⟩ := of_checkTables hgiven
    have htable : ∀ m ∈ tables, m.Named ∧ m.WellFormed ∧
        ∀ c ∈ m.columns, c.templateHolds = true := by
      intro m hm
      obtain ⟨v, hv⟩ := hchecked m hm
      refine ⟨TableMapping.named_of_check hv, TableMapping.wellFormed_of_check hv, fun c hc => ?_⟩
      obtain ⟨w, hw⟩ := (TableMapping.of_check hv).2 c hc
      exact (ColumnMapping.of_check hw).2
    exact {
      tables := hne
      typeNames := (nodup_of_checkTypeNames hnames).1
      typeName := fun m hm => isDottedIdentifier_of_check (htable m hm).1.typeName
      columns := fun m hm => (htable m hm).2.1.columns
      accessors := fun m hm => (htable m hm).2.1.accessors
      accessor := fun m hm c hc => isIdentifier_of_check ((htable m hm).1.accessors c hc)
      template := fun m hm c hc => ColumnMapping.infix_of_templateHolds ((htable m hm).2.2 c hc) }
  | _ => cases h

/-- Whatever the shape of a configuration, it is read as a well-formed document or refused with its
problems, if every table can be walked through; otherwise it is refused without any. -/
theorem parse_outcome (config : Value) :
    (Unwalkable config ∧ parse config = .error .notIterable) ∨
    (¬ Unwalkable config ∧
      ((∃ d, parse config = .ok d ∧ d.WellFormed) ∨
        ∃ problems, problems ≠ [] ∧
          parse config = .error (.mapping ⟨problemsMessage problems, none⟩))) := by
  unfold parse
  by_cases h : Unwalkable config
  · refine Or.inl ⟨h, ?_⟩
    rw [check_of_unwalkable h]
  · refine Or.inr ⟨h, ?_⟩
    cases hcheck : check config with
    | ok d => exact Or.inl ⟨d, rfl, wellFormed_of_check hcheck⟩
    | error r =>
      obtain ⟨p, rest, rfl⟩ := reports_check h r hcheck
      exact Or.inr ⟨p :: rest, List.cons_ne_nil p rest, rfl⟩

def countedColumns : Value :=
  .dict [(.text "tables", .list [.dict [(.text "table", .text "Currency"), (.text "key", .text "Id"),
    (.text "label", .text "Code"), (.text "columns", .int 5)]])]

/-- A number for the columns of a table gives neither a document nor a list of problems. -/
theorem parse_countedColumns :
    (∀ d, parse countedColumns ≠ .ok d) ∧ ∀ e, parse countedColumns ≠ .error (.mapping e) := by
  have hparse : parse countedColumns = .error .notIterable := by rfl
  rw [hparse]
  exact ⟨nofun, nofun⟩

end MappingDocument

end LookupEnums
