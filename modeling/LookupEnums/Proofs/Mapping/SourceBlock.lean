import LookupEnums.Mapping.Load
import LookupEnums.Proofs.Run.Ending

/-! # The source of a mapping and the rest

A mapping says in one place where its database is: under the key `source`, or in the first two lines of
the line format. What the rest of it says about tables is read and checked for itself, and a source
that can be read takes no part in that.
-/
namespace LookupEnums

namespace Value

def isSource : Value × Value → Bool
  | (.text key, _) => key == "source"
  | _ => false

/-- A field stands among the entries that are kept if all entries of its name are. -/
theorem field?_filter {name : String} {keep : Value × Value → Bool} (entries : List (Value × Value))
    (hkeep : ∀ v, keep (.text name, v) = true) :
    field? name (entries.filter keep) = field? name entries := by
  unfold field?
  induction entries with
  | nil => rfl
  | cons e rest ih =>
    cases hk : keep e with
    | true => rw [List.filter_cons_of_pos hk, List.findSome?_cons, List.findSome?_cons, ih]
    | false =>
      rw [List.filter_cons_of_neg (by simp [hk]), ih, List.findSome?_cons]
      obtain ⟨k, v⟩ := e
      cases k with
      | text s =>
        by_cases hs : s = name
        · rw [hs, hkeep] at hk
          cases hk
        · simp [hs]
      | _ => rfl

end Value

namespace Substitution
variable {env : Environment} {keep : Value × Value → Bool}

/-- Entries that are told apart by their keys can be substituted in apart. -/
theorem inEntries_split (hkeep : ∀ k v v', keep (k, v) = keep (k, v'))
    {entries kept : List (Value × Value)} (h : inEntries env (entries.filter keep) = .ok kept) :
    (∀ e, inEntries env (entries.filter fun x => !keep x) = .error e →
      inEntries env entries = .error e) ∧
    ∀ left, inEntries env (entries.filter fun x => !keep x) = .ok left →
      ∃ all, inEntries env entries = .ok all ∧ all.filter keep = kept ∧
        all.filter (fun x => !keep x) = left := by
  induction entries generalizing kept with
  | nil =>
    cases h
    refine ⟨fun e he => he, fun left hleft => ?_⟩
    cases hleft
    exact ⟨[], rfl, rfl, rfl⟩
  | cons entry rest ih =>
    obtain ⟨k, v⟩ := entry
    cases hk : keep (k, v) with
    | true =>
      rw [List.filter_cons_of_pos hk, inEntries] at h
      rw [List.filter_cons_of_neg (by simp [hk]), inEntries]
      cases hv : inValue env v with
      | error e =>
        rw [hv] at h
        cases h
      | ok v' =>
        cases hrest : inEntries env (rest.filter keep) with
        | error e =>
          rw [hv, hrest] at h
          cases h
        | ok kept' =>
          rw [hv, hrest] at h
          cases h
          obtain ⟨herror, hok⟩ := ih hrest
          refine ⟨fun e he => by rw [herror e he]; rfl, fun left hleft => ?_⟩
          obtain ⟨all, hall, hkept, hothers⟩ := hok left hleft
          have hk' : keep (k, v') = true := (hkeep k v' v).trans hk
          refine ⟨(k, v') :: all, by rw [hall]; rfl, ?_, ?_⟩
          · rw [List.filter_cons_of_pos hk', hkept]
          · rw [List.filter_cons_of_neg (by simp [hk']), hothers]
    | false =>
      rw [List.filter_cons_of_neg (by simp [hk])] at h
      rw [List.filter_cons_of_pos (by simp [hk]), inEntries, inEntries]
      obtain ⟨herror, hok⟩ := ih h
      cases hv : inValue env v with
      | error e' =>
        constructor
        · intro e he
          exact he
        · intro left hleft
          cases hleft
      | ok v' =>
        cases hleft : inEntries env (rest.filter fun x => !keep x) with
        | error e' =>
          constructor
          · intro e he
            rw [herror e' hleft]
            exact he
          · intro left h
            cases h
        | ok left' =>
          constructor
          · intro e he
            cases he
          · intro left h
            cases h
            obtain ⟨all, hall, hkept, hothers⟩ := hok left' hleft
            have hk' : keep (k, v') = false := (hkeep k v' v).trans hk
            refine ⟨(k, v') :: all, by rw [hall]; rfl, ?_, ?_⟩
            · rw [List.filter_cons_of_neg (by simp [hk']), hkept]
            · rw [List.filter_cons_of_pos (by simp [hk']), hothers]

end Substitution

namespace MappingFile
open MappingLines (NumberedLine entry)

/-- What a mapping says besides its source: entries under other keys, or the lines after it. -/
inductive Rest
  | entries (list : List (Value × Value))
  | lines (list : List NumberedLine)

structure Parts where
  source : List (Value × Value)
  rest : Rest

def linesSource (kind : String) (connection : List Char) : Value × Value :=
  entry "source" (.dict [entry "type" (.text kind),
    entry (MappingLines.connectionField kind) (.text (String.ofList connection))])

def parts? (p : Path) (text : String) : Option Parts :=
  if isLineFormat p then
    match MappingLines.significant text.toList with
    | first :: connection :: rest =>
      if !MappingLines.databaseHead.isPrefixOf first.content
          || MappingLines.colons.isPrefixOf connection.content then none
      else match MappingLines.readKind first.content with
        | .ok kind => some ⟨[linesSource kind connection.content], .lines rest⟩
        | .error _ => none
    | _ => none
  else match Yaml.load text.toList with
    | .ok (.dict entries) =>
      some ⟨entries.filter Value.isSource, .entries (entries.filter fun e => !Value.isSource e)⟩
    | _ => none

/-- The entries of a source, with variables replaced, are read as `source`. -/
def Declares (env : Environment) (entries : List (Value × Value)) (source : Option SourceConfig) :
    Prop :=
  ∃ list, Substitution.inEntries env entries = .ok list ∧
    Field.withDefault "source" none (Field.optional SourceConfig.check) list = .ok source

def refusal : Rejection → RunError
  | .problems list => .mapping ⟨MappingDocument.problemsMessage list, none⟩
  | .notIterable => .notIterable

def checkTables (entries : List (Value × Value)) : Checked (List TableMapping) := do
  let tables ← Field.required "tables" MappingDocument.checkTables entries
  MappingDocument.checkTypeNames [] tables
  return tables

def entriesTables (env : Environment) (entries : List (Value × Value)) :
    Except RunError (List TableMapping) := do
  let list ← (Substitution.inEntries env entries).mapError .config
  (checkTables list).mapError refusal

def Rest.tables (env : Environment) : Rest → Except RunError (List TableMapping)
  | .entries list => entriesTables env list
  | .lines list => do
    let tables ← (MappingLines.readTables none list >>= (·.mapM MappingLines.complete)).mapError
      .mapping
    entriesTables env [entry "tables" (.list (tables.map MappingLines.TableEntry.toValue))]

theorem withDefault_congr {α : Type} {name : String} {fallback : α} {check : Value → Checked α}
    {list list' : List (Value × Value)} (h : Value.field? name list = Value.field? name list') :
    Field.withDefault name fallback check list = Field.withDefault name fallback check list' := by
  unfold Field.withDefault
  rw [h]

theorem required_congr {α : Type} {name : String} {check : Value → Checked α}
    {list list' : List (Value × Value)} (h : Value.field? name list = Value.field? name list') :
    Field.required name check list = Field.required name check list' := by
  unfold Field.required
  rw [h]

theorem field?_source (list : List (Value × Value)) :
    Value.field? "source" (list.filter Value.isSource) = Value.field? "source" list :=
  Value.field?_filter list fun v => by simp [Value.isSource]

theorem field?_tables (list : List (Value × Value)) :
    Value.field? "tables" (list.filter fun e => !Value.isSource e) = Value.field? "tables" list :=
  Value.field?_filter list fun v => by simp [Value.isSource]

theorem checkEntries_of_source {source : Option SourceConfig} {list : List (Value × Value)}
    (h : Field.withDefault "source" none (Field.optional SourceConfig.check)
      (list.filter Value.isSource) = .ok source) :
    MappingDocument.checkEntries list =
      (checkTables (list.filter fun e => !Value.isSource e)).map (⟨source, ·⟩) := by
  rw [withDefault_congr (field?_source list)] at h
  unfold MappingDocument.checkEntries checkTables
  rw [h, required_congr (field?_tables list)]
  cases Field.required "tables" MappingDocument.checkTables list with
  | error r => rfl
  | ok tables =>
    change (MappingDocument.checkTypeNames [] tables >>= fun _ => _) =
      (MappingDocument.checkTypeNames [] tables >>= fun _ => _).map _
    cases MappingDocument.checkTypeNames [] tables <;> rfl

/-- A source that can be read leaves the problems of the tables. -/
theorem parse_of_source {source : Option SourceConfig} {list : List (Value × Value)}
    (h : Field.withDefault "source" none (Field.optional SourceConfig.check)
      (list.filter Value.isSource) = .ok source) :
    (MappingDocument.parse (.dict list)).mapError RunError.ofParse =
      ((checkTables (list.filter fun e => !Value.isSource e)).mapError refusal).map (⟨source, ·⟩) := by
  unfold MappingDocument.parse MappingDocument.check
  simp only [checkEntries_of_source h]
  cases checkTables (list.filter fun e => !Value.isSource e) with
  | ok tables => rfl
  | error r => cases r <;> rfl

/-- What is read of entries is what their source and their tables are read as. -/
theorem parse_entries {env : Environment} {entries : List (Value × Value)}
    {source : Option SourceConfig} (h : Declares env (entries.filter Value.isSource) source) :
    ((Substitution.inValue env (.dict entries)).mapError RunError.config >>= fun config =>
        (MappingDocument.parse config).mapError RunError.ofParse) =
      (entriesTables env (entries.filter fun e => !Value.isSource e)).map (⟨source, ·⟩) := by
  obtain ⟨kept, hkept, hsource⟩ := h
  have hkeys : ∀ k v v', Value.isSource (k, v) = Value.isSource (k, v') := fun k v v' => by
    cases k <;> rfl
  obtain ⟨herror, hok⟩ := Substitution.inEntries_split hkeys hkept
  unfold entriesTables
  rw [Substitution.inValue]
  cases hleft : Substitution.inEntries env (entries.filter fun e => !Value.isSource e) with
  | error e =>
    rw [herror e hleft]
    rfl
  | ok left =>
    obtain ⟨all, hall, rfl, rfl⟩ := hok left hleft
    rw [hall]
    exact parse_of_source hsource

/-- The file holds a mapping with this source, as the variables are set, and this rest. -/
def Holds (w : World) (p : Path) (source : Option SourceConfig) (rest : Rest) : Prop :=
  ∃ text block, ConfigFile.readText w.tree p = .ok text ∧ parts? p text = some ⟨block, rest⟩ ∧
    Declares w.env block source

variable {w : World} {p : Path} {source : Option SourceConfig} {rest : Rest}

theorem read_structured {text : String} {entries : List (Value × Value)} (hp : isLineFormat p = false)
    (htext : ConfigFile.readText w.tree p = .ok text)
    (hload : Yaml.load text.toList = .ok (.dict entries)) :
    read w.tree w.env p = (Substitution.inValue w.env (.dict entries)).mapError .config := by
  rw [read, if_neg (by simp [hp]), readStructured, htext]
  change parseStructured p w.env text = _
  rw [parseStructured, hload]

/-- After the two lines of the source the format goes on with the tables. -/
theorem readLines_tables {first connection : NumberedLine} {kind : String} {list : List NumberedLine}
    (hfirst : MappingLines.databaseHead.isPrefixOf first.content = true)
    (hkind : MappingLines.readKind first.content = .ok kind)
    (hconnection : MappingLines.colons.isPrefixOf connection.content = false) :
    MappingLines.readLines (first :: connection :: list) =
      (MappingLines.readTables none list >>= (·.mapM MappingLines.complete)).map
        (⟨kind, String.ofList connection.content, ·⟩) := by
  rw [MappingLines.readLines, if_neg (by simp [hfirst]), hkind]
  change (if MappingLines.colons.isPrefixOf connection.content then _ else _) = _
  rw [if_neg (by simp [hconnection])]
  cases MappingLines.readTables none list with
  | error e => rfl
  | ok tables =>
    change (tables.mapM MappingLines.complete >>= fun _ => _) =
      (tables.mapM MappingLines.complete).map _
    cases tables.mapM MappingLines.complete <;> rfl

def linesEntries (kind : String) (connection : List Char) (tables : List MappingLines.TableEntry) :
    List (Value × Value) :=
  [linesSource kind connection,
    entry "tables" (.list (tables.map MappingLines.TableEntry.toValue))]

theorem read_of_lines {text : String} {first connection : NumberedLine} {kind : String}
    {list : List NumberedLine} (hp : isLineFormat p = true)
    (htext : ConfigFile.readText w.tree p = .ok text)
    (hlines : MappingLines.significant text.toList = first :: connection :: list)
    (hfirst : MappingLines.databaseHead.isPrefixOf first.content = true)
    (hkind : MappingLines.readKind first.content = .ok kind)
    (hconnection : MappingLines.colons.isPrefixOf connection.content = false) :
    read w.tree w.env p =
      ((MappingLines.readTables none list >>= (·.mapM MappingLines.complete)).mapError .mapping >>=
        fun tables => (Substitution.inValue w.env
          (.dict (linesEntries kind connection.content tables))).mapError .config) := by
  rw [read, if_pos hp, MappingFile.readLines, htext]
  change ((MappingLines.parse text).mapError RunError.mapping >>= _) = _
  rw [MappingLines.parse, MappingLines.read, hlines, readLines_tables hfirst hkind hconnection]
  cases MappingLines.readTables none list >>= (·.mapM MappingLines.complete) <;> rfl

theorem read_of_holds (h : Holds w p source rest) :
    (read w.tree w.env p >>= fun config => (MappingDocument.parse config).mapError RunError.ofParse) =
      (rest.tables w.env).map (⟨source, ·⟩) := by
  obtain ⟨text, block, htext, hparts, hsource⟩ := h
  unfold parts? at hparts
  split at hparts
  next hp =>
    split at hparts
    next first connection list hlines =>
      split at hparts
      next => cases hparts
      next hform =>
        split at hparts
        next kind hkind =>
          cases hparts
          simp only [Bool.or_eq_true, Bool.not_eq_true', not_or, Bool.not_eq_false,
            Bool.not_eq_true] at hform
          rw [read_of_lines hp htext hlines hform.1 hkind hform.2, Rest.tables]
          cases MappingLines.readTables none list >>= (·.mapM MappingLines.complete) with
          | error e => rfl
          | ok tables =>
            exact @parse_entries _ (linesEntries kind connection.content tables) _ hsource
        next => cases hparts
    next => cases hparts
  next hp =>
    split at hparts
    next entries hload =>
      cases hparts
      rw [read_structured (by simpa using hp) htext hload]
      exact parse_entries hsource
    next => cases hparts

theorem ending_load (h : Holds w p source rest) :
    ending (load p) w = (rest.tables w.env).map (⟨source, ·⟩) := by
  rw [← read_of_holds h]
  have hget : ending (MonadState.get : Run World) w = .ok w := rfl
  unfold load
  rw [(bind_ok hget).1]
  cases read w.tree w.env p with
  | error e => rfl
  | ok config =>
    change ending (Run.lift RunError.ofParse (MappingDocument.parse config) >>= fun d => _) w =
      (MappingDocument.parse config).mapError RunError.ofParse
    cases MappingDocument.parse config with
    | error e => rfl
    | ok d => rfl

end MappingFile

end LookupEnums
