import LookupEnums.Mapping.Check

/-! # Checking documents

A document names at least one table and no type twice; its source may be missing. A document that
fails is refused with all its problems in one message. -/

namespace LookupEnums
open Text

structure MappingError where
  reason : String
  table : Option String := none
  deriving DecidableEq, Repr

namespace MappingError

def message (e : MappingError) : String :=
  match e.table with
  | none => e.reason
  | some t => s!"Table {quotedString t}: {e.reason}"

end MappingError

namespace SourceConfig

def defaultKind : String := "sqlalchemy"

def check : Value → Checked SourceConfig
  | .dict entries => do
    let (kind, _) ←
      (Field.withDefault "type" defaultKind Field.text entries).both (Field.textKeys entries)
    return ⟨kind, entries.filter fun
      | (.text "type", _) => false
      | _ => true⟩
  | _ => Checked.notOf "SourceConfig"

end SourceConfig

namespace MappingDocument

def atLeastOne (count : Nat) : Checked Unit :=
  if count = 0 then Checked.problem "Tuple should have at least 1 item after validation, not 0"
  else .ok ()

def checkTables : Value → Checked (List TableMapping)
  | .list items =>
    let valid := items.countP fun v => (TableMapping.check v).isOk
    ((Checked.items TableMapping.check items).both (atLeastOne valid)).map (·.1)
  | v => Field.tuple TableMapping.check v

def checkTypeNames : (seen : List String) → List TableMapping → Checked Unit
  | _, [] => .ok ()
  | seen, m :: rest =>
    if seen.contains m.typeName then
      Checked.wrongValue s!"type {quotedString m.typeName} is declared by more than one table"
    else checkTypeNames (m.typeName :: seen) rest

def checkEntries (entries : List (Value × Value)) : Checked MappingDocument := do
  let (source, tables) ←
    (Field.withDefault "source" none (Field.optional SourceConfig.check) entries).both
      (Field.required "tables" checkTables entries)
  checkTypeNames [] tables
  return ⟨source, tables⟩

def check : Value → Checked MappingDocument
  | .dict entries => checkEntries entries
  | _ => Checked.notOf "MappingDocument"

def problemText (p : Problem) : String :=
  if p.place.isEmpty then p.message else s!"{p.placeText}: {p.message}"

def problemsMessage (list : List Problem) : String :=
  "Invalid mapping: " ++ "; ".intercalate (list.map problemText)

/-- Why a configuration is no document: its problems, or columns that cannot be walked through. -/
inductive ParseError
  | mapping (e : MappingError)
  | notIterable
  deriving Repr

def parse (config : Value) : Except ParseError MappingDocument :=
  match check config with
  | .ok d => .ok d
  | .error (.problems list) => .error (.mapping ⟨problemsMessage list, none⟩)
  | .error .notIterable => .error .notIterable

end MappingDocument

end LookupEnums
