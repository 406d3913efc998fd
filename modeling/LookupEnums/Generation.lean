import LookupEnums.Compile.Run
import LookupEnums.Files.Publishing
import LookupEnums.Loading
import LookupEnums.Mapping.Load
import LookupEnums.Settings.Basic
import LookupEnums.Source.Layout

/-! # Generation

From a mapping file to generated source: the mapping is loaded and checked, a database chosen, the
tables loaded and compiled, and the source rendered. Nothing is written unless all tables compile. -/

namespace LookupEnums

/-- Whether a database answers. The time it took is known only where it was reached. -/
structure ConnectionReport where
  kindName : String
  connected : Bool
  message : String
  latency : Option Nat
  deriving DecidableEq, Repr

namespace Generation

def addressConfig (url : String) : Except AdapterError AdapterConfig :=
  AdapterConfig.make AdapterKind.address.name [(.text "url", .text url)]

def given (s : Option String) : Option String :=
  s.filter (!·.isEmpty)

/-- The database to read: an explicit address before the source of the mapping, and that before the
address of the settings. -/
def chooseDatabase (s : Settings) (source : Option SourceConfig) (explicit : Option String) :
    Except AdapterError AdapterConfig :=
  match given explicit, source, given s.databaseUrl with
  | some url, _, _ => addressConfig url
  | none, some source, _ => AdapterConfig.make source.kind source.info
  | none, none, some url => addressConfig url
  | none, none, none => .error .noDatabase

def check (s : Settings) (p : Path) : Run MappingDocument := do
  let d ← MappingFile.load p
  if d.source.isSome then
    let _ ← Run.lift .adapter (chooseDatabase s d.source none)
  return d

/-- The mapping and the database it is to be read from. -/
def prepare (s : Settings) (p : Path) (explicit : Option String) :
    Run (MappingDocument × AdapterConfig) := do
  let d ← check s p
  let c ← Run.lift .adapter (chooseDatabase s d.source explicit)
  return (d, c)

def reportOf (c : AdapterConfig) (answers : Bool) : ConnectionReport :=
  ⟨c.kindName, answers, if answers then "Connection successful" else "Connection test failed",
    some 0⟩

def testConnection (s : Settings) (p : Path) (explicit : Option String) : Run ConnectionReport := do
  let (_, c) ← prepare s p explicit
  tryCatch
    (do
      let a ← ({ config := c } : Adapter).connect
      return reportOf c (← a.test))
    fun
      | .adapter e => return ⟨c.kindName, false, e.message, none⟩
      | e => throw e

def loadAll (s : Settings) (p : Path) (explicit : Option String) : Run (List TableMapping) := do
  let (d, c) ← prepare s p explicit
  Loading.loadAll c d.tables

/-- Runs a compilation from nothing and logs its events, also those before a failure. -/
def compilePlan (plan : Plan) : Run TypeEnv := do
  match plan.compile with
  | .ok _ s =>
    s.journal.forM fun e => Run.note e.record
    return s.env
  | .error e s =>
    s.journal.forM fun e => Run.note e.record
    throw (.compile e)

def compile (s : Settings) (p : Path) (explicit : Option String) : Run TypeEnv := do
  let ms ← loadAll s p explicit
  compilePlan (← Run.lift .compile (Plan.ofMappings ms))

def generate (s : Settings) (p : Path) (explicit : Option String) : Run String := do
  return Source.render s.indent (← compile s p explicit)

def logger : String := "dbenum.core.services.generation_service"

/-- Writes generated source to a file while steps of publishing it may meet trouble. -/
def writeAmid (trouble : Trouble) (s : Settings) (p output : Path) (explicit : Option String) :
    Run Path := do
  let source ← generate s p explicit
  Run.onDisk output (Publishing.publish trouble output source)
  Run.note ⟨.info, logger, s!"Wrote {output.text}"⟩
  return output

def write (s : Settings) (p output : Path) (explicit : Option String) : Run Path :=
  writeAmid .none s p output explicit

end Generation

end LookupEnums
