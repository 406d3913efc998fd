import LookupEnums.Config.Substitution
import LookupEnums.Files.Tree
import LookupEnums.Mapping.Lines
import LookupEnums.Run.Basic
import LookupEnums.Text.Blank
import LookupEnums.Yaml.Load

/-! # Loading mapping files

Files ending in `.txt` or `.map` are in the line format, all others structured documents. Variables
are replaced after reading, in values only.
-/

namespace LookupEnums
open Text

namespace ConfigFile

def readText (t : Tree) (p : Path) : Except ConfigError String :=
  if !t.exists? p then .error (.notFound p.text)
  else match t.text? p with
    | none => .error (.cannotRead p.text)
    | some s =>
      let content := unifyLineEnds s.toList
      if isAllBlank content then .error (.empty p.text) else .ok (String.ofList content)

end ConfigFile

namespace MappingFile

def lineSuffixes : List String := [".txt", ".map"]

def isLineFormat (p : Path) : Bool :=
  lineSuffixes.contains p.lowerSuffix

/-- The data of a text in the structured format, with variables replaced. Of an endless text the
variables count that come before it turns to itself. -/
def parseStructured (p : Path) (env : Environment) (text : String) : Except RunError Value :=
  match Yaml.load text.toList with
  | .ok .null => .error (.config (.empty p.text))
  | .ok (.dict entries) => (Substitution.inValue env (.dict entries)).mapError .config
  | .ok _ => .error (.config (.notMapping p.text))
  | .error .malformed => .error (.config (.invalidSyntax p.text))
  | .error (.endless before) => do
    let _ ← (before.mapM (Substitution.inText env)).mapError .config
    throw (.scalar (.endless before))
  | .error e => .error (.scalar e)

def readStructured (t : Tree) (env : Environment) (p : Path) : Except RunError Value := do
  parseStructured p env (← (ConfigFile.readText t p).mapError .config)

def readLines (t : Tree) (env : Environment) (p : Path) : Except RunError Value := do
  let text ← (ConfigFile.readText t p).mapError .config
  let v ← (MappingLines.parse text).mapError .mapping
  (Substitution.inValue env v).mapError .config

def read (t : Tree) (env : Environment) (p : Path) : Except RunError Value :=
  if isLineFormat p then readLines t env p else readStructured t env p

def logger : String := "dbenum.core.services.mapping_loader"

def load (p : Path) : Run MappingDocument := do
  let w ← get
  let config ← Run.lift id (read w.tree w.env p)
  let d ← Run.lift RunError.ofParse (MappingDocument.parse config)
  Run.note ⟨.info, logger, s!"Loaded {d.tables.length} table mapping(s) from {p.text}"⟩
  return d

end MappingFile

end LookupEnums
