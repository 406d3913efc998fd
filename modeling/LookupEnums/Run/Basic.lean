import LookupEnums.Adapter.Address
import LookupEnums.Adapter.Error
import LookupEnums.Compile.Error
import LookupEnums.Config.Substitution
import LookupEnums.Database.Select
import LookupEnums.Files.Tree
import LookupEnums.Log
import LookupEnums.Mapping.Document
import LookupEnums.Settings.Basic
import LookupEnums.Yaml.Token

/-! # Runs

A run works on a file tree, sees the variables of the environment, and writes log records. A failing
run keeps the tree and the records it reached.
-/

namespace LookupEnums

inductive RunError
  | config (e : ConfigError)
  /-- A scalar that its tag does not fit. -/
  | scalar (e : Yaml.Failure)
  | mapping (e : MappingError)
  /-- Columns that cannot be walked through. -/
  | notIterable
  | adapter (e : AdapterError)
  /-- An address that is not even a wrong one. -/
  | address (e : AddressError)
  | compile (e : CompileError)
  | cell (e : CellError)
  /-- An operation on the file of a path. -/
  | file (e : FileError) (about : Path)
  | settings (e : Settings.LoadError)

namespace RunError

def ofParse : MappingDocument.ParseError → RunError
  | .mapping e => mapping e
  | .notIterable => notIterable

end RunError

structure World where
  tree : Tree := {}
  env : Environment := []
  log : List LogRecord := []

abbrev Run := EStateM RunError World

namespace Run

def tree : Run Tree :=
  return (← get).tree

def note (r : LogRecord) : Run Unit :=
  modify fun w => { w with log := w.log ++ [r] }

def lift (wrap : ε → RunError) : Except ε α → Run α
  | .ok a => pure a
  | .error e => throw (wrap e)

def onDisk (about : Path) (d : Disk α) : Run α := fun w =>
  match d w.tree with
  | .ok a t => .ok a { w with tree := t }
  | .error e t => .error (.file e about) { w with tree := t }

def settings : Run Settings := do
  let w ← get
  lift .settings (Settings.load w.tree w.env)

end Run

end LookupEnums
