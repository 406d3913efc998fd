import LookupEnums.Files.Tree
import LookupEnums.Log
import LookupEnums.Mapping.Problem
import LookupEnums.Settings.DotEnv
import LookupEnums.Text.LowerCase

/-! # Settings

What can be set by variables of the environment or in a file of variables. The names of variables
ignore letter case, and the environment wins over the file. -/

namespace LookupEnums
open Text

inductive OutputFormat
  | json
  | table
  deriving DecidableEq, Repr

namespace OutputFormat

def ofText? : String → Option OutputFormat
  | "json" => some json
  | "table" => some table
  | _ => none

def text : OutputFormat → String
  | json => "json"
  | table => "table"

end OutputFormat

structure Settings where
  mappingFile : Path := ⟨"", ["dbenum.yaml"]⟩
  outputFile : Option Path := none
  databaseUrl : Option String := none
  defaultFormat : OutputFormat := .json
  indent : Nat := 4
  logLevel : LogLevel := .warning
  deriving DecidableEq, Repr

namespace Settings

def variableHead : String := "dbenum_"

/-- The value of a field: the last variable of its name, whatever its case. -/
def value? (field : String) (env : Environment) : Option String :=
  let name := (variableHead ++ field).toList
  (env.filter fun v => lowered v.1.toList = name).getLast?.map (·.2)

/-- Leading zeros, with underscores among them, do not count; the last one does where no other digit
follows. -/
def dropLeadingZeros? : List Char → Option (List Char)
  | '0' :: r =>
    let rest := r.dropWhile fun c => c == '0' || c == '_'
    match rest with
    | [] => some [((r.getLast?).getD '0')]
    | '.' :: _ => some (((r.take (r.length - rest.length)).getLast?).getD '0' :: rest)
    | c :: _ => if c.isDigit then some rest else none
  | c :: r => if c.isDigit then some (c :: r) else none
  | [] => none

def dropZeroFraction (s : List Char) : List Char :=
  match cut? ['.'] s with
  | some (whole, fraction) => if fraction.all (· = '0') then whole else s
  | none => s

/-- The sign and the digits of a whole number as a text: blanks around it, a sign, leading zeros,
single underscores between digits and a fraction of zeros are allowed. -/
def intDigits? (s : String) : Option (Bool × List Char) := do
  let s := strip s.toList
  let s ← match s with
    | '+' :: '-' :: _ => none
    | '+' :: r => some r
    | _ => some s
  let (negative, s) := match s with
    | '-' :: r => (true, r)
    | _ => (false, s)
  let s ← dropLeadingZeros? s
  let s := dropZeroFraction s
  let digits := s.filter (· ≠ '_')
  if s.head? = some '_' || s.getLast? = some '_' || occursIn ['_', '_'] s || digits.isEmpty
      || !digits.all Char.isDigit then none
  else some (negative, digits)

def checkIndent (s : String) : Checked Nat :=
  match intDigits? s with
  | none => Checked.problem "Input should be a valid integer, unable to parse string as an integer"
  | some (negative, digits) =>
    if mostDigits < digits.length then
      Checked.problem "Unable to parse input string as an integer, exceeded maximum size"
    else
      let n := (readDecimal? digits).getD 0
      if negative || n < 1 then Checked.problem "Input should be greater than or equal to 1"
      else if 8 < n then Checked.problem "Input should be less than or equal to 8"
      else .ok n

def checkFormat (s : String) : Checked OutputFormat :=
  match OutputFormat.ofText? s with
  | some f => .ok f
  | none => Checked.problem "Input should be 'json' or 'table'"

def checkLevel (s : String) : Checked LogLevel :=
  match LogLevel.ofText? s with
  | some l => .ok l
  | none => Checked.problem "Input should be 'DEBUG', 'INFO', 'WARNING' or 'ERROR'"

def field (name : String) (fallback : α) (check : String → Checked α) (env : Environment) :
    Checked α :=
  match value? name env with
  | none => .ok fallback
  | some s => Checked.within (.name name) (check s)

def ofVariables (env : Environment) : Checked Settings := do
  let base : Settings := {}
  let (defaultFormat, indent, logLevel) ←
    (field "default_format" base.defaultFormat checkFormat env).both
      ((field "indent" base.indent checkIndent env).both
        (field "log_level" base.logLevel checkLevel env))
  return {
    mappingFile := ((value? "mapping_file" env).map Path.ofText).getD base.mappingFile
    outputFile := (value? "output_file" env).map Path.ofText
    databaseUrl := value? "database_url" env
    defaultFormat, indent, logLevel }

def variablesFile : Path := ⟨"", [".env"]⟩

inductive LoadError
  | rejected (r : Rejection)
  | notText
  deriving Repr

def load (t : Tree) (env : Environment) : Except LoadError Settings := do
  let fromFile ←
    if !t.isFile variablesFile then pure []
    else match t.text? variablesFile with
      | some s => pure (DotEnv.read env s)
      | none => throw .notText
  (ofVariables (fromFile ++ env)).mapError .rejected

def resolveOutput (s : Settings) : Disk (Option Path) := do
  if let some p := s.outputFile then Disk.makeDirectories p.parent
  return s.outputFile

end Settings

end LookupEnums
