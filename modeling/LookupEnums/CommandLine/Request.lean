import LookupEnums.CommandLine.Arguments

/-! # Requests

What a command line asks for. The command is found before anything runs; its own arguments are read
only after the log level is settled, so their faults come later. -/

namespace LookupEnums

inductive Request
  | version
  | command (level : Option LogLevel) (command : Except UsageError Command)

namespace CommandLine

def mainSpec : Spec :=
  ⟨[{ long := "version", short := some 'v', takesValue := false },
    { long := "log-level", short := some 'l' }], false⟩

def database : OptionSpec := { long := "database-url", short := some 'd' }
def format : OptionSpec := { long := "format", short := some 'f' }

def value (g : Given) (name : String) (read : String → Option α) : Except UsageError (Option α) :=
  match g.value? name with
  | none => .ok none
  | some v => match read v with
    | some a => .ok (some a)
    | none => .error (.badValue name v)

def formatOf (g : Given) : Except UsageError (Option OutputFormat) :=
  value g "format" OutputFormat.ofText?

def atMost (count : Nat) (g : Given) : Except UsageError Unit :=
  match g.rest.drop count with
  | [] => .ok ()
  | a :: _ => .error (.extraArgument a)

def mappingOf (g : Given) : Option Path :=
  g.rest.head?.map Path.ofText

def generate (arguments : List String) : Except UsageError Command := do
  let g ← Spec.read ⟨[{ long := "output", short := some 'o' }, database], true⟩ {} arguments
  atMost 1 g
  return .generate (mappingOf g) ((g.value? "output").map Path.ofText) (g.value? "database-url")

def inspect (arguments : List String) : Except UsageError Command := do
  let g ← Spec.read ⟨[database, format], true⟩ {} arguments
  let f ← formatOf g
  atMost 1 g
  return .inspect (mappingOf g) (g.value? "database-url") f

def check (arguments : List String) : Except UsageError Command := do
  let g ← Spec.read ⟨[{ long := "connect", takesValue := false }, database, format], true⟩ {}
    arguments
  let f ← formatOf g
  atMost 1 g
  return .check (mappingOf g) (g.has "connect") (g.value? "database-url") (f.getD .json)

def listAdapters (arguments : List String) : Except UsageError Command := do
  let g ← Spec.read ⟨[format], true⟩ {} arguments
  let f ← formatOf g
  atMost 0 g
  return .listAdapters (f.getD .json)

def adapters (arguments : List String) : Except UsageError Command := do
  let g ← Spec.read ⟨[], false⟩ {} arguments
  match g.rest with
  | [] => throw .missingCommand
  | "list" :: rest => listAdapters rest
  | name :: _ => throw (.noSuchCommand name)

def commands : List (String × (List String → Except UsageError Command)) :=
  [("generate", generate), ("inspect", inspect), ("check", check), ("adapters", adapters)]

/-- The version is shown whatever else is wrong with the values before the command. -/
def request (arguments : List String) : Except UsageError Request := do
  let g ← mainSpec.read {} arguments
  if g.has "version" then return .version
  let level ← value g "log-level" LogLevel.ofText?
  match g.rest with
  | [] => throw .missingCommand
  | name :: rest =>
    match commands.lookup name with
    | some read => return .command level (read rest)
    | none => throw (.noSuchCommand name)

end CommandLine

end LookupEnums
