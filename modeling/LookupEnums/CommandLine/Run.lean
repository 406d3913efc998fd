import LookupEnums.Adapter.Config
import LookupEnums.CommandLine.Report
import LookupEnums.CommandLine.Request
import LookupEnums.Run.Basic
import LookupEnums.Terminal.Markup
import LookupEnums.Terminal.Wrapping

/-! # Running command lines

A command runs in a world and leaves an outcome: an exit code and what it wrote to the output and to
the messages. Log records go before the messages, as far as the log level lets them through.

Every failure that a user can mend has a message and the exit code 1; any other is unexpected and has
the exit code 2.
-/

namespace LookupEnums
open Text

structure Failure where
  lines : List (List Char)
  code : Nat
  deriving DecidableEq, Repr

namespace Failure

def headed (heading message : String) : List Char :=
  s!"[red]{heading}:[/red] ".toList ++ Markup.escape message.toList

def hint (text : String) : List Char :=
  s!"[dim]{text}[/dim]".toList

def unexpected : Failure :=
  ⟨["[red]Unexpected error[/red]".toList], 2⟩

def ofCompileError : CompileError → Failure
  | .notLoaded table => ⟨[headed "Configuration error" (CompileError.notLoaded table).message], 1⟩
  | .duplicateType t table =>
    ⟨[headed "Configuration error" (CompileError.duplicateType t table).message], 1⟩
  | .schema e =>
    ⟨[headed "Schema mismatch" e.message,
      hint "Check the table and column names in the mapping file."], 1⟩
  | .cycle path =>
    ⟨[headed "Error" (CompileError.cycle path).message,
      hint "Tables may not reference each other in a cycle, nor reference their own type."], 1⟩
  | .unusableKey _ | .missingCell _ => unexpected
  | e => ⟨[headed "Error" e.message], 1⟩

/-- The kind of an unknown adapter is shown with its markup. -/
def ofAdapterError : AdapterError → Failure
  | .unknownKind kind =>
    ⟨["[red]Error:[/red] Unknown source type: ".toList ++ quoted kind.toList,
      hint ("Available types: " ++ ", ".intercalate (AdapterKind.all.map (·.name)))], 1⟩
  | e => ⟨[headed "Error" e.message], 1⟩

def ofRunError : RunError → Failure
  | .config e => ⟨[headed "Configuration error" e.message], 1⟩
  | .mapping e => ⟨[headed "Configuration error" e.message], 1⟩
  | .compile e => ofCompileError e
  | .adapter e => ofAdapterError e
  | .file .notFound about => ⟨["[red]Error:[/red] File not found: ".toList ++ about.text.toList], 1⟩
  | _ => unexpected

end Failure

namespace Terminal

def message? (width : Nat) (s : List Char) : Option (List (List Char)) :=
  (Markup.shown? s).map fun shown => Wrapping.wrap .fold width (Wrapping.withoutHidden shown)

end Terminal

structure Outcome where
  code : Nat
  output : String := ""
  messages : String := ""
  /-- The arguments were not understood. -/
  usage : Bool := false
  deriving DecidableEq, Repr

structure Display where
  output : List Char := []
  messages : List (List Char) := []
  code : Nat := 0
  deriving DecidableEq, Repr

namespace Command

def version : String := "dbenum 0.1.0"

def withEnds (lines : List (List Char)) : List Char :=
  lines.flatMap (· ++ ['\n'])

def report (width : Nat) (format : OutputFormat) (j : Option Json) : Display :=
  match j.bind (Report.lines? width format) with
  | some lines => { output := withEnds lines }
  | none => { messages := Failure.unexpected.lines, code := Failure.unexpected.code }

def mappingPath (s : Settings) (mapping : Option Path) : Path :=
  mapping.getD s.mappingFile

def destination (s : Settings) (output : Option Path) : Run (Option Path) :=
  match output, s.outputFile with
  | some p, _ => pure (some p)
  | none, some p => Run.onDisk p s.resolveOutput
  | none, none => pure none

def runGenerate (mapping output : Option Path) (database : Option String) : Run Display := do
  let s ← Run.settings
  let target ← destination s output
  match target with
  | none =>
    let source ← Generation.generate s (mappingPath s mapping) database
    return { output := source.toList }
  | some p =>
    let written ← Generation.write s (mappingPath s mapping) p database
    let name := Markup.escape written.text.toList
    return { messages := ["Wrote [bold]".toList ++ name ++ "[/bold]".toList] }

def typeLines? (width : Nat) (t : TypeSummary) : Option (List (List Char)) := do
  let members ← Report.lines? width .table (Summary.membersJson t)
  let accessors ←
    if t.accessors.isEmpty then some [] else Report.lines? width .table (Summary.accessorsJson t)
  return t.name.toList :: members ++ accessors

def inspected (width : Nat) (format : OutputFormat) (s : Summary) : Display :=
  match format with
  | .json => report width .json (some s.toJson)
  | .table => match s.types.mapM (typeLines? width) with
    | some parts => { output := withEnds parts.flatten }
    | none => { messages := Failure.unexpected.lines, code := Failure.unexpected.code }

def runInspect (width : Nat) (mapping : Option Path) (database : Option String)
    (format : Option OutputFormat) : Run Display := do
  let s ← Run.settings
  let env ← Generation.compile s (mappingPath s mapping) database
  return inspected width (format.getD s.defaultFormat) env.summarize

def runCheck (width : Nat) (mapping : Option Path) (connect : Bool) (database : Option String)
    (format : OutputFormat) : Run Display := do
  let s ← Run.settings
  if connect then
    let r ← Generation.testConnection s (mappingPath s mapping) database
    let d := report width format (some r.toJson)
    return if r.connected then d else { d with code := 1 }
  else
    let d ← Generation.check s (mappingPath s mapping)
    match format with
    | .json => return report width .json (Report.document? d)
    | .table => return report width .table (some (Report.tables d))

def display (width : Nat) : Command → Run Display
  | generate mapping output database => runGenerate mapping output database
  | inspect mapping database format => runInspect width mapping database format
  | check mapping connect database format => runCheck width mapping connect database format
  | listAdapters format => return report width format (some Report.adapters)

/-- What a command shows when its failures are told to the user, and the world it leaves. -/
def run (width : Nat) (c : Command) (w : World) : Display × World :=
  match c.display width w with
  | .ok d w => (d, w)
  | .error e w =>
    let f := Failure.ofRunError e
    ({ messages := f.lines, code := f.code }, w)

end Command

namespace CommandLine

def usageOutcome : Outcome := { code := 2, usage := true }

def crash (messages : List Char) : Outcome :=
  { code := 1, messages := String.ofList messages }

def logLines (level : LogLevel) (log : List LogRecord) : List Char :=
  Command.withEnds ((log.filter (·.isShownAt level)).map (·.line.toList))

/-- Wrong markup in a message ends the run. -/
def outcome (width : Nat) (logged : List Char) (d : Display) : Outcome :=
  match d.messages.mapM (Terminal.message? width) with
  | none => crash logged
  | some parts =>
    { code := d.code
      output := String.ofList d.output
      messages := String.ofList (logged ++ Command.withEnds parts.flatten) }

def levelFor (level : Option LogLevel) (w : World) : Except Settings.LoadError LogLevel :=
  match level with
  | some l => .ok l
  | none => (Settings.load w.tree w.env).map (·.logLevel)

def runCommand (width : Nat) (level : Option LogLevel) (c : Except UsageError Command) (w : World) :
    Outcome × World :=
  match levelFor level w with
  | .error _ => (crash [], w)
  | .ok l =>
    match c with
    | .error _ => (usageOutcome, w)
    | .ok c =>
      let (d, after) := c.run width w
      (outcome width (logLines l after.log) d, after)

def run (width : Nat) (arguments : List String) (w : World) : Outcome × World :=
  match request arguments with
  | .error _ => (usageOutcome, w)
  | .ok .version => ({ code := 0, output := Command.version ++ "\n" }, w)
  | .ok (.command level c) => runCommand width level c w

end CommandLine

end LookupEnums
