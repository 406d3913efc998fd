import LookupEnums.Settings.Basic
import LookupEnums.Text.Cut

/-! # Command lines

`[--version] [--log-level LEVEL] COMMAND …`, where each command has options and at most a mapping
file. Options are long with a value in the next argument or behind `=`, or single letters that may
stand together; of an option that is repeated the last one counts. After `--` there are no options. -/

namespace LookupEnums
open Text

inductive Command
  | generate (mapping output : Option Path) (database : Option String)
  | inspect (mapping : Option Path) (database : Option String) (format : Option OutputFormat)
  | check (mapping : Option Path) (connect : Bool) (database : Option String)
      (format : OutputFormat)
  | listAdapters (format : OutputFormat)
  deriving DecidableEq, Repr

inductive UsageError
  | noSuchOption (name : String)
  | missingValue (option : String)
  | unwantedValue (option : String)
  | badValue (option value : String)
  | missingCommand
  | noSuchCommand (name : String)
  | extraArgument (argument : String)
  deriving DecidableEq, Repr

namespace CommandLine

structure OptionSpec where
  long : String
  short : Option Char := none
  takesValue : Bool := true
  deriving DecidableEq, Repr

structure Spec where
  options : List OptionSpec
  interspersed : Bool := true
  deriving DecidableEq, Repr

structure Given where
  options : List (String × String) := []
  rest : List String := []
  deriving DecidableEq, Repr

namespace Given

def add (g : Given) (name value : String) : Given :=
  { g with options := g.options ++ [(name, value)] }

def value? (g : Given) (name : String) : Option String :=
  (g.options.filter (·.1 = name)).getLast?.map (·.2)

def has (g : Given) (name : String) : Bool :=
  (g.value? name).isSome

end Given

namespace Spec

def long? (s : Spec) (name : String) : Option OptionSpec :=
  s.options.find? fun o => "--" ++ o.long = name

def short? (s : Spec) (letter : Char) : Option OptionSpec :=
  s.options.find? (·.short = some letter)

/-- Letters behind one dash; the value of a letter is what follows it, or the next argument. The
flag says whether that was used up. -/
def letters (s : Spec) (next : Option String) (g : Given) :
    List Char → Except UsageError (Given × Bool)
  | [] => .ok (g, false)
  | c :: r =>
    match s.short? c with
    | none => .error (.noSuchOption (String.ofList ['-', c]))
    | some o =>
      if !o.takesValue then letters s next (g.add o.long "") r
      else if !r.isEmpty then .ok (g.add o.long (String.ofList r), false)
      else match next with
        | some v => .ok (g.add o.long v, true)
        | none => .error (.missingValue o.long)

/-- One argument that starts with a dash. The flag says whether the next one belongs to it. -/
def option (s : Spec) (argument : String) (next : Option String) (g : Given) :
    Except UsageError (Given × Bool) :=
  let cut := cut? ['='] argument.toList
  let name := String.ofList ((cut.map (·.1)).getD argument.toList)
  match s.long? name, cut.map (·.2) with
  | some o, some v =>
    if o.takesValue then .ok (g.add o.long (String.ofList v), false)
    else .error (.unwantedValue o.long)
  | some o, none =>
    if !o.takesValue then .ok (g.add o.long "", false)
    else match next with
      | some v => .ok (g.add o.long v, true)
      | none => .error (.missingValue o.long)
  | none, _ =>
    match argument.toList with
    | '-' :: '-' :: _ => .error (.noSuchOption name)
    | _ :: letters => s.letters next g letters
    | [] => .ok (g, false)

def looksLikeOption (argument : String) : Bool :=
  argument.startsWith "-" && argument != "-"

def read (s : Spec) (g : Given) : List String → Except UsageError Given
  | [] => .ok g
  | [a] =>
    if a = "--" then .ok g
    else if looksLikeOption a then (s.option a none g).map (·.1)
    else .ok { g with rest := g.rest ++ [a] }
  | a :: b :: more =>
    if a = "--" then .ok { g with rest := g.rest ++ b :: more }
    else if looksLikeOption a then
      match s.option a (some b) g with
      | .error e => .error e
      | .ok (g, true) => read s g more
      | .ok (g, false) => read s g (b :: more)
    else if s.interspersed then read s { g with rest := g.rest ++ [a] } (b :: more)
    else .ok { g with rest := g.rest ++ a :: b :: more }

end Spec

end CommandLine

end LookupEnums
