import LookupEnums.Value.Basic

/-! # Variables in configurations

A text may name variables of the environment as `$` with the name in braces, or with the name,
`:-` and a default. A text falls into plain characters and variables from left to right, and each
variable is replaced once; what is put in is not looked at again. -/

namespace LookupEnums

inductive ConfigError
  | unsetVariable (name : String)
  | notFound (path : String)
  | cannotRead (path : String)
  | empty (path : String)
  | invalidSyntax (path : String)
  | notMapping (path : String)
  deriving DecidableEq, Repr

namespace ConfigError

/-- The message. What a reader of files or of configurations adds to it is left out. -/
def message : ConfigError → String
  | unsetVariable name => s!"Environment variable '{name}' is not set and no default provided"
  | notFound path => s!"Configuration file not found: {path}"
  | cannotRead path => s!"Cannot read {path}"
  | empty path => s!"Empty configuration file: {path}"
  | invalidSyntax path => s!"Invalid YAML in {path}"
  | notMapping path => s!"Expected a mapping at the top level of {path}"

end ConfigError

abbrev Environment := List (String × String)

namespace Substitution

structure Variable where
  name : List Char
  fallback : Option (List Char)
  deriving DecidableEq, Repr

inductive Segment
  | plain (c : Char)
  | variable (v : Variable)
  deriving DecidableEq, Repr

def isNameChar (c : Char) : Bool :=
  c != '}' && c != ':' && c != '-'

/-- What follows a name: the closing brace, or a default and the closing brace. The count is that of
the characters taken. -/
def ending? : List Char → Option (Option (List Char) × Nat)
  | '}' :: _ => some (none, 1)
  | ':' :: '-' :: r =>
    let fallback := r.takeWhile (· ≠ '}')
    if fallback.length < r.length then some (some fallback, fallback.length + 3) else none
  | _ => none

def reference? : List Char → Option (Variable × Nat)
  | '$' :: '{' :: r =>
    let name := r.takeWhile isNameChar
    if name.isEmpty then none
    else (ending? (r.dropWhile isNameChar)).map fun (fallback, n) =>
      (⟨name, fallback⟩, n + name.length + 2)
  | _ => none

/-- The segments of a text, of which the first `skip` characters are taken already. -/
def segmentsFrom : (skip : Nat) → List Char → List Segment
  | _, [] => []
  | skip + 1, _ :: r => segmentsFrom skip r
  | 0, c :: r =>
    match reference? (c :: r) with
    | some (v, n) => .variable v :: segmentsFrom (n - 1) r
    | none => .plain c :: segmentsFrom 0 r

def segments (s : List Char) : List Segment :=
  segmentsFrom 0 s

def replacement (env : Environment) : Segment → Except ConfigError (List Char)
  | .plain c => .ok [c]
  | .variable v =>
    match env.lookup (String.ofList v.name), v.fallback with
    | some value, _ => .ok value.toList
    | none, some fallback => .ok fallback
    | none, none => .error (.unsetVariable (String.ofList v.name))

def inText (env : Environment) (s : String) : Except ConfigError String :=
  ((segments s.toList).mapM (replacement env)).map fun parts => String.ofList parts.flatten

mutual

def inValue (env : Environment) : Value → Except ConfigError Value
  | .text s => (inText env s).map .text
  | .list items => (inItems env items).map .list
  | .dict entries => (inEntries env entries).map .dict
  | v => .ok v

def inItems (env : Environment) : List Value → Except ConfigError (List Value)
  | [] => .ok []
  | v :: rest => do
    let v ← inValue env v
    let rest ← inItems env rest
    return v :: rest

def inEntries (env : Environment) :
    List (Value × Value) → Except ConfigError (List (Value × Value))
  | [] => .ok []
  | (k, v) :: rest => do
    let v ← inValue env v
    let rest ← inEntries env rest
    return (k, v) :: rest

end

end Substitution

end LookupEnums
