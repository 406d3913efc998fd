import LookupEnums.Compile.Error
import LookupEnums.Log
import LookupEnums.TypeEnv.Basic
import LookupEnums.TypeEnv.Operations

/-! # Sessions

The state of a compilation: the environment so far, the types being compiled with the outermost
first, the types that are finished, and the events so far. A failing step keeps the state it
reached.
-/

namespace LookupEnums

inductive CompileEvent
  | compiling (table typeName : String)
  | resolvedExternal (name : String)
  | promoted (earlier : Stage) (name : String)
  | noCase (typeName member accessor target : String)
  | compiled (count : Nat)
  deriving DecidableEq, Repr

namespace CompileEvent

def stageText : Stage → String
  | .unresolved => "UnresolvedType"
  | .external => "ExternalType"
  | .internal => "InternalType"

def compilerLogger : String := "dbenum.core.compiler"

def environmentLogger : String := "dbenum.core.environment"

def record : CompileEvent → LogRecord
  | compiling table typeName => ⟨.info, compilerLogger, s!"Compiling {table} as {typeName}"⟩
  | resolvedExternal name => ⟨.debug, environmentLogger, s!"Resolved external type: {name}"⟩
  | promoted earlier name =>
    ⟨.debug, environmentLogger, s!"Promoted {stageText earlier} {name} to internal type"⟩
  | noCase typeName member accessor target =>
    ⟨.debug, compilerLogger,
      s!"No case for {typeName}.{member} in {accessor}: null value for non-nullable {target}"⟩
  | compiled count => ⟨.info, compilerLogger, s!"Compiled {count} table(s)"⟩

def ofDefine (before : Option Stage) (name : String) : List CompileEvent :=
  match before with
  | none | some .internal => []
  | some stage => [promoted stage name]

def ofResolve (before : Option Stage) (name : String) : List CompileEvent :=
  match before with
  | some .internal | some .external => []
  | _ => [resolvedExternal name]

end CompileEvent

structure Session where
  env : TypeEnv := {}
  compiling : List String := []
  completed : List String := []
  journal : List CompileEvent := []

abbrev Compile := EStateM CompileError Session

namespace Compile

def env : Compile TypeEnv :=
  return (← get).env

def modifyEnv (change : TypeEnv → TypeEnv) : Compile Unit :=
  modify fun s => { s with env := change s.env }

def note (events : List CompileEvent) : Compile Unit :=
  modify fun s => { s with journal := s.journal ++ events }

def enter (typeName : String) : Compile Unit :=
  modify fun s => { s with compiling := s.compiling ++ [typeName] }

def leave : Compile Unit :=
  modify fun s => { s with compiling := s.compiling.dropLast }

def complete (typeName : String) : Compile Unit :=
  modify fun s => { s with completed := s.completed ++ [typeName] }

/-- Runs a step with a type on the stack; the type leaves it however the step ends. -/
def during (typeName : String) (step : Compile Unit) : Compile Unit := fun s =>
  match (do enter typeName; step : Compile Unit).run s with
  | .ok _ s => leave.run s
  | .error e s => .error e { s with compiling := s.compiling.dropLast }

def tryEnv (change : TypeEnv → Except CompileError TypeEnv) : Compile Unit := do
  match change (← env) with
  | .ok e => modifyEnv fun _ => e
  | .error e => throw e

end Compile

end LookupEnums
