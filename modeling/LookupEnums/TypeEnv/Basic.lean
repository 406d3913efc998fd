import LookupEnums.Value.Basic

/-! # The type environment

The names of types met in a compilation, each at one of three stages, with the enumerations and
accessors generated so far. A name enters once, keeps its place, and its stage only moves forward:
from unresolved to external or internal, and from external to internal. -/

namespace LookupEnums

/-- A name nothing is known about yet, a type from elsewhere, or an enumeration of ours. -/
inductive Stage
  | unresolved
  | external
  | internal
  deriving DecidableEq, Repr

/-- A type by its name; a serial number marks one that does not belong to the environment. -/
structure TypeId where
  name : String
  serial : Option Nat := none
  deriving DecidableEq, Repr

/-- What a name stood for at some moment. -/
structure TypeNode where
  stage : Stage
  id : TypeId
  deriving DecidableEq, Repr

namespace TypeNode

def name (n : TypeNode) : String :=
  n.id.name

def isInternal (n : TypeNode) : Bool :=
  n.stage == .internal

end TypeNode

structure Member where
  name : String
  literal : String
  raw : Value
  keyType : String

structure EnumType where
  id : TypeId
  attributes : List String
  keyType : Option String := none
  members : List Member := []
  /-- The names of its accessors in the order of their declaration. -/
  accessorNames : List String := []

namespace EnumType

def name (t : EnumType) : String :=
  t.id.name

def memberNames (t : EnumType) : List String :=
  t.members.map (·.name)

end EnumType

/-- Accessors are told apart by the name of their owner and their own. -/
structure AccessorId where
  owner : String
  name : String
  deriving DecidableEq, Repr

/-- An accessor of an enumeration. `cases` gives the expression for each member that has one;
a coercion has no cases. -/
structure Accessor where
  id : AccessorId
  owner : TypeId
  returns : TypeNode
  coercion : Bool
  nullable : Bool
  cases : List (String × String) := []

namespace Accessor

def name (a : Accessor) : String :=
  a.id.name

end Accessor

structure TypeEnv where
  /-- Every name met with its stage, in order of arrival. -/
  stages : List (String × Stage) := []
  enums : List EnumType := []
  /-- In order of declaration. -/
  accessors : List Accessor := []

namespace TypeEnv

def empty : TypeEnv := {}

def stage? (env : TypeEnv) (name : String) : Option Stage :=
  env.stages.lookup name

def nodeAt (stage : Stage) (name : String) : TypeNode :=
  ⟨stage, ⟨name, none⟩⟩

def lookup? (env : TypeEnv) (name : String) : Option TypeNode :=
  (env.stage? name).map (nodeAt · name)

def enum? (env : TypeEnv) (id : TypeId) : Option EnumType :=
  env.enums.find? (·.id = id)

def accessor? (env : TypeEnv) (id : AccessorId) : Option Accessor :=
  env.accessors.find? (·.id = id)

def internalNames (env : TypeEnv) : List String :=
  env.stages.filterMap fun (name, stage) => if stage = .internal then some name else none

def externalNames (env : TypeEnv) : List String :=
  env.stages.filterMap fun (name, stage) => if stage = .external then some name else none

def internalTypes (env : TypeEnv) : List EnumType :=
  env.internalNames.filterMap fun name => env.enum? ⟨name, none⟩

def accessorsOf (env : TypeEnv) (t : EnumType) : List Accessor :=
  t.accessorNames.filterMap fun name => env.accessor? ⟨t.name, name⟩

def missing (env : TypeEnv) (a : Accessor) : List String :=
  if a.coercion then []
  else
    let names := ((env.enum? a.owner).map EnumType.memberNames).getD []
    names.filter fun m => (a.cases.lookup m).isNone

end TypeEnv

end LookupEnums
