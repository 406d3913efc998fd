import LookupEnums.TypeEnv.Qualified

/-! # Summaries

What an environment holds, as plain data: each enumeration with its members and accessors, and the
names of the external types in order. -/

namespace LookupEnums

structure AccessorSummary where
  name : String
  returns : String
  foreignKey : Bool
  coercion : Bool
  nullable : Bool
  cases : Nat
  missing : List String
  deriving DecidableEq, Repr

structure TypeSummary where
  name : String
  keyType : Option String
  attributes : List String
  /-- Names and literals. -/
  members : List (String × String)
  accessors : List AccessorSummary
  deriving DecidableEq, Repr

structure Summary where
  types : List TypeSummary
  externalTypes : List String
  deriving DecidableEq, Repr

namespace TypeEnv

def summarizeAccessor (env : TypeEnv) (owner : String) (a : Accessor) : AccessorSummary :=
  { name := a.name
    returns := Source.returnName a.returns owner
    foreignKey := a.returns.isInternal
    coercion := a.coercion
    nullable := a.nullable
    cases := a.cases.length
    missing := env.missing a }

def summarizeType (env : TypeEnv) (t : EnumType) : TypeSummary :=
  { name := t.name
    keyType := t.keyType
    attributes := t.attributes
    members := t.members.map fun m => (m.name, m.literal)
    accessors := (env.accessorsOf t).map (env.summarizeAccessor t.name) }

def summarize (env : TypeEnv) : Summary :=
  { types := env.internalTypes.map env.summarizeType
    externalTypes := env.externalNames.mergeSort (· ≤ ·) }

end TypeEnv

end LookupEnums
