import LookupEnums.TypeEnv.Basic

/-! # Operations on the type environment

Names enter by `reference`, `resolve` and `define`; accessors by `declare`. `ground` says what a
node stands for once its name is resolved, and `settleReturn` writes that into an accessor. -/

namespace LookupEnums.TypeEnv

def bindIn (name : String) (stage : Stage) : List (String × Stage) → List (String × Stage)
  | [] => [(name, stage)]
  | (n, s) :: rest =>
    if n = name then (n, stage) :: rest else (n, s) :: bindIn name stage rest

def bind (env : TypeEnv) (name : String) (stage : Stage) : TypeEnv :=
  { env with stages := bindIn name stage env.stages }

def reference (env : TypeEnv) (name : String) : TypeEnv :=
  match env.stage? name with
  | some _ => env
  | none => env.bind name .unresolved

/-- A name that is not known to be ours is taken as external. -/
def resolve (env : TypeEnv) (name : String) : TypeEnv :=
  match env.stage? name with
  | some .internal | some .external => env
  | _ => env.bind name .external

/-- A name becomes an enumeration of ours; one that is already stays as it is. -/
def define (env : TypeEnv) (name : String) (attributes : List String) : TypeEnv :=
  match env.stage? name with
  | some .internal => env
  | _ =>
    let env := env.bind name .internal
    { env with enums := env.enums ++ [{ id := ⟨name, none⟩, attributes }] }

def nodeOf (env : TypeEnv) (name : String) : TypeNode :=
  (env.lookup? name).getD (nodeAt .unresolved name)

def addLoose (env : TypeEnv) (id : TypeId) : TypeEnv :=
  { env with enums := env.enums ++ [{ id, attributes := [] }] }

def updateEnum (env : TypeEnv) (id : TypeId) (change : EnumType → EnumType) : TypeEnv :=
  { env with enums := env.enums.map fun t => if t.id = id then change t else t }

def updateAccessor (env : TypeEnv) (id : AccessorId) (change : Accessor → Accessor) : TypeEnv :=
  { env with accessors := env.accessors.map fun a => if a.id = id then change a else a }

def setKeyType (env : TypeEnv) (id : TypeId) (keyType : String) : TypeEnv :=
  env.updateEnum id fun t => { t with keyType := some keyType }

/-- Declares an accessor of `owner`, unless one of that name and owner's name is there already. -/
def declare (env : TypeEnv) (a : Accessor) : TypeEnv :=
  match env.accessor? a.id with
  | some _ => env
  | none =>
    let env := { env with accessors := env.accessors ++ [a] }
    env.updateEnum a.owner fun t => { t with accessorNames := t.accessorNames ++ [a.name] }

/-- What a node stands for now: never unresolved. -/
def groundNode (env : TypeEnv) (n : TypeNode) : TypeNode :=
  match n.stage, env.stage? n.name with
  | .internal, _ => n
  | _, some .internal => nodeAt .internal n.name
  | .external, _ => n
  | .unresolved, _ => nodeAt .external n.name

def ground (env : TypeEnv) (n : TypeNode) : TypeEnv :=
  match n.stage with
  | .unresolved => env.resolve n.name
  | _ => env

def settleReturn (env : TypeEnv) (id : AccessorId) : TypeEnv :=
  match env.accessor? id with
  | none => env
  | some a =>
    (env.ground a.returns).updateAccessor id fun b =>
      { b with returns := env.groundNode a.returns }

/-- Settles what an accessor returns after `onDemand` has had a chance to define its name. -/
def resolveReturn (onDemand : String → TypeEnv → TypeEnv) (env : TypeEnv) (id : AccessorId) :
    TypeEnv :=
  match env.accessor? id with
  | none => env
  | some a => (onDemand a.returns.name env).settleReturn id

def setCaseIn (member expression : String) : List (String × String) → List (String × String)
  | [] => [(member, expression)]
  | (m, e) :: rest =>
    if m = member then (m, expression) :: rest else (m, e) :: setCaseIn member expression rest

def setCase (env : TypeEnv) (id : AccessorId) (member expression : String) : TypeEnv :=
  env.updateAccessor id fun a => { a with cases := setCaseIn member expression a.cases }

end LookupEnums.TypeEnv
