import LookupEnums.Compile.Error
import LookupEnums.TypeEnv.Operations
import LookupEnums.Value.Key

/-! # Members of an enumeration

Members have distinct names and distinct keys; a key is a raw value together with the type it is
used as. Looking a key up gives the one member recorded under it. -/

namespace LookupEnums

namespace Member

def hasKey (m : Member) (raw : Value) (keyType : String) : Bool :=
  m.raw.sameKey raw && m.keyType = keyType

end Member

namespace EnumType

def memberWithKey? (t : EnumType) (raw : Value) (keyType : String) : Option Member :=
  t.members.find? (·.hasKey raw keyType)

/-- Records a member. Its name is looked at before its key. A null label counts as none, and the
raw key then stands for it in the error. -/
def addMember (t : EnumType) (m : Member) (label : Value) : Except CompileError EnumType :=
  if t.memberNames.contains m.name then
    .error (.duplicateMember t.name m.name (if label.isNull then m.raw else label))
  else if !m.raw.usableAsKey then .error (.unusableKey m.raw.keyFault)
  else match t.memberWithKey? m.raw m.keyType with
    | some holder => .error (.duplicateKey t.name m.raw holder.name)
    | none => .ok { t with members := t.members ++ [m] }

def memberFor (t : EnumType) (raw : Value) (keyType : String) (referencedBy : Option String) :
    Except CompileError Member :=
  if !raw.usableAsKey then .error (.unusableKey raw.keyFault)
  else match t.memberWithKey? raw keyType with
    | some m => .ok m
    | none => .error (.unresolvedKey t.name raw referencedBy)

end EnumType

namespace TypeEnv

def addMember (env : TypeEnv) (id : TypeId) (m : Member) (label : Value) :
    Except CompileError TypeEnv :=
  match env.enum? id with
  | none => .ok env
  | some t => (t.addMember m label).map fun t => env.updateEnum id fun _ => t

end TypeEnv

end LookupEnums
