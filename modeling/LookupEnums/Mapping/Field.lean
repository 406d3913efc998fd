import LookupEnums.Mapping.Problem
import LookupEnums.Text.Cut
import LookupEnums.Text.LowerCase

/-! # Checks of single fields

Texts, flags, names and lists inside unchecked data, with the message for each way of being
wrong. -/

namespace LookupEnums.Field
open Text

def text : Value → Checked String
  | .text s => .ok s
  | .bytes (.view _) _ => Checked.problem "Input should be a valid string"
  | .bytes _ content =>
    match String.fromUTF8? ⟨content.toArray⟩ with
    | some s => .ok s
    | none =>
      Checked.problem "Input should be a valid string, unable to parse raw data as a unicode string"
  | _ => Checked.problem "Input should be a valid string"

def nonEmptyText (v : Value) : Checked String := do
  let s ← text v
  if s.isEmpty then Checked.problem "String should have at least 1 character" else .ok s

def isNameStart (c : Char) : Bool :=
  c.isAlpha || c == '_'

def isNameChar (c : Char) : Bool :=
  c.isAlphanum || c == '_'

def isIdentifier : List Char → Bool
  | [] => false
  | c :: r => isNameStart c && r.all isNameChar

def isDottedIdentifier (s : List Char) : Bool :=
  (pieces ['.'] s).all isIdentifier

def identifierPattern : String := "^[A-Za-z_][A-Za-z0-9_]*$"

def dottedPattern : String := "^[A-Za-z_][A-Za-z0-9_]*(\\.[A-Za-z_][A-Za-z0-9_]*)*$"

def matching (pattern : String) (holds : List Char → Bool) (v : Value) : Checked String := do
  let s ← text v
  if holds s.toList then .ok s
  else Checked.problem ("String should match pattern '" ++ pattern ++ "'")

def identifier : Value → Checked String :=
  matching identifierPattern isIdentifier

def dottedIdentifier : Value → Checked String :=
  matching dottedPattern isDottedIdentifier

def optional (check : Value → Checked α) : Value → Checked (Option α)
  | .null => .ok none
  | v => (check v).map some

def tuple (check : Value → Checked α) : Value → Checked (List α)
  | .list items => Checked.items check items
  | _ => Checked.problem "Input should be a valid tuple"

def flagWord? (s : String) : Option Bool :=
  let w := String.ofList (lowered s.toList)
  if ["0", "off", "f", "false", "n", "no"].contains w then some false
  else if ["1", "on", "t", "true", "y", "yes"].contains w then some true
  else none

def unclearFlag : Checked Bool :=
  Checked.problem "Input should be a valid boolean, unable to interpret input"

def flagNumber (x : Binary64) : Checked Bool :=
  match x.toInt? with
  | none => Checked.problem "Input should be a valid boolean"
  | some 0 => .ok false
  | some 1 => .ok true
  | some _ => unclearFlag

/-- A flag: a boolean, zero or one, or a word for one of them. -/
def flag : Value → Checked Bool
  | .bool b => .ok b
  | .text s => ((flagWord? s).map .ok).getD unclearFlag
  | .bytes .fixed content =>
    (((String.fromUTF8? ⟨content.toArray⟩).bind flagWord?).map .ok).getD unclearFlag
  | .int i => flagNumber (.ofInt i)
  | .float x _ => flagNumber x
  | .decimal d _ => flagNumber (.ofDecimal d)
  | _ => Checked.problem "Input should be a valid boolean"

/-- The entry of a field that may go by two names, and the name its problems are listed under. The
preferred one wins wherever it is present. -/
def named (preferred name : String) (entries : List (Value × Value)) : Step × Option Value :=
  match Value.field? preferred entries, Value.field? name entries with
  | some v, _ => (.name preferred, some v)
  | none, some v => (.name name, some v)
  | none, none => (.name preferred, none)

def missing : Checked α :=
  Checked.problem "Field required"

def requiredAs (field : Step × Option Value) (check : Value → Checked α) : Checked α :=
  Checked.within field.1 ((field.2.map check).getD missing)

def optionalAs (field : Step × Option Value) (check : Value → Checked α) : Checked (Option α) :=
  Checked.within field.1 (optional check (field.2.getD .null))

def required (name : String) (check : Value → Checked α) (entries : List (Value × Value)) :
    Checked α :=
  requiredAs (.name name, Value.field? name entries) check

def withDefault (name : String) (fallback : α) (check : Value → Checked α)
    (entries : List (Value × Value)) : Checked α :=
  match Value.field? name entries with
  | none => .ok fallback
  | some v => Checked.within (.name name) (check v)

def textKey : Value → Checked Unit
  | .text _ => .ok ()
  | k => Checked.within (Step.ofKey k) (Checked.problem "Keys should be strings")

def textKeys : List (Value × Value) → Checked Unit
  | [] => .ok ()
  | (k, _) :: rest => ((textKey k).both (textKeys rest)).map fun _ => ()

end LookupEnums.Field
