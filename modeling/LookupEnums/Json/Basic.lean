import LookupEnums.Value.Basic

/-! # JSON data

Data in the JSON form: objects keep their fields in order of arrival, and numbers are whole or
double-precision. `Json.ofValue?` says which values have such a form. -/

namespace LookupEnums

inductive Json
  | null
  | bool (b : Bool)
  | int (i : Int)
  | float (x : Binary64)
  | str (s : String)
  | arr (items : List Json)
  | obj (fields : List (String × Json))
  deriving Repr

namespace Json

instance : Inhabited Json := ⟨null⟩

def field? (key : String) : Json → Option Json
  | obj fields => fields.lookup key
  | _ => none

def strings (items : List String) : Json :=
  arr (items.map str)

def optional (encode : α → Json) : Option α → Json
  | none => null
  | some a => encode a

end Json

end LookupEnums
