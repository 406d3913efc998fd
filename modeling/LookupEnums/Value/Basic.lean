import LookupEnums.Calendar.Clock
import LookupEnums.Number.Binary64

/-! # Values

One type for the cells of a table and for the data of a configuration: scalars of every kind a
store or a configuration file can hold, lists, and dictionaries in order of arrival. -/

namespace LookupEnums

/-- Bytes that never change, bytes that may, and a view of bytes of either form held elsewhere. -/
inductive ByteForm
  | fixed
  | mutable
  | view (changing : Bool)
  deriving DecidableEq, Repr

/-- A number that may be a not-a-number says which object it is: what tells two of these apart is only
that. -/
inductive Value
  | null
  | bool (b : Bool)
  | int (i : Int)
  | float (x : Binary64) (object : Nat)
  | decimal (d : Decimal) (object : Nat)
  | text (s : String)
  | bytes (form : ByteForm) (content : List UInt8)
  | date (d : Date)
  | moment (m : Moment)
  | time (t : ClockTime)
  | span (s : Span)
  | uuid (n : Nat)
  | list (items : List Value)
  | dict (entries : List (Value × Value))
  deriving Repr

namespace Value

instance : Inhabited Value := ⟨null⟩

def isNull : Value → Bool
  | null => true
  | _ => false

def isTruthy : Value → Bool
  | null => false
  | bool b => b
  | int i => i != 0
  | float x _ => !x.isZero
  | decimal d _ => !d.isZero
  | text s => !s.isEmpty
  | bytes _ content => !content.isEmpty
  | span s => s.micros != 0
  | list items => !items.isEmpty
  | dict entries => !entries.isEmpty
  | _ => true

def field? (key : String) (entries : List (Value × Value)) : Option Value :=
  entries.findSome? fun
    | (text k, v) => if k = key then some v else none
    | _ => none

def fieldOrNull (key : String) (entries : List (Value × Value)) : Value :=
  (field? key entries).getD null

def setField (key : String) (v : Value) : List (Value × Value) → List (Value × Value)
  | [] => [(text key, v)]
  | (k, old) :: rest =>
    match k with
    | text s => if s = key then (k, v) :: rest else (k, old) :: setField key v rest
    | _ => (k, old) :: setField key v rest

end Value

end LookupEnums
