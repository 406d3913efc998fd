import LookupEnums.Number.Word
import LookupEnums.Text.Digits
import LookupEnums.Value.Shown

/-! # Problems of data under a check

A check either yields its result or lists every problem it met, each with its place: the field
names and item numbers that lead to it. Columns that cannot be walked through end a check at
once. -/

namespace LookupEnums
open Text

inductive Step
  | name (s : String)
  | index (i : Int)
  deriving DecidableEq, Repr

namespace Step

def text : Step → String
  | name s => s
  | index i => String.ofList (intDigits i)

/-- The step a key of a dictionary makes: whole numbers stay numbers as far as a machine word
holds them. -/
def ofKey : Value → Step
  | .text s => name s
  | .bool b => index (if b then 1 else 0)
  | .int i => if Word.fits i then index i else name (Value.int i).messageText
  | v => name v.messageText

end Step

structure Problem where
  place : List Step
  message : String
  deriving DecidableEq, Repr

namespace Problem

def placeText (p : Problem) : String :=
  ".".intercalate (p.place.map Step.text)

end Problem

inductive Rejection
  | problems (list : List Problem)
  | notIterable
  deriving Repr

namespace Rejection

def append : Rejection → Rejection → Rejection
  | problems a, problems b => problems (a ++ b)
  | _, _ => notIterable

def within (s : Step) : Rejection → Rejection
  | problems list => problems (list.map fun p => { p with place := s :: p.place })
  | notIterable => notIterable

end Rejection

abbrev Checked (α : Type) := Except Rejection α

namespace Checked

def problem (message : String) : Checked α :=
  .error (.problems [⟨[], message⟩])

def within (s : Step) (x : Checked α) : Checked α :=
  x.mapError (·.within s)

def both : Checked α → Checked β → Checked (α × β)
  | .ok a, .ok b => .ok (a, b)
  | .ok _, .error e => .error e
  | .error e, .ok _ => .error e
  | .error e, .error f => .error (e.append f)

def itemsFrom (check : α → Checked β) : (start : Nat) → List α → Checked (List β)
  | _, [] => .ok []
  | n, a :: rest =>
    (both ((check a).within (.index n)) (itemsFrom check (n + 1) rest)).map fun (b, bs) => b :: bs

def items (check : α → Checked β) (list : List α) : Checked (List β) :=
  itemsFrom check 0 list

end Checked

end LookupEnums
