import LookupEnums.Value.Shown

/-! # Stored data

What one cell of a store holds: nothing, a number, a text or bytes. There are no truth values, and
not-a-number is nothing. Data of different kinds are ordered by their kinds, numbers by their exact
values, and texts by a collation. -/

namespace LookupEnums

inductive Datum
  | null
  | int (i : Int)
  | real (x : Binary64)
  | text (s : String)
  /-- A text that its encoding cannot mean. -/
  | garbled (content : List UInt8)
  | blob (content : List UInt8)
  deriving DecidableEq, Repr

/-- What of two texts is compared: all characters, all with the capitals of ASCII made small, or all
but the spaces at the end. -/
inductive Collation
  | exact
  | caseless
  | trimmed
  deriving DecidableEq, Repr

namespace Collation

def ofName? (name : String) : Option Collation :=
  [("BINARY", exact), ("NOCASE", caseless), ("RTRIM", trimmed)].lookup name.toUpper

def key (c : Collation) (s : List Char) : List Char :=
  match c with
  | exact => s
  | caseless => s.map Char.toLower
  | trimmed => (s.reverse.dropWhile (· = ' ')).reverse

end Collation

namespace Datum

/-- A real number; what is not a number is nothing. -/
def ofReal : Binary64 → Datum
  | .nan => null
  | x => real x

def ofValue : Value → Datum
  | .null => null
  | .bool b => int (if b then 1 else 0)
  | .int i => int i
  | .float x _ => ofReal x
  | .bytes _ content => blob content
  | v => text v.shownText

def toValue? : Datum → Option Value
  | null => some .null
  | int i => some (.int i)
  | real x => some (.float x 0)
  | text s => some (.text s)
  | garbled _ => none
  | blob content => some (.bytes .fixed content)

def isNull : Datum → Bool
  | null => true
  | _ => false

def rank : Datum → Nat
  | null => 0
  | int _ | real _ => 1
  | text _ | garbled _ => 2
  | blob _ => 3

def compareScaled (m e n f : Int) : Ordering :=
  let low := min e f
  compare (m * Int.pow 2 (e - low).toNat) (n * Int.pow 2 (f - low).toNat)

def compareReals : Binary64 → Binary64 → Ordering
  | .finite s m e, .finite t n f => compareScaled (Binary64.signed s m) e (Binary64.signed t n) f
  | .infinite s, .infinite t => compare t.toNat s.toNat
  | .infinite s, _ => if s then .lt else .gt
  | _, .infinite t => if t then .gt else .lt
  | _, _ => .eq

def compareIntToReal (i : Int) : Binary64 → Ordering
  | .finite t n f => compareScaled i 0 (Binary64.signed t n) f
  | .infinite negative => if negative then .gt else .lt
  | .nan => .gt

/-- The order of two lists by the first place where they differ. -/
def compareLists : List Nat → List Nat → Ordering
  | [], [] => .eq
  | [], _ :: _ => .lt
  | _ :: _, [] => .gt
  | a :: as, b :: bs => (compare a b).then (compareLists as bs)

def textBytes (c : Collation) : Datum → List Nat
  | text s => ((String.ofList (c.key s.toList)).toUTF8.toList).map UInt8.toNat
  | garbled content | blob content => content.map UInt8.toNat
  | _ => []

def order (c : Collation) (a b : Datum) : Ordering :=
  match a, b with
  | int i, int j => compare i j
  | real x, real y => compareReals x y
  | int i, real y => compareIntToReal i y
  | real x, int j => (compareIntToReal j x).swap
  | a, b => (compare a.rank b.rank).then (compareLists (a.textBytes c) (b.textBytes c))

end Datum

end LookupEnums
