import LookupEnums.Database.Datum
import LookupEnums.Number.Fixed
import LookupEnums.Number.Word
import LookupEnums.Text.Cut

/-! # Affinities

A declared type says which kind of value its column prefers: values of other kinds are converted
when they are stored, as far as nothing is lost by it. -/

namespace LookupEnums
open Text

inductive Affinity
  | integer
  | text
  | unchanged
  | real
  | numeric
  deriving DecidableEq, Repr

namespace Affinity

def holdsOneOf (words : List String) (s : List Char) : Bool :=
  words.any fun w => occursIn w.toList s

/-- The first group of words of which one occurs in the declared type decides. -/
def ofDeclared : Option String → Affinity
  | none => unchanged
  | some declared =>
    let s := declared.toList.map Char.toUpper
    if s.isEmpty then unchanged
    else if holdsOneOf ["INT"] s then integer
    else if holdsOneOf ["CHAR", "CLOB", "TEXT"] s then text
    else if holdsOneOf ["BLOB"] s then unchanged
    else if holdsOneOf ["REAL", "FLOA", "DOUB"] s then real
    else numeric

def isSpace (c : Char) : Bool :=
  let n := c.toNat
  n == 0x20 || (0x09 ≤ n && n ≤ 0x0d)

/-- The exponent a text starts with, if it is complete, and what follows it. -/
def leadingExponent (s : List Char) : Option Int × List Char :=
  let afterMark := match s.tail with
    | '-' :: r | '+' :: r => r
    | r => r
  let rest := afterMark.dropWhile Char.isDigit
  match readExponent? (s.take (s.length - rest.length)) with
  | some e => if rest.length < s.length then (some e, rest) else (none, s)
  | none => (none, s)

/-- The number without a sign that a text starts with, and what follows it. A whole number that fits
a word of the store stays one. -/
def unsigned? (negative : Bool) (s : List Char) : Option (Datum × List Char) :=
  let whole := s.takeWhile Char.isDigit
  let (fraction, rest) := match s.dropWhile Char.isDigit with
    | '.' :: r => (some (r.takeWhile Char.isDigit), r.dropWhile Char.isDigit)
    | r => (none, r)
  let places := fraction.getD []
  if whole.isEmpty && places.isEmpty then none
  else
    let digits := ofDigits 10 ((whole ++ places).filterMap digitValue?)
    let i : Int := if negative then -digits else digits
    let (e, rest) := leadingExponent rest
    if fraction.isNone && e.isNone && Word.fits i then some (.int i, rest)
    else some (.real (.ofScientific negative digits (e.getD 0 - places.length)), rest)

/-- The number a text starts with, spaces in front of it aside, and what follows it. -/
def leading? (s : List Char) : Option (Datum × List Char) :=
  match s.dropWhile isSpace with
  | '-' :: r => unsigned? true r
  | '+' :: r => unsigned? false r
  | r => unsigned? false r

/-- The number a text shows from end to end, spaces around it aside. -/
def number? (s : List Char) : Option Datum :=
  match leading? s with
  | some (d, rest) => if rest.all isSpace then some d else none
  | none => none

def wholeIfExact (x : Binary64) : Datum :=
  match x.toInt? with
  | some i => if -Word.limit < i && i < Word.limit then .int i else .real x
  | none => .real x

def numbersPreferred : Datum → Datum
  | .real x => wholeIfExact x
  | .text s => match number? s.toList with
    | some (.real x) => wholeIfExact x
    | some d => d
    | none => .text s
  | d => d

def textPreferred : Datum → Datum
  | .int i => .text (String.ofList (intDigits i))
  | .real x => .text (String.ofList x.fifteenDigits)
  | d => d

def realsPreferred (d : Datum) : Datum :=
  match numbersPreferred d with
  | .int i => .real (.ofInt i)
  | d => d

def store (a : Affinity) (d : Datum) : Datum :=
  match a with
  | integer | numeric => numbersPreferred d
  | text => textPreferred d
  | real => realsPreferred d
  | unchanged => d

end Affinity

end LookupEnums
