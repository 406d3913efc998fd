import LookupEnums.Text.Digits
import LookupEnums.Text.LowerCase

/-! # Decimal numbers

A decimal keeps its digits and its exponent: `1.0` and `1.00` are equal numbers and different
decimals. Besides the finite ones there are two infinities and the not-a-numbers, quiet or
signaling, with a payload. -/

namespace LookupEnums
open Text

inductive Decimal
  | finite (negative : Bool) (coefficient : Nat) (exponent : Int)
  | infinite (negative : Bool)
  | nan (negative signaling : Bool) (payload : Nat)
  deriving DecidableEq, Repr

namespace Decimal

def signText (negative : Bool) : List Char :=
  if negative then ['-'] else []

/-- Digits with a point before the last `places` of them and at least one digit before it. -/
def withPoint (places : Nat) (digits : List Char) : List Char :=
  let digits := zeroPadded (places + 1) digits
  if places = 0 then digits
  else digits.take (digits.length - places) ++ '.' :: digits.drop (digits.length - places)

/-- The digits of a coefficient without any exponent. A positive exponent adds zeros, except that
zero stays a single digit. -/
def plainDigits (coefficient : Nat) (exponent : Int) : List Char :=
  if exponent ≤ 0 then withPoint exponent.natAbs (decimalDigits coefficient)
  else if coefficient = 0 then ['0']
  else decimalDigits coefficient ++ List.replicate exponent.toNat '0'

def scientificDigits (coefficient : Nat) (exponent : Int) : List Char :=
  let digits := decimalDigits coefficient
  let power := exponent + (digits.length - 1 : Nat)
  let fraction := if digits.length = 1 then [] else '.' :: digits.drop 1
  digits.take 1 ++ fraction ++ 'E' :: (if power < 0 then '-' else '+') :: decimalDigits power.natAbs

def payloadText (payload : Nat) : List Char :=
  if payload = 0 then [] else decimalDigits payload

def specialText : Decimal → List Char
  | .finite _ _ _ => []
  | .infinite negative => signText negative ++ "Infinity".toList
  | .nan negative signaling payload =>
    signText negative ++ (if signaling then "sNaN" else "NaN").toList ++ payloadText payload

/-- The usual text: plain while the exponent is at most zero and no more than six digits after the
point are leading zeros, scientific otherwise. -/
def shown : Decimal → List Char
  | .finite negative coefficient exponent =>
    let leading := exponent + (decimalDigits coefficient).length
    signText negative ++
      if exponent ≤ 0 ∧ -6 < leading then plainDigits coefficient exponent
      else scientificDigits coefficient exponent
  | d => d.specialText

def plain : Decimal → List Char
  | .finite negative coefficient exponent => signText negative ++ plainDigits coefficient exponent
  | d => d.specialText

def isZero : Decimal → Bool
  | .finite _ coefficient _ => coefficient == 0
  | _ => false

/-- Digits with at most one point: the number they make and how many stand after the point. -/
def readDigits? (s : List Char) : Option (Nat × Nat) :=
  let whole := s.takeWhile Char.isDigit
  match s.dropWhile Char.isDigit with
  | [] => (readDecimal? whole).map fun n => (n, 0)
  | '.' :: fraction =>
    if fraction.all Char.isDigit then
      (readDecimal? (whole ++ fraction)).map fun n => (n, fraction.length)
    else none
  | _ => none

def readExponent? : List Char → Option Int
  | '-' :: r => (readDecimal? r).map fun n => -(n : Int)
  | '+' :: r => (readDecimal? r).map Int.ofNat
  | r => (readDecimal? r).map Int.ofNat

def isExponentMark (c : Char) : Bool :=
  c == 'e' || c == 'E'

def readFinite? (negative : Bool) (s : List Char) : Option Decimal :=
  match readDigits? (s.takeWhile fun c => !isExponentMark c),
      s.dropWhile fun c => !isExponentMark c with
  | some (n, places), [] => some (.finite negative n (-(places : Int)))
  | some (n, places), _ :: power =>
    (readExponent? power).map fun e => .finite negative n (e - places)
  | none, _ => none

def readNan? (negative signaling : Bool) (payload : List Char) : Option Decimal :=
  if payload.isEmpty then some (.nan negative signaling 0)
  else (readDecimal? payload).map (.nan negative signaling)

def readUnsigned? (negative : Bool) (s : List Char) : Option Decimal :=
  let low := lowered s
  if low = "inf".toList || low = "infinity".toList then some (.infinite negative)
  else if "nan".toList.isPrefixOf low then readNan? negative false (low.drop 3)
  else if "snan".toList.isPrefixOf low then readNan? negative true (low.drop 4)
  else readFinite? negative s

def read? (s : List Char) : Option Decimal :=
  match s.filter (· ≠ '_') with
  | '-' :: r => readUnsigned? true r
  | '+' :: r => readUnsigned? false r
  | r => readUnsigned? false r

end Decimal

end LookupEnums
