import LookupEnums.Number.Decimal

/-! # Binary floating-point numbers

A double-precision number by its sign, mantissa and exponent, its value being
`mantissa * 2 ^ exponent`. The mantissa has 53 bits, or fewer at the lowest exponent only, so that
every value has one form. Decimal texts and quotients round to the nearest, a tie to the even
mantissa. -/

namespace LookupEnums
open Text

inductive Binary64
  | nan
  | infinite (negative : Bool)
  | finite (negative : Bool) (mantissa : Nat) (exponent : Int)
  deriving DecidableEq, Repr

namespace Binary64

def lowestExponent : Int := -1074
def highestExponent : Int := 971
def mantissaLimit : Nat := Nat.pow 2 53

def zero : Binary64 := .finite false 0 lowestExponent

/-- `num / den` to the nearest whole number, a tie to the even one. -/
def roundQuotient (num den : Nat) : Nat :=
  let q := num / den
  let twice := 2 * (num % den)
  if twice > den || (twice == den && q % 2 == 1) then q + 1 else q

def scaled (num den base : Nat) (power : Int) : Nat × Nat :=
  if power < 0 then (num * Nat.pow base power.natAbs, den) else (num, den * Nat.pow base power.toNat)

/-- The exponent at which a quotient above zero has a mantissa of 53 bits, if it is not too low. -/
def exponentFor (num den : Nat) : Int :=
  let guess : Int := (num.log2 : Int) - den.log2 - 52
  let (n, d) := scaled num den 2 guess
  max lowestExponent (if n / d < Nat.pow 2 52 then guess - 1 else guess)

def ofQuotient (negative : Bool) (num den : Nat) : Binary64 :=
  if num = 0 then .finite negative 0 lowestExponent
  else
    let e := exponentFor num den
    let (n, d) := scaled num den 2 e
    let m := roundQuotient n d
    let (m, e) := if m = mantissaLimit then (m / 2, e + 1) else (m, e)
    if e > highestExponent then .infinite negative else .finite negative m e

def ofInt (i : Int) : Binary64 :=
  ofQuotient (i < 0) i.natAbs 1

/-- The double nearest to `coefficient * 10 ^ exponent`. Beyond any double the digits are not
looked at. -/
def ofScientific (negative : Bool) (coefficient : Nat) (exponent : Int) : Binary64 :=
  let leading := exponent + (decimalDigits coefficient).length
  if coefficient = 0 || leading < -400 then .finite negative 0 lowestExponent
  else if leading > 400 then .infinite negative
  else
    let (num, den) := scaled coefficient 1 10 (-exponent)
    ofQuotient negative num den

def ofDecimal : Decimal → Binary64
  | .finite negative coefficient exponent => ofScientific negative coefficient exponent
  | .infinite negative => .infinite negative
  | .nan _ _ _ => .nan

def magnitude (mantissa : Nat) (exponent : Int) : Nat × Nat :=
  scaled mantissa 1 2 (-exponent)

def isZero : Binary64 → Bool
  | .finite _ m _ => m == 0
  | _ => false

def toInt? : Binary64 → Option Int
  | .finite negative m e =>
    let (num, den) := magnitude m e
    if num % den = 0 then
      let n : Int := (num / den : Nat)
      some (if negative then -n else n)
    else none
  | _ => none

def negate : Binary64 → Binary64
  | .nan => .nan
  | .infinite negative => .infinite !negative
  | .finite negative m e => .finite (!negative) m e

/-- The double nearest to `n * 2 ^ e`; `negativeZero` is the sign of zero. -/
def ofScaled (negativeZero : Bool) (n e : Int) : Binary64 :=
  if n = 0 then .finite negativeZero 0 lowestExponent
  else
    let (num, den) := scaled n.natAbs 1 2 (-e)
    ofQuotient (n < 0) num den

def signed (negative : Bool) (m : Nat) : Int :=
  if negative then -(m : Int) else m

def add : Binary64 → Binary64 → Binary64
  | .finite s m e, .finite t n f =>
    let low := min e f
    let sum := signed s m * Int.pow 2 (e - low).toNat + signed t n * Int.pow 2 (f - low).toNat
    ofScaled (s && t) sum low
  | .infinite s, .infinite t => if s = t then .infinite s else .nan
  | .infinite s, .finite _ _ _ => .infinite s
  | .finite _ _ _, .infinite t => .infinite t
  | _, _ => .nan

def mul : Binary64 → Binary64 → Binary64
  | .finite s m e, .finite t n f => ofScaled (s != t) (signed s m * signed t n) (e + f)
  | .infinite s, .infinite t => .infinite (s != t)
  | .infinite s, .finite t m _ => if m = 0 then .nan else .infinite (s != t)
  | .finite s m _, .infinite t => if m = 0 then .nan else .infinite (s != t)
  | _, _ => .nan

def withoutUnderscores? : List Char → Option (List Char)
  | [] => some []
  | a :: '_' :: b :: r =>
    if a.isDigit && b.isDigit then (withoutUnderscores? (b :: r)).map (a :: ·) else none
  | '_' :: _ => none
  | c :: r => (withoutUnderscores? r).map (c :: ·)

/-- The double written by a text without blanks at its ends: digits with an optional point and
exponent, an infinity or a not-a-number, each after an optional sign. -/
def read? (s : List Char) : Option Binary64 := do
  let s ← withoutUnderscores? s
  match ← Decimal.read? s with
  | .nan _ signaling payload =>
    if signaling || payload != 0 || s.any Char.isDigit then none else some .nan
  | d => some (ofDecimal d)

end Binary64

end LookupEnums
