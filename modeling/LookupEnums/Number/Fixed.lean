import LookupEnums.Number.Shortest

/-! # Doubles with a fixed number of places or of digits

A double written with a given number of decimal places, a tie rounded to the even digit, and the
decimal of fifteen significant digits that a store shows when it turns a real number into text, a
tie rounded away from zero. A store rounds to places by adding to a number and cutting it off. -/

namespace LookupEnums.Binary64
open Text

/-- The decimal with `places` decimal places nearest to a double. -/
def toPlaces (places : Nat) : Binary64 → Decimal
  | .nan => .nan false false 0
  | .infinite negative => .infinite negative
  | .finite negative m e =>
    let (num, den) := magnitude m e
    .finite negative (roundQuotient (num * Nat.pow 10 places) den) (-(places : Int))

/-- A number above zero with half a unit of the last of `places` places added to it. Where the double
is exact far beyond them, a little more is added, so that a decimal that is a tie as it is written
goes up though the double is below it. -/
def raised (places mantissa : Nat) (exponent : Int) : Fraction :=
  let x := fractionOf mantissa exponent
  let unit := 2 * Nat.pow 10 places
  let little := if places + Int.tdiv (exponent + 52) 3 < 15 then 3 * x.num * unit else 0
  ⟨(x.num * unit + x.den) * Nat.pow 10 16 + little, x.den * unit * Nat.pow 10 16⟩

/-- So many digits of a number below ten, the first of them before the point, the others cut off; after
`known` of them there are only zeros. -/
def cutDigits (known count : Nat) (x : Fraction) : List Char :=
  let shown := min known count
  if shown = 0 then List.replicate count '0'
  else
    let digits := paddedDecimal shown (x.num * Nat.pow 10 (shown - 1) / x.den)
    digits ++ List.replicate (count - shown) '0'

def Fraction.shifted (x : Fraction) (power : Int) : Fraction :=
  let (num, den) := scaled x.num x.den 10 power
  ⟨num, den⟩

def roundedDigits : Nat := 26

def roundedTo (places : Nat) : Binary64 → Binary64
  | .finite negative m e =>
    let x := raised places m e
    let power := decimalPoint x - 1
    let digits := cutDigits roundedDigits (power + places + 1).toNat (x.shifted power)
    ofScientific negative (ofDigits 10 (digits.filterMap digitValue?)) (-(places : Int))
  | x => x

def roundUp (num den : Nat) : Nat :=
  (2 * num + den) / (2 * den)

/-- Fifteen significant digits: positional while the exponent is from -4 to 14, always with a
point and a digit after it. Zero has no sign. -/
def fifteenDigits : Binary64 → List Char
  | .nan => []
  | .infinite negative => Decimal.signText negative ++ "Inf".toList
  | .finite negative m e =>
    if m = 0 then "0.0".toList
    else
      Decimal.signText negative ++
        let x := fractionOf m e
        let power := decimalPoint x - 15
        let (num, den) := scaled x.num x.den 10 power
        let all := decimalDigits (roundUp num den)
        let point := power + all.length
        let digits := dropTrailingZeros all
        if -4 < point ∧ point ≤ 15 then positional digits point
        else
          let digits := if digits.length ≤ 1 then digits ++ ['0'] else digits
          exponential digits point

end LookupEnums.Binary64
