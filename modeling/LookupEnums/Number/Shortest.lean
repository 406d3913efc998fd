import LookupEnums.Number.Binary64

/-! # The shortest decimal that reads back

Of the decimals that round to a double, the one with the fewest digits, and of those the nearest.
For one digit, two digits and so on, the two neighbours of the value on that decimal grid are tried
in exact arithmetic; seventeen digits always suffice. -/

namespace LookupEnums.Binary64
open Text

structure Fraction where
  num : Nat
  den : Nat

def Fraction.lt (a b : Fraction) : Bool :=
  a.num * b.den < b.num * a.den

def Fraction.le (a b : Fraction) : Bool :=
  a.num * b.den ≤ b.num * a.den

/-- The reals that round to a double; the ends belong to it exactly when the mantissa is even. -/
structure Neighbourhood where
  low : Fraction
  value : Fraction
  high : Fraction
  closed : Bool

def Neighbourhood.contains (w : Neighbourhood) (x : Fraction) : Bool :=
  if w.closed then w.low.le x && x.le w.high else w.low.lt x && x.lt w.high

def fractionOf (mantissa : Nat) (exponent : Int) : Fraction :=
  let (num, den) := magnitude mantissa exponent
  ⟨num, den⟩

/-- Half a gap on both sides; below a power of two the gap is half as wide. -/
def neighbourhood (mantissa : Nat) (exponent : Int) : Neighbourhood :=
  let narrow := mantissa = Nat.pow 2 52 ∧ lowestExponent < exponent
  { low := if narrow then fractionOf (4 * mantissa - 1) (exponent - 2)
      else fractionOf (2 * mantissa - 1) (exponent - 1)
    value := fractionOf mantissa exponent
    high := fractionOf (2 * mantissa + 1) (exponent - 1)
    closed := mantissa % 2 = 0 }

/-- The least `k` with `x < 10 ^ k`, found from an estimate that is at most two too low. -/
def decimalPoint (x : Fraction) : Int :=
  let bits : Int := (x.num.log2 : Int) - x.den.log2 - 1
  let guess : Int := (bits * 30103).fdiv 100000
  let below (k : Int) : Bool :=
    let (num, den) := scaled x.num x.den 10 k
    num < den
  if below guess then guess
  else if below (guess + 1) then guess + 1
  else if below (guess + 2) then guess + 2
  else guess + 3

structure Grid where
  digits : Nat
  power : Int

def Grid.fraction (g : Grid) : Fraction :=
  let (num, den) := scaled g.digits 1 10 (-g.power)
  ⟨num, den⟩

/-- The neighbour of the value on the grid of step `10 ^ power` that rounds to the double; of two
the nearer, of two as near the even one. -/
def onGrid? (w : Neighbourhood) (power : Int) : Option Grid :=
  let (num, den) := scaled w.value.num w.value.den 10 power
  let lower : Grid := ⟨num / den, power⟩
  let upper : Grid := ⟨num / den + 1, power⟩
  match w.contains lower.fraction, w.contains upper.fraction with
  | true, true => some ⟨roundQuotient num den, power⟩
  | true, false => some lower
  | false, true => some upper
  | false, false => none

/-- The shortest decimal of a double above zero. -/
def shortest (mantissa : Nat) (exponent : Int) : Grid :=
  let w := neighbourhood mantissa exponent
  let point := decimalPoint w.value
  ((List.range 17).findSome? fun (n : Nat) => onGrid? w (point - 1 - n)).getD ⟨mantissa, 0⟩

def dropTrailingZeros (digits : List Char) : List Char :=
  (digits.reverse.dropWhile (· = '0')).reverse

def positional (digits : List Char) (point : Int) : List Char :=
  if point ≤ 0 then '0' :: '.' :: List.replicate point.natAbs '0' ++ digits
  else
    let p := point.toNat
    if digits.length ≤ p then
      digits ++ List.replicate (p - digits.length) '0' ++ ['.', '0']
    else digits.take p ++ '.' :: digits.drop p

def exponential (digits : List Char) (point : Int) : List Char :=
  let fraction := if digits.length ≤ 1 then [] else '.' :: digits.drop 1
  let power := point - 1
  digits.take 1 ++ fraction ++ 'e' :: (if power < 0 then '-' else '+')
    :: paddedDecimal 2 power.natAbs

/-- The text of a double: positional from `0.0001` up to below `10 ^ 16`, exponential outside. -/
def shown : Binary64 → List Char
  | .nan => "nan".toList
  | .infinite negative => Decimal.signText negative ++ "inf".toList
  | .finite negative m e =>
    Decimal.signText negative ++
      if m = 0 then "0.0".toList
      else
        let g := shortest m e
        let all := decimalDigits g.digits
        let point := g.power + all.length
        let digits := dropTrailingZeros all
        if -4 < point ∧ point ≤ 16 then positional digits point else exponential digits point

end LookupEnums.Binary64
