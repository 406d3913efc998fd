/-! # Digits

Numbers written in base ten and sixteen, with leading zeros up to a width, and digits and decimal
exponents read back. -/

namespace LookupEnums.Text

def zeroPadded (width : Nat) (s : List Char) : List Char :=
  List.replicate (width - s.length) '0' ++ s

def decimalDigits (n : Nat) : List Char :=
  Nat.toDigits 10 n

def paddedDecimal (width n : Nat) : List Char :=
  zeroPadded width (decimalDigits n)

def paddedHex (width n : Nat) : List Char :=
  zeroPadded width (Nat.toDigits 16 n)

def upperHexByte (b : UInt8) : List Char :=
  (paddedHex 2 b.toNat).map Char.toUpper

def intDigits (i : Int) : List Char :=
  if i < 0 then '-' :: decimalDigits i.natAbs else decimalDigits i.natAbs

def digitValue? (c : Char) : Option Nat :=
  if c.isDigit then some (c.toNat - '0'.toNat) else none

def hexValue? (c : Char) : Option Nat :=
  if c.isDigit then some (c.toNat - '0'.toNat)
  else if 'a' ≤ c ∧ c ≤ 'f' then some (c.toNat - 'a'.toNat + 10)
  else if 'A' ≤ c ∧ c ≤ 'F' then some (c.toNat - 'A'.toNat + 10)
  else none

/-- The number whose digits in `base` are given, the highest first. -/
def ofDigits (base : Nat) (digits : List Nat) : Nat :=
  digits.foldl (fun n d => n * base + d) 0

/-- Decimal numerals with more digits are not read as integers, leading zeros counted. -/
def mostDigits : Nat := 4300

def readDecimal? (s : List Char) : Option Nat :=
  if s.isEmpty then none else (s.mapM digitValue?).map (ofDigits 10)

def readHex? (s : List Char) : Option Nat :=
  if s.isEmpty then none else (s.mapM hexValue?).map (ofDigits 16)

/-- An exponent with its mark; nothing at all is the exponent zero. -/
def readExponent? : List Char → Option Int
  | [] => some 0
  | mark :: r =>
    if mark != 'e' && mark != 'E' then none
    else match r with
      | '-' :: digits => (readDecimal? digits).map fun n => -(n : Int)
      | '+' :: digits => (readDecimal? digits).map Int.ofNat
      | digits => (readDecimal? digits).map Int.ofNat

end LookupEnums.Text
