import LookupEnums.Text.Digits
import LookupEnums.Text.Letter
import LookupEnums.Text.UpperCase

/-! # Identifiers from labels

`collapse` drops what an identifier cannot hold and raises the character after each gap;
`normalize` also spells out a leading numeral, so that no identifier starts with a digit.

Numbers are spelled in capitalised English words on the short scale. Magnitudes from one thousand
decillion on have no spelling.
-/

namespace LookupEnums.Name

def units : List String :=
  ["Zero", "One", "Two", "Three", "Four", "Five", "Six", "Seven", "Eight", "Nine", "Ten", "Eleven",
    "Twelve", "Thirteen", "Fourteen", "Fifteen", "Sixteen", "Seventeen", "Eighteen", "Nineteen"]

def tens : List String :=
  ["Twenty", "Thirty", "Forty", "Fifty", "Sixty", "Seventy", "Eighty", "Ninety"]

def scales : List String :=
  ["Thousand", "Million", "Billion", "Trillion", "Quadrillion", "Quintillion", "Sextillion",
    "Septillion", "Octillion", "Nonillion", "Decillion"]

def unitWord (n : Nat) : String :=
  units.getD n ""

def tensWord (n : Nat) : String :=
  tens.getD (n - 2) ""

def belowHundred (n : Nat) : List String :=
  if n = 0 then []
  else if n < 20 then [unitWord n]
  else tensWord (n / 10) :: if n % 10 = 0 then [] else [unitWord (n % 10)]

def belowThousand (n : Nat) : List String :=
  if n < 100 then belowHundred n
  else unitWord (n / 100) :: "Hundred" :: belowHundred (n % 100)

/-- The words of the groups of three digits above the lowest, with the scales they stand at. -/
def scaledGroups : List String → Nat → List String
  | [], _ => []
  | scale :: higher, n =>
    scaledGroups higher (n / 1000) ++
      if n % 1000 = 0 then [] else belowThousand (n % 1000) ++ [scale]

def natWords (n : Nat) : List String :=
  if n = 0 then [unitWord 0] else scaledGroups scales (n / 1000) ++ belowThousand (n % 1000)

def spellingLimit : Nat :=
  Nat.pow 1000 (scales.length + 1)

/-- A number from `spellingLimit` on. -/
structure TooLarge where
  magnitude : Nat

def TooLarge.message (e : TooLarge) : String :=
  s!"Number too large to spell: {e.magnitude}"

def numberWords (i : Int) : Except TooLarge (List String) :=
  if spellingLimit ≤ i.natAbs then .error ⟨i.natAbs⟩
  else .ok (if i < 0 then "Minus" :: natWords i.natAbs else natWords i.natAbs)

def numberToWords (i : Int) : Except TooLarge String :=
  (numberWords i).map (" ".intercalate ·)

open Text

/-- The identifier characters of a label; `raising` says whether the next one is upper-cased. -/
def collapseFrom (raising : Bool) : List Char → List Char
  | [] => []
  | c :: r =>
    if isLetter c || c.isDigit then
      (if raising then upper c else [c]) ++ collapseFrom false r
    else if c = '%' then "Percent".toList ++ collapseFrom true r
    else if c = '_' || c = '-' then '_' :: collapseFrom false r
    else collapseFrom true r

def collapse (s : List Char) : List Char :=
  collapseFrom true s

/-- The words of a number, or of its digits when they are too many or the number is too large. -/
def numeralWords (digits : List Nat) : List String :=
  if mostDigits < digits.length then digits.map unitWord
  else match numberWords (ofDigits 10 digits) with
    | .ok words => words
    | .error _ => digits.map unitWord

def spellNumeral (numeral : List Char) : List Char :=
  (" ".intercalate (numeralWords (numeral.filterMap digitValue?))).toList

def normalizeChars (label : List Char) : List Char :=
  let name := collapse label
  let numeral := name.takeWhile Char.isDigit
  if numeral.isEmpty then name
  else collapse (spellNumeral numeral) ++ collapse (name.dropWhile Char.isDigit)

def normalize (label : String) : String :=
  String.ofList (normalizeChars label.toList)

end LookupEnums.Name
