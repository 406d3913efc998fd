import LookupEnums.Text.Digits
import LookupEnums.Text.Printable

/-! # Quoted texts

How a text or a string of bytes is quoted inside a message: in single quotes, or in double quotes
when it holds a single quote and no double one; backslashes, the quote itself and what cannot be
printed are escaped. -/

namespace LookupEnums.Text

def quoteMark (s : List Char) : Char :=
  if s.contains '\'' && !s.contains '"' then '"' else '\''

/-- A hidden character by its code point, in the shortest of the three hexadecimal escapes. -/
def hexEscape (n : Nat) : List Char :=
  if n < 0x100 then '\\' :: 'x' :: paddedHex 2 n
  else if n < 0x10000 then '\\' :: 'u' :: paddedHex 4 n
  else '\\' :: 'U' :: paddedHex 8 n

def escapeInQuotes (mark c : Char) : List Char :=
  if c = mark || c = '\\' then ['\\', c]
  else if c = '\n' then ['\\', 'n']
  else if c = '\r' then ['\\', 'r']
  else if c = '\t' then ['\\', 't']
  else if isPrintable c then [c]
  else hexEscape c.toNat

def quoted (s : List Char) : List Char :=
  let mark := quoteMark s
  mark :: s.flatMap (escapeInQuotes mark) ++ [mark]

def byteInQuotes (mark c : Char) : List Char :=
  if 0x7f ≤ c.toNat then hexEscape c.toNat else escapeInQuotes mark c

def quotedBytes (content : List UInt8) : List Char :=
  let s := content.map fun b => Char.ofNat b.toNat
  let mark := quoteMark s
  'b' :: mark :: s.flatMap (byteInQuotes mark) ++ [mark]

def quotedString (s : String) : String :=
  String.ofList (quoted s.toList)

end LookupEnums.Text
