import LookupEnums.Number.Shortest
import LookupEnums.Value.Shown

/-! # Source literals

A cell written as an expression of the generated source. Dates, times, identifiers and bytes have
no literal form and are written as constructions; null is the default of the expected type. -/

namespace LookupEnums.Source
open Text

def escapeChar (c : Char) : List Char :=
  if c = '\\' then ['\\', '\\']
  else if c = '"' then ['\\', '"']
  else if c = '\x00' then ['\\', '0']
  else if c = '\x07' then ['\\', 'a']
  else if c = '\x08' then ['\\', 'b']
  else if c = '\x0c' then ['\\', 'f']
  else if c = '\n' then ['\\', 'n']
  else if c = '\r' then ['\\', 'r']
  else if c = '\t' then ['\\', 't']
  else if c = '\x0b' then ['\\', 'v']
  else if c.toNat < 0x20 || (0x7f ≤ c.toNat && c.toNat < 0xa0) then
    '\\' :: 'u' :: paddedHex 4 c.toNat
  else [c]

def escapeChars (s : List Char) : List Char :=
  s.flatMap escapeChar

def escapeString (s : String) : String :=
  String.ofList (escapeChars s.toList)

def inDoubleQuotes (s : List Char) : List Char :=
  '"' :: s ++ ['"']

def floatLiteral : Binary64 → List Char
  | .nan => "double.NaN".toList
  | .infinite false => "double.PositiveInfinity".toList
  | .infinite true => "double.NegativeInfinity".toList
  | x => x.shown ++ ['D']

def newDateTime (parts : List Nat) : List Char :=
  "new DateTime(".toList ++ Value.commaSeparated (parts.map decimalDigits) ++ [')']

def dateLiteral (d : Date) : List Char :=
  newDateTime [d.year, d.month, d.day]

/-- Ten ticks make a microsecond. -/
def momentLiteral (m : Moment) : List Char :=
  newDateTime [m.date.year, m.date.month, m.date.day, m.clock.hour, m.clock.minute, m.clock.second]
    ++ if m.clock.micro = 0 then []
      else ".AddTicks(".toList ++ decimalDigits (m.clock.micro * 10) ++ [')']

def ticksLiteral (micros : Int) : List Char :=
  "new TimeSpan(".toList ++ intDigits (micros * 10) ++ ['L', ')']

def uuidLiteral (n : Nat) : List Char :=
  "new Guid(".toList ++ inDoubleQuotes (Value.uuidText n) ++ [')']

def bytesLiteral (content : List UInt8) : List Char :=
  if content.isEmpty then "new byte[0]".toList
  else "new byte[] ".toList ++ '{' :: ' ' ::
    Value.commaSeparated (content.map fun b => '0' :: 'x' :: upperHexByte b) ++ [' ', '}']

def literalChars (expected : String) : Value → List Char
  | .null => "default(".toList ++ expected.toList ++ [')']
  | .text s => inDoubleQuotes (escapeChars s.toList)
  | .bool b => (if b then "true" else "false").toList
  | .decimal d _ => d.plain ++ ['M']
  | .float x _ => floatLiteral x
  | .moment m => momentLiteral m
  | .date d => dateLiteral d
  | .time t => ticksLiteral t.sinceMidnight
  | .span s => ticksLiteral s.micros
  | .uuid n => uuidLiteral n
  | .bytes _ content => bytesLiteral content
  | v => v.shown

/-- The literal of a value, `expected` being the name of the type it is used as. -/
def literal (v : Value) (expected : String) : String :=
  String.ofList (literalChars expected v)

end LookupEnums.Source
