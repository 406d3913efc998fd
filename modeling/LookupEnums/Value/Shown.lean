import LookupEnums.Number.Shortest
import LookupEnums.Text.Quoted
import LookupEnums.Value.Basic

/-! # Values as text

`Value.inMessage` is the form of a value inside a message: it shows of what kind the value is, and
quotes texts. `Value.shown` is the plain text of a value, as a label has it; it differs for texts,
decimals, dates, times, spans and identifiers. -/

namespace LookupEnums
open Text

namespace Value

def uuidText (n : Nat) : List Char :=
  let s := paddedHex 32 n
  s.take 8 ++ '-' :: (s.drop 8).take 4 ++ '-' :: (s.drop 12).take 4 ++ '-' :: (s.drop 16).take 4
    ++ '-' :: s.drop 20

def boolText (b : Bool) : List Char :=
  (if b then "True" else "False").toList

def commaSeparated (parts : List (List Char)) : List Char :=
  ", ".toList.intercalate parts

def constructed (name : String) (arguments : List (List Char)) : List Char :=
  name.toList ++ '(' :: commaSeparated arguments ++ [')']

def spanInMessage (s : Span) : List Char :=
  let part (name : String) (n : Int) : List (List Char) :=
    if n = 0 then [] else [name.toList ++ '=' :: intDigits n]
  let parts := part "days" s.days ++ part "seconds" s.seconds ++ part "microseconds" s.subseconds
  constructed "datetime.timedelta" (if parts.isEmpty then [['0']] else parts)

def zoneInMessage (offset : Span) : List Char :=
  if offset.micros = 0 then "datetime.timezone.utc".toList
  else constructed "datetime.timezone" [spanInMessage offset]

/-- Hour and minute, then the seconds and microseconds as far as they are not zero, then the
zone. -/
def clockArguments (t : ClockTime) : List (List Char) :=
  let numbers :=
    if t.micro ≠ 0 then [t.hour, t.minute, t.second, t.micro]
    else if t.second ≠ 0 then [t.hour, t.minute, t.second]
    else [t.hour, t.minute]
  numbers.map decimalDigits ++ match t.offset with
    | none => []
    | some o => ["tzinfo=".toList ++ zoneInMessage o]

def dateArguments (d : Date) : List (List Char) :=
  [d.year, d.month, d.day].map decimalDigits

def bytesInMessage : ByteForm → List UInt8 → List Char
  | .fixed, content => quotedBytes content
  | .mutable, content => constructed "bytearray" [quotedBytes content]
  | .view _, _ => "<memory>".toList

mutual

def inMessage : Value → List Char
  | null => "None".toList
  | bool b => boolText b
  | int i => intDigits i
  | float x _ => x.shown
  | decimal d _ => constructed "Decimal" ['\'' :: d.shown ++ ['\'']]
  | text s => quoted s.toList
  | bytes form content => bytesInMessage form content
  | date d => constructed "datetime.date" (dateArguments d)
  | moment m => constructed "datetime.datetime" (dateArguments m.date ++ clockArguments m.clock)
  | time t => constructed "datetime.time" (clockArguments t)
  | span s => spanInMessage s
  | uuid n => constructed "UUID" ['\'' :: uuidText n ++ ['\'']]
  | list items => '[' :: commaSeparated (itemsInMessage items) ++ [']']
  | dict entries => '{' :: commaSeparated (entriesInMessage entries) ++ ['}']

def itemsInMessage : List Value → List (List Char)
  | [] => []
  | v :: rest => inMessage v :: itemsInMessage rest

def entriesInMessage : List (Value × Value) → List (List Char)
  | [] => []
  | (k, v) :: rest => (inMessage k ++ ':' :: ' ' :: inMessage v) :: entriesInMessage rest

end

def shown : Value → List Char
  | text s => s.toList
  | decimal d _ => d.shown
  | date d => d.iso
  | moment m => m.iso ' '
  | time t => t.iso
  | span s => s.shown
  | uuid n => uuidText n
  | v => inMessage v

def messageText (v : Value) : String :=
  String.ofList v.inMessage

def shownText (v : Value) : String :=
  String.ofList v.shown

end Value

end LookupEnums
