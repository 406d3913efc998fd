import LookupEnums.Text.Cut
import LookupEnums.Text.Digits

/-! # What a plain scalar looks like

A plain scalar is a boolean, a number, null, a date or a moment by its look, and a text
otherwise. -/

namespace LookupEnums.Yaml
open Text

inductive Kind
  | null
  | bool
  | int
  | float
  | timestamp
  | merge
  | value
  | text
  deriving DecidableEq, Repr

namespace Plain

def boolWords : List String :=
  ["yes", "Yes", "YES", "no", "No", "NO", "true", "True", "TRUE", "false", "False", "FALSE", "on",
    "On", "ON", "off", "Off", "OFF"]

def nullWords : List String :=
  ["", "~", "null", "Null", "NULL"]

def isDigitOrLine (c : Char) : Bool :=
  c.isDigit || c == '_'

def dropSign : List Char → List Char
  | '-' :: r => r
  | '+' :: r => r
  | s => s

def isWhole (s : List Char) : Bool :=
  match s with
  | c :: r => '1' ≤ c && c ≤ '9' && r.all isDigitOrLine
  | [] => false

def isSexagesimalPart : List Char → Bool
  | [a] => a.isDigit
  | [a, b] => '0' ≤ a && a ≤ '5' && b.isDigit
  | _ => false

def isInt (s : List Char) : Bool :=
  match dropSign s with
  | ['0'] => true
  | '0' :: 'b' :: r => !r.isEmpty && r.all fun c => c == '0' || c == '1' || c == '_'
  | '0' :: 'x' :: r => !r.isEmpty && r.all fun c => (hexValue? c).isSome || c == '_'
  | '0' :: r => r.all fun c => ('0' ≤ c && c ≤ '7') || c == '_'
  | s =>
    match pieces [':'] s with
    | [whole] => isWhole whole
    | whole :: parts => isWhole whole && parts.all isSexagesimalPart
    | [] => false

def isExponent : List Char → Bool
  | [] => true
  | c :: sign :: digits =>
    (c == 'e' || c == 'E') && (sign == '-' || sign == '+') && !digits.isEmpty && digits.all Char.isDigit
  | _ => false

def isDigits (s : List Char) : Bool :=
  s.head?.any Char.isDigit && s.all isDigitOrLine

def isInfinity (s : List Char) : Bool :=
  [".inf", ".Inf", ".INF"].contains (String.ofList s)

def isNan (s : List Char) : Bool :=
  [".nan", ".NaN", ".NAN"].contains (String.ofList s)

def isFloat (s : List Char) : Bool :=
  let body := dropSign s
  if isNan s || isInfinity body then true
  else match s with
    | '.' :: r => isDigits (r.takeWhile isDigitOrLine) && isExponent (r.dropWhile isDigitOrLine)
    | _ =>
      match cut? ['.'] body with
      | none => false
      | some (before, after) =>
        let exponent := after.dropWhile isDigitOrLine
        (isDigits before && isExponent exponent)
          || (match pieces [':'] before with
            | whole :: part :: parts =>
              isDigits whole && (part :: parts).all isSexagesimalPart && exponent.isEmpty
            | _ => false)

structure Stamp where
  year : List Char
  month : List Char
  day : List Char
  /-- Hour, minute, second and fraction. -/
  clock : Option (List Char × List Char × List Char × List Char) := none
  /-- The sign, hours and minutes of the offset, `Z` being an offset of nothing. -/
  offset : Option (Char × List Char × List Char) := none

def digits? (least most : Nat) (s : List Char) : Option (List Char × List Char) :=
  let front := (s.take most).takeWhile Char.isDigit
  if least ≤ front.length then some (front, s.drop front.length) else none

def char? (c : Char) : List Char → Option (List Char)
  | d :: r => if c = d then some r else none
  | [] => none

def isInlineBlank (c : Char) : Bool :=
  c == ' ' || c == '\t'

def clockStart? : List Char → Option (List Char)
  | [] => none
  | c :: r =>
    if c = 'T' || c = 't' then some r
    else if isInlineBlank c then some (r.dropWhile isInlineBlank)
    else none

def offset? (s : List Char) : Option (Option (Char × List Char × List Char)) :=
  match s.dropWhile isInlineBlank with
  | [] => if s.isEmpty then some none else none
  | ['Z'] => some (some ('Z', [], []))
  | sign :: r =>
    if sign != '-' && sign != '+' then none
    else do
      let (hours, r) ← digits? 1 2 r
      match r with
      | [] => some (some (sign, hours, []))
      | ':' :: r =>
        let (minutes, r) ← digits? 2 2 r
        if r.isEmpty then some (some (sign, hours, minutes)) else none
      | _ => none

def fraction : List Char → List Char × List Char
  | '.' :: r => (r.takeWhile Char.isDigit, r.dropWhile Char.isDigit)
  | s => ([], s)

def stamp? (s : List Char) : Option Stamp := do
  let (year, s) ← digits? 4 4 s
  let s ← char? '-' s
  let (month, s) ← digits? 1 2 s
  let s ← char? '-' s
  let (day, s) ← digits? 1 2 s
  if s.isEmpty then return { year, month, day }
  else
    let s ← clockStart? s
    let (hour, s) ← digits? 1 2 s
    let s ← char? ':' s
    let (minute, s) ← digits? 2 2 s
    let s ← char? ':' s
    let (second, s) ← digits? 2 2 s
    let (fraction, s) := fraction s
    let offset ← offset? s
    return { year, month, day, clock := some (hour, minute, second, fraction), offset }

def isTimestamp (s : List Char) : Bool :=
  match stamp? s with
  | some t => t.clock.isSome || (t.month.length = 2 && t.day.length = 2)
  | none => false

def kind (s : String) : Kind :=
  let cs := s.toList
  if boolWords.contains s then .bool
  else if isFloat cs then .float
  else if isInt cs then .int
  else if s = "<<" then .merge
  else if nullWords.contains s then .null
  else if isTimestamp cs then .timestamp
  else if s = "=" then .value
  else .text

end Plain

end LookupEnums.Yaml
