import LookupEnums.Calendar.Clock
import LookupEnums.Text.Blank
import LookupEnums.Text.LowerCase
import LookupEnums.Value.Basic
import LookupEnums.Yaml.Plain
import LookupEnums.Yaml.Token

/-! # Values of scalars

The value of a scalar of each kind. A tag may ask for a kind the scalar does not look like; each
kind then fails in its own way. -/

namespace LookupEnums.Yaml
open Text

namespace ScalarValue

def bool (s : List Char) : Read Value :=
  let w := String.ofList (lowered s)
  if ["yes", "true", "on"].contains w then .ok (.bool true)
  else if ["no", "false", "off"].contains w then .ok (.bool false)
  else .error .unknownWord

def digitIn? (base : Nat) (c : Char) : Option Nat :=
  (hexValue? c).bind fun n => if n < base then some n else none

def isBaseMark (base : Nat) (c : Char) : Bool :=
  (base == 2 && (c == 'b' || c == 'B')) || (base == 8 && (c == 'o' || c == 'O'))
    || (base == 16 && (c == 'x' || c == 'X'))

def natIn (base : Nat) (s : List Char) : Read Nat :=
  let s := match s with
    | '0' :: c :: r => if isBaseMark base c then r else s
    | _ => s
  if s.isEmpty || (base == 10 && mostDigits < s.length) then .error .badValue
  else match s.mapM (digitIn? base) with
    | some digits => .ok (ofDigits base digits)
    | none => .error .badValue

def intIn (base : Nat) (s : List Char) : Read Int :=
  match strip s with
  | '-' :: r => (natIn base r).map fun n => -(n : Int)
  | '+' :: r => (natIn base r).map Int.ofNat
  | r => (natIn base r).map Int.ofNat

def withoutLines (s : List Char) : List Char :=
  s.filter (· ≠ '_')

def sign : List Char → Read (Bool × List Char)
  | [] => .error .tooShort
  | '-' :: r => .ok (true, r)
  | '+' :: r => .ok (false, r)
  | s => .ok (false, s)

/-- Parts between colons count sixty times the next one. -/
def sexagesimal (s : List Char) : Read Int := do
  let parts ← (pieces [':'] s).mapM (intIn 10)
  return parts.foldl (fun n part => n * 60 + part) 0

def int (s : List Char) : Read Value := do
  let (negative, s) ← sign (withoutLines s)
  let n ← match s with
    | [] => throw .tooShort
    | ['0'] => pure 0
    | '0' :: 'b' :: r => intIn 2 r
    | '0' :: 'x' :: r => intIn 16 r
    | '0' :: _ => intIn 8 s
    | _ => if s.contains ':' then sexagesimal s else intIn 10 s
  return .int (if negative then -n else n)

def floatPart (s : List Char) : Read Binary64 :=
  match Binary64.read? (strip s) with
  | some x => .ok x
  | none => .error .badValue

def sexagesimalFloat (s : List Char) : Read Binary64 := do
  let parts ← (pieces [':'] s).mapM floatPart
  let (sum, _) := parts.reverse.foldl (fun (sum, base) part =>
    (Binary64.add sum (Binary64.mul part (.ofInt base)), base * 60)) (Binary64.zero, (1 : Int))
  return sum

/-- The number that a text at a place writes. A not-a-number written as such is always the same
object. -/
def float (place : Nat) (s : List Char) : Read Value := do
  let (negative, s) ← sign (lowered (withoutLines s))
  if s = ".nan".toList then return .float .nan 0
  let x ←
    if s = ".inf".toList then pure (.infinite false)
    else if s.contains ':' then sexagesimalFloat s
    else floatPart s
  return .float (if negative then x.negate else x) (place + 1)

def number (s : List Char) : Nat :=
  ofDigits 10 (s.filterMap digitValue?)

def micros (fraction : List Char) : Nat :=
  let used := fraction.take 6
  number used * Nat.pow 10 (6 - used.length)

def offsetSpan (sign : Char) (hours minutes : List Char) : Span :=
  let total : Int := ((number hours * 60 + number minutes) * 60000000 : Nat)
  ⟨if sign = '-' then -total else total⟩

def timestamp (s : List Char) : Read Value :=
  match Plain.stamp? s with
  | none => .error .noMatch
  | some t =>
    match Date.make? (number t.year) (number t.month) (number t.day), t.clock with
    | none, _ => .error .badValue
    | some date, none => .ok (.date date)
    | some date, some (hour, minute, second, fraction) =>
      let offset := t.offset.map fun (sign, hours, minutes) => offsetSpan sign hours minutes
      let clock : ClockTime :=
        ⟨number hour, number minute, number second, micros fraction, offset⟩
      if clock.isValid then .ok (.moment ⟨date, clock⟩) else .error .badValue

def base64Chars : List Char :=
  "ABCDEFGHIJKLMNOPQRSTUVWXYZabcdefghijklmnopqrstuvwxyz0123456789+/".toList

/-- Digits of base 64 in groups of four, in which other characters do not count. `filled` digits of
the group are read, and `bits` of them are left; padding ends the text once it fills a group. -/
def base64From : (filled bits pads : Nat) → List Char → Option (List UInt8)
  | filled, _, _, [] => if filled = 0 then some [] else none
  | filled, bits, pads, '=' :: r =>
    if 2 ≤ filled then
      if 4 ≤ filled + pads + 1 then some [] else base64From filled bits (pads + 1) r
    else base64From filled bits pads r
  | filled, bits, pads, c :: r =>
    match base64Chars.idxOf? c with
    | none => base64From filled bits pads r
    | some d =>
      match filled with
      | 0 => base64From 1 d 0 r
      | 1 => (base64From 2 (d % 16) 0 r).map (UInt8.ofNat (bits * 4 + d / 16) :: ·)
      | 2 => (base64From 3 (d % 4) 0 r).map (UInt8.ofNat (bits * 16 + d / 4) :: ·)
      | _ => (base64From 0 0 0 r).map (UInt8.ofNat (bits * 64 + d) :: ·)

def binary (s : List Char) : Read Value :=
  if s.any fun c => 0x80 ≤ c.toNat then .error .malformed
  else match base64From 0 0 0 s with
    | some bytes => .ok (.bytes .fixed bytes)
    | none => .error .malformed

end ScalarValue

end LookupEnums.Yaml
