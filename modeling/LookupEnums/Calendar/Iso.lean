import LookupEnums.Calendar.Clock

/-! # Reading dates and times

Dates as `YYYY-MM-DD`, `YYYYMMDD` or by week; times as `HH[:MM[:SS[.ffffff]]]`, with or without
colons, and an offset; moments as a date, one character between, and a time. Of a fraction the
first six digits count. -/

namespace LookupEnums
open Text

namespace Iso

def digits? (n : Nat) (s : List Char) : Option (Nat × List Char) :=
  let (front, rest) := s.splitAt n
  if front.length = n ∧ front.all Char.isDigit then
    some (ofDigits 10 (front.filterMap digitValue?), rest)
  else none

def dash? (used : Bool) (s : List Char) : Option (List Char) :=
  if !used then some s
  else match s with
    | '-' :: r => some r
    | _ => none

def week? (year : Nat) (dashes : Bool) (s : List Char) : Option Date := do
  let (week, rest) ← digits? 2 s
  if rest.isEmpty then Date.ofWeek? year week 1
  else
    let rest ← dash? dashes rest
    let (day, _) ← digits? 1 rest
    Date.ofWeek? year week day

def datePart? (s : List Char) : Option Date := do
  let (year, rest) ← digits? 4 s
  let dashes := rest.head? = some '-'
  let rest := if dashes then rest.drop 1 else rest
  match rest with
  | 'W' :: r => week? year dashes r
  | _ =>
    let (month, rest) ← digits? 2 rest
    let rest ← dash? dashes rest
    let (day, _) ← digits? 2 rest
    Date.make? year month day

def date? (s : List Char) : Option Date :=
  if s.length = 7 ∨ s.length = 8 ∨ s.length = 10 then datePart? s else none

/-- A fraction of a second: up to six digits, further ones are passed over. The flag says that
something is left after them. -/
def fraction? (s : List Char) : Option (Nat × Bool) :=
  let used := s.take 6
  if used.all Char.isDigit then
    let n := ofDigits 10 (used.filterMap digitValue?)
    some (n * Nat.pow 10 (6 - used.length), !((s.drop 6).dropWhile Char.isDigit).isEmpty)
  else none

structure ClockParts where
  parts : List Nat
  micro : Nat
  leftover : Bool

/-- The two-digit numbers of a clock that are still to come, then the fraction. A single character
at the very end that starts no number is left over. -/
def clockFrom? : (remaining : Nat) → (colons : Option Bool) → List Char → Option ClockParts
  | 0, _, s => (fraction? s).map fun (micro, leftover) => ⟨[], micro, leftover⟩
  | n + 1, colons, s => do
    let (value, rest) ← digits? 2 s
    let colons := colons.getD (rest.head? = some ':')
    let add (p : ClockParts) : ClockParts := { p with parts := value :: p.parts }
    match rest with
    | [] => some ⟨[value], 0, false⟩
    | [_] => some ⟨[value], 0, true⟩
    | c :: more =>
      if colons && c == ':' then (clockFrom? n (some colons) more).map add
      else if c == '.' || c == ',' then
        (fraction? more).map fun (micro, leftover) => ⟨[value], micro, leftover⟩
      else if !colons then (clockFrom? n (some colons) rest).map add
      else none

def clock? (s : List Char) : Option ClockParts :=
  clockFrom? 3 none s

def isZoneMark (c : Char) : Bool :=
  c == '+' || c == '-' || c == 'Z'

def ClockParts.part (p : ClockParts) (n : Nat) : Nat :=
  p.parts.getD n 0

def offset? : List Char → Option Span
  | ['Z'] => some ⟨0⟩
  | c :: r =>
    if c == 'Z' then none
    else do
      let p ← clock? r
      if p.leftover then none
      else
        let sec : Int := (p.part 0 * 3600 + p.part 1 * 60 + p.part 2 : Nat)
        let total := sec * 1000000 + p.micro
        some ⟨if sec = 0 then 0 else if c == '-' then -total else total⟩
  | [] => none

def timePart? (s : List Char) : Option ClockTime := do
  let front := s.takeWhile fun c => !isZoneMark c
  let zone := s.dropWhile fun c => !isZoneMark c
  let p ← clock? front
  let offset ← if zone.isEmpty then (if p.leftover then none else some none) else (offset? zone).map some
  let t : ClockTime := ⟨p.part 0, p.part 1, p.part 2, p.micro, offset⟩
  if t.isValid then some t else none

def time? (s : List Char) : Option ClockTime :=
  match s with
  | 'T' :: r => timePart? r
  | _ => timePart? s

def dateLength (s : List Char) : Nat :=
  let digitAt (n : Nat) : Bool := (s[n]?).any Char.isDigit
  if s.length = 7 then 7
  else if s[4]? = some '-' then
    if s[5]? = some 'W' then
      if s[8]? = some '-' then (if s.length > 10 && digitAt 10 then 8 else 10) else 8
    else 10
  else if s[4]? = some 'W' then
    let n := 7 + ((s.drop 7).takeWhile Char.isDigit).length
    if n < 9 then n else if n % 2 = 0 then 7 else 8
  else 8

def moment? (s : List Char) : Option Moment := do
  if s.length < 7 then none
  else
    let n := dateLength s
    let date ← datePart? (s.take n)
    if s.length ≤ n then some ⟨date, .midnight⟩
    else
      let clock ← timePart? (s.drop (n + 1))
      some ⟨date, clock⟩

end Iso

end LookupEnums
