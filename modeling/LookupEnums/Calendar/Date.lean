import LookupEnums.Text.Digits

/-! # Dates

Days of the proleptic Gregorian calendar, years 1 to 9999. -/

namespace LookupEnums
open Text

structure Date where
  year : Nat
  month : Nat
  day : Nat
  deriving DecidableEq, Repr

namespace Date

def isLeap (year : Nat) : Bool :=
  year % 4 == 0 && (year % 100 != 0 || year % 400 == 0)

def monthLengths (year : Nat) : List Nat :=
  [31, if isLeap year then 29 else 28, 31, 30, 31, 30, 31, 31, 30, 31, 30, 31]

def yearLength (year : Nat) : Nat :=
  if isLeap year then 366 else 365

def isValid (d : Date) : Bool :=
  1 ≤ d.year && d.year ≤ 9999 && 1 ≤ d.month && d.month ≤ 12
    && 1 ≤ d.day && d.day ≤ (monthLengths d.year).getD (d.month - 1) 0

def make? (year month day : Nat) : Option Date :=
  let d : Date := ⟨year, month, day⟩
  if d.isValid then some d else none

def daysBeforeYear (year : Nat) : Nat :=
  let y := year - 1
  y * 365 + y / 4 - y / 100 + y / 400

def dayNumber (d : Date) : Nat :=
  daysBeforeYear d.year + ((monthLengths d.year).take (d.month - 1)).foldl (· + ·) 0 + d.day

def inMonths : List Nat → (month n : Nat) → Nat × Nat
  | [], month, n => (month, n + 1)
  | length :: rest, month, n => if n < length then (month, n + 1) else inMonths rest (month + 1) (n - length)

/-- The day `offset` days after the first of January; up to a year before or after is reached. -/
def ofYearOffset? (year : Nat) (offset : Int) : Option Date :=
  let (year, offset) :=
    if offset < 0 then (year - 1, offset + yearLength (year - 1))
    else if (yearLength year : Int) ≤ offset then (year + 1, offset - yearLength year)
    else (year, offset)
  let (month, day) := inMonths (monthLengths year) 1 offset.toNat
  make? year month day

def firstWeekday (year : Nat) : Nat :=
  daysBeforeYear year % 7

/-- Weeks in the week-based year: 53 when it begins on a Thursday, or in a leap year on a
Wednesday, else 52. -/
def weeksIn (year : Nat) : Nat :=
  let w := firstWeekday year
  if w = 3 ∨ (w = 2 ∧ isLeap year) then 53 else 52

/-- A day of the week-based calendar: week 1 is the one with the first Thursday of the year. -/
def ofWeek? (year week day : Nat) : Option Date :=
  if week = 0 ∨ weeksIn year < week ∨ day = 0 ∨ 7 < day ∨ year = 0 then none
  else
    let w := firstWeekday year
    let monday : Int := if w ≤ 3 then -(w : Int) else 7 - (w : Int)
    ofYearOffset? year (monday + ((week - 1) * 7 + (day - 1) : Nat))

def iso (d : Date) : List Char :=
  paddedDecimal 4 d.year ++ '-' :: paddedDecimal 2 d.month ++ '-' :: paddedDecimal 2 d.day

end Date

end LookupEnums
