import LookupEnums.Calendar.Date

/-! # Times of day, moments and spans

A time of day and a moment may carry the offset of their zone; a span is a signed number of
microseconds. -/

namespace LookupEnums
open Text

structure Span where
  micros : Int
  deriving DecidableEq, Repr

structure ClockTime where
  hour : Nat
  minute : Nat
  second : Nat
  micro : Nat
  /-- How far local time is ahead of universal time, if it is known. -/
  offset : Option Span := none
  deriving DecidableEq, Repr

structure Moment where
  date : Date
  clock : ClockTime
  deriving DecidableEq, Repr

namespace Span

def microsPerSecond : Int := 1000000
def microsPerDay : Int := 86400 * microsPerSecond

def ofParts (days seconds micros : Int) : Span :=
  ⟨days * microsPerDay + seconds * microsPerSecond + micros⟩

def days (s : Span) : Int :=
  s.micros.fdiv microsPerDay

def seconds (s : Span) : Int :=
  (s.micros.fmod microsPerDay).fdiv microsPerSecond

def subseconds (s : Span) : Int :=
  s.micros.fmod microsPerSecond

def fractionText (micro : Nat) : List Char :=
  if micro = 0 then [] else '.' :: paddedDecimal 6 micro

def shown (s : Span) : List Char :=
  let days := s.days
  let sec := s.seconds.toNat
  let dayText :=
    if days = 0 then []
    else intDigits days ++ (if days.natAbs = 1 then " day, " else " days, ").toList
  dayText ++ decimalDigits (sec / 3600) ++ ':' :: paddedDecimal 2 (sec / 60 % 60)
    ++ ':' :: paddedDecimal 2 (sec % 60) ++ fractionText s.subseconds.toNat

def offsetText (s : Span) : List Char :=
  let n := s.micros.natAbs
  let sec := n / 1000000
  let tail :=
    if n % 60000000 = 0 then [] else ':' :: paddedDecimal 2 (sec % 60) ++ fractionText (n % 1000000)
  (if s.micros < 0 then '-' else '+') :: paddedDecimal 2 (sec / 3600)
    ++ ':' :: paddedDecimal 2 (sec / 60 % 60) ++ tail

end Span

namespace ClockTime

def isValid (t : ClockTime) : Bool :=
  t.hour < 24 && t.minute < 60 && t.second < 60 && t.micro < 1000000
    && t.offset.all fun o => o.micros.natAbs < Span.microsPerDay.natAbs

def midnight : ClockTime := ⟨0, 0, 0, 0, none⟩

def sinceMidnight (t : ClockTime) : Int :=
  ((t.hour * 3600 + t.minute * 60 + t.second) * 1000000 + t.micro : Nat)

def iso (t : ClockTime) : List Char :=
  paddedDecimal 2 t.hour ++ ':' :: paddedDecimal 2 t.minute ++ ':' :: paddedDecimal 2 t.second
    ++ Span.fractionText t.micro ++ (t.offset.map Span.offsetText).getD []

/-- Equal times: both with an offset, and then the same universal time, or both without. -/
def same (a b : ClockTime) : Bool :=
  match a.offset, b.offset with
  | none, none => a = b
  | some x, some y => a.sinceMidnight - x.micros = b.sinceMidnight - y.micros
  | _, _ => false

end ClockTime

namespace Moment

def iso (separator : Char) (m : Moment) : List Char :=
  m.date.iso ++ separator :: m.clock.iso

def localMicros (m : Moment) : Int :=
  m.date.dayNumber * Span.microsPerDay + m.clock.sinceMidnight

/-- Equal moments: both with an offset, and then the same instant, or both without. -/
def same (a b : Moment) : Bool :=
  match a.clock.offset, b.clock.offset with
  | none, none => a = b
  | some x, some y => a.localMicros - x.micros = b.localMicros - y.micros
  | _, _ => false

end Moment

end LookupEnums
