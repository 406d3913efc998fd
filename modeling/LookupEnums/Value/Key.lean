import LookupEnums.Number.Binary64
import LookupEnums.Value.Basic

/-! # Values as keys

Keys are compared by what they stand for: numbers exactly, whatever their kind, and moments with a
zone by their instant. A not-a-number is the same key as itself only, the very same object. What may
change later, lists, dictionaries and mutable bytes, and the signaling not-a-number cannot be keys.

Integers, doubles and decimals are all of the form `± core * 2 ^ twos * 5 ^ fives`. With a core that
neither two nor five divides, each number above or below zero has one such form, so two numbers are
equal exactly when their forms are.
-/

namespace LookupEnums

structure Exact where
  negative : Bool
  core : Nat
  twos : Int
  fives : Int
  deriving DecidableEq, Repr

namespace Exact

def strip (p : Nat) : Nat → Nat → Nat × Nat
  | 0, n => (0, n)
  | fuel + 1, n =>
    if n % p = 0 then
      let (k, rest) := strip p fuel (n / p)
      (k + 1, rest)
    else (0, n)

def make (negative : Bool) (n : Nat) (twos fives : Int) : Exact :=
  if n = 0 then ⟨false, 0, 0, 0⟩
  else
    let (a, n) := strip 2 (n.log2 + 1) n
    let (b, n) := strip 5 (n.log2 + 1) n
    ⟨negative, n, twos + a, fives + b⟩

def ofInt (i : Int) : Exact :=
  make (i < 0) i.natAbs 0 0

def ofBinary64? : Binary64 → Option Exact
  | .finite negative m e => some (make negative m e 0)
  | _ => none

def ofDecimal? : Decimal → Option Exact
  | .finite negative coefficient exponent => some (make negative coefficient exponent exponent)
  | _ => none

end Exact

/-- Why a value cannot be a key: no value of its kind can, it is a signaling not-a-number, or a view of
bytes that may change. -/
inductive KeyFault
  | kind (name : String)
  | signaling
  | changing
  deriving DecidableEq, Repr

namespace Value

def usableAsKey : Value → Bool
  | bytes .mutable _ => false
  | bytes (.view true) _ => false
  | decimal (.nan _ true _) _ => false
  | list _ => false
  | dict _ => false
  | _ => true

def keyFault : Value → KeyFault
  | bytes (.view _) _ => .changing
  | bytes _ _ => .kind "bytearray"
  | list _ => .kind "list"
  | dict _ => .kind "dict"
  | _ => .signaling

def exactNumber? : Value → Option Exact
  | bool b => some (Exact.ofInt (if b then 1 else 0))
  | int i => some (Exact.ofInt i)
  | float x _ => Exact.ofBinary64? x
  | decimal d _ => Exact.ofDecimal? d
  | _ => none

def infinite? : Value → Option Bool
  | float (.infinite negative) _ => some negative
  | decimal (.infinite negative) _ => some negative
  | _ => none

/-- The object that a not-a-number is; a decimal one has a form besides. -/
def notANumber? : Value → Option (Option Decimal × Nat)
  | float .nan object => some (none, object)
  | decimal (.nan negative signaling payload) object =>
    some (some (.nan negative signaling payload), object)
  | _ => none

/-- The rule for numbers: equal exact values, the same infinity, or one and the same object. -/
def sameNumber (a b : Value) : Bool :=
  match a.exactNumber?, b.exactNumber? with
  | some x, some y => x = y
  | none, none =>
    match a.infinite?, b.infinite? with
    | some x, some y => x = y
    | none, none =>
      match a.notANumber?, b.notANumber? with
      | some x, some y => x = y
      | _, _ => false
    | _, _ => false
  | _, _ => false

def sameKey : Value → Value → Bool
  | null, null => true
  | text s, text t => s = t
  | bytes _ s, bytes _ t => s = t
  | date d, date e => d = e
  | moment m, moment n => m.same n
  | time t, time u => t.same u
  | span s, span t => s = t
  | uuid m, uuid n => m = n
  | a, b => sameNumber a b

end Value

end LookupEnums
