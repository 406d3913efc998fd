import LookupEnums.Value.Key

/-! # What keys stand for

Keys are the same exactly where they stand for the same thing. So being the same key is symmetric
and transitive; it is not reflexive, as some values stand for nothing a key could be.
-/
namespace LookupEnums

/-- A time or a moment by itself where its zone is not known, and by universal time elsewhere. -/
inductive ClockForm (α : Type)
  | plain (a : α)
  | universal (micros : Int)
  deriving DecidableEq

inductive NumberForm
  | exact (x : Exact)
  | infinite (negative : Bool)
  deriving DecidableEq

inductive KeyForm
  | null
  | text (s : String)
  | bytes (content : List UInt8)
  | date (d : Date)
  | moment (m : ClockForm Moment)
  | time (t : ClockForm ClockTime)
  | span (s : Span)
  | uuid (n : Nat)
  | number (x : NumberForm)
  | object (x : Option Decimal × Nat)
  deriving DecidableEq

def Moment.form (m : Moment) : ClockForm Moment :=
  match m.clock.offset with
  | none => .plain m
  | some x => .universal (m.localMicros - x.micros)

def ClockTime.form (t : ClockTime) : ClockForm ClockTime :=
  match t.offset with
  | none => .plain t
  | some x => .universal (t.sinceMidnight - x.micros)

theorem Moment.same_eq (m n : Moment) : m.same n = decide (m.form = n.form) := by
  unfold Moment.same Moment.form
  cases hm : m.clock.offset <;> cases hn : n.clock.offset <;> simp

theorem ClockTime.same_eq (t u : ClockTime) : t.same u = decide (t.form = u.form) := by
  unfold ClockTime.same ClockTime.form
  cases ht : t.offset <;> cases hu : u.offset <;> simp

namespace Value

def numberForm? (v : Value) : Option NumberForm :=
  match v.exactNumber? with
  | some x => some (.exact x)
  | none => v.infinite?.map .infinite

/-- A number stands for its value, a not-a-number for the object it is. -/
def numberKey? (v : Value) : Option KeyForm :=
  (v.numberForm?.map .number).or (v.notANumber?.map .object)

def keyForm? : Value → Option KeyForm
  | null => some .null
  | text s => some (.text s)
  | bytes _ content => some (.bytes content)
  | date d => some (.date d)
  | moment m => some (.moment m.form)
  | time t => some (.time t.form)
  | span s => some (.span s)
  | uuid n => some (.uuid n)
  | v => v.numberKey?

theorem sameNumber_iff {a b : Value} :
    sameNumber a b = true ↔ ∃ k, b.numberKey? = some k ∧ a.numberKey? = some k := by
  unfold sameNumber numberKey? numberForm?
  cases a.exactNumber? <;> cases b.exactNumber? <;> cases a.infinite? <;> cases b.infinite? <;>
    cases a.notANumber? <;> cases b.notANumber? <;> simp

/-- Keys are the same exactly where they stand for the same thing. -/
theorem sameKey_iff {a b : Value} :
    a.sameKey b = true ↔ ∃ k, b.keyForm? = some k ∧ a.keyForm? = some k := by
  cases a <;> cases b <;>
    first
    | exact sameNumber_iff
    | simp [sameKey, keyForm?, sameNumber_iff, numberKey?, numberForm?, exactNumber?, infinite?,
        notANumber?, Moment.same_eq, ClockTime.same_eq]

theorem sameKey_comm (a b : Value) : a.sameKey b = b.sameKey a := by
  rw [Bool.eq_iff_iff, sameKey_iff, sameKey_iff]
  constructor <;> exact fun ⟨k, h, h'⟩ => ⟨k, h', h⟩

theorem sameKey_trans {a b c : Value} (hab : a.sameKey b = true) (hbc : b.sameKey c = true) :
    a.sameKey c = true := by
  obtain ⟨k, hb, ha⟩ := sameKey_iff.mp hab
  obtain ⟨l, hc, hb'⟩ := sameKey_iff.mp hbc
  exact sameKey_iff.mpr ⟨l, hc, ha.trans (hb.symm.trans hb')⟩

end Value

end LookupEnums
