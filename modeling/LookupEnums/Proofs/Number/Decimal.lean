import LookupEnums.Number.Decimal
import LookupEnums.Proofs.Text.Digits
import LookupEnums.Proofs.Text.Separator
import LookupEnums.Proofs.Value.Number

/-! # Plain decimals read back

A decimal is written without an exponent: digits, at most one point, and a sign in front. Read that way
its text is worth exactly what the decimal is worth, however large or small its exponent is.
-/
namespace LookupEnums.Decimal
open Text

def worth (read : Nat × Nat) : ℚ :=
  read.1 / 10 ^ read.2

def readPlain? : List Char → Option ℚ
  | '-' :: digits => (readDigits? digits).map fun read => -worth read
  | digits => (readDigits? digits).map worth

section read
variable {s whole fraction : List Char}

theorem readDigits?_whole (h : ∀ c ∈ s, c.isDigit = true) :
    readDigits? s = (readDecimal? s).map fun n => (n, 0) := by
  have htake : s.takeWhile Char.isDigit = s := List.takeWhile_eq_self_iff.mpr h
  have hdrop : s.dropWhile Char.isDigit = [] := List.dropWhile_eq_nil_iff.mpr h
  simp only [readDigits?, htake, hdrop]

theorem readDigits?_point (hwhole : ∀ c ∈ whole, c.isDigit = true)
    (hfraction : ∀ c ∈ fraction, c.isDigit = true) : readDigits? (whole ++ '.' :: fraction) =
      (readDecimal? (whole ++ fraction)).map fun n => (n, fraction.length) := by
  have htake := takeWhile_append_cons hwhole (show '.'.isDigit = false from rfl) fraction
  have hdrop := dropWhile_append_cons hwhole (show '.'.isDigit = false from rfl) fraction
  have hall : fraction.all Char.isDigit = true := List.all_eq_true.mpr hfraction
  simp only [readDigits?, htake, hdrop, hall, if_true]

end read

section digits
variable {n places : Nat} {coefficient : Nat} {exponent : Int}

theorem isDigit_zeroPadded (width n : Nat) :
    ∀ c ∈ zeroPadded width (decimalDigits n), c.isDigit = true := by
  intro c hc
  rcases List.mem_append.mp hc with hc | hc
  · rw [(List.mem_replicate.mp hc).2]
    rfl
  · exact isDigit_decimalDigits n c hc

theorem isDigit_append_zeros (n count : Nat) :
    ∀ c ∈ decimalDigits n ++ List.replicate count '0', c.isDigit = true := by
  intro c hc
  rcases List.mem_append.mp hc with hc | hc
  · exact isDigit_decimalDigits n c hc
  · rw [(List.mem_replicate.mp hc).2]
    rfl

theorem readDigits?_withPoint (places n : Nat) :
    readDigits? (withPoint places (decimalDigits n)) = some (n, places) := by
  have hdigits := isDigit_zeroPadded (places + 1) n
  have hread := readDecimal?_zeroPadded (places + 1) n
  have hlength : places ≤ (zeroPadded (places + 1) (decimalDigits n)).length := by
    simp only [zeroPadded, List.length_append, List.length_replicate]
    omega
  unfold withPoint
  split
  next hnone => rw [readDigits?_whole hdigits, hread, hnone, Option.map_some]
  next =>
    rw [readDigits?_point (fun c hc => hdigits c (List.mem_of_mem_take hc))
      (fun c hc => hdigits c (List.mem_of_mem_drop hc)), List.take_append_drop, hread, List.length_drop,
      Option.map_some, Nat.sub_sub_self hlength]

theorem readDigits?_plainDigits (coefficient : Nat) (exponent : Int) :
    ∃ read, readDigits? (plainDigits coefficient exponent) = some read ∧
      worth read = coefficient * 10 ^ exponent := by
  unfold plainDigits
  split
  next hle =>
    refine ⟨_, readDigits?_withPoint exponent.natAbs coefficient, ?_⟩
    have hexponent : exponent = -(exponent.natAbs : Int) := Int.eq_neg_natAbs_of_nonpos hle
    rw [worth, div_eq_mul_inv, ← zpow_natCast, ← zpow_neg, ← hexponent]
  next hlt =>
    split
    next hzero => exact ⟨(0, 0), rfl, by simp [worth, hzero]⟩
    next =>
      have hdigits := isDigit_append_zeros coefficient exponent.toNat
      have hexponent : ((exponent.toNat : Nat) : Int) = exponent := Int.toNat_of_nonneg (by omega)
      refine ⟨(coefficient * 10 ^ exponent.toNat, 0), ?_, ?_⟩
      · rw [readDigits?_whole hdigits, readDecimal?_append_zeros, Option.map_some]
      · rw [worth, pow_zero, div_one]
        conv_rhs => rw [← hexponent, zpow_natCast]
        push_cast
        rfl

theorem withPoint_chars (places n : Nat) :
    ∀ c ∈ withPoint places (decimalDigits n), c.isDigit = true ∨ c = '.' := by
  have hdigits := isDigit_zeroPadded (places + 1) n
  unfold withPoint
  split
  next => exact fun c hc => Or.inl (hdigits c hc)
  next =>
    intro c hc
    rcases List.mem_append.mp hc with hc | hc
    · exact Or.inl (hdigits c (List.mem_of_mem_take hc))
    · rcases List.mem_cons.mp hc with rfl | hc
      · exact Or.inr rfl
      · exact Or.inl (hdigits c (List.mem_of_mem_drop hc))

/-- There is no exponent, nor anything else but digits and a point. -/
theorem plainDigits_chars (coefficient : Nat) (exponent : Int) :
    ∀ c ∈ plainDigits coefficient exponent, c.isDigit = true ∨ c = '.' := by
  unfold plainDigits
  split
  next => exact withPoint_chars _ _
  next =>
    split
    next => exact fun c hc => Or.inl (List.mem_singleton.mp hc ▸ rfl)
    next => exact fun c hc => Or.inl (isDigit_append_zeros _ _ c hc)

/-- The characters that numbers are written with. -/
theorem plain_chars (negative : Bool) (coefficient : Nat) (exponent : Int) :
    ∀ c ∈ (finite negative coefficient exponent).plain, c.isDigit = true ∨ c = '-' ∨ c = '.' := by
  intro c hc
  rcases List.mem_append.mp hc with hc | hc
  · cases negative with
    | true => exact Or.inr (Or.inl (List.mem_singleton.mp hc))
    | false => cases hc
  · exact (plainDigits_chars coefficient exponent c hc).imp_right Or.inr

theorem readPlain?_plain (negative : Bool) (coefficient : Nat) (exponent : Int) :
    readPlain? (finite negative coefficient exponent).plain =
      some (signed negative (coefficient * 10 ^ exponent)) := by
  obtain ⟨read, hread, hworth⟩ := readDigits?_plainDigits coefficient exponent
  cases negative with
  | true =>
    change (readDigits? (plainDigits coefficient exponent)).map (fun read => -worth read) = _
    rw [hread, Option.map_some, hworth]
    rfl
  | false =>
    change readPlain? (plainDigits coefficient exponent) = _
    rw [readPlain?, hread, Option.map_some, hworth]
    · rfl
    · intro digits hminus
      have hsign := plainDigits_chars coefficient exponent '-' (hminus ▸ List.mem_cons_self)
      exact absurd hsign (by decide)

end digits

end LookupEnums.Decimal
