import LookupEnums.Text.Digits
import Mathlib.Algebra.Group.Nat.Defs

/-! # Decimal digits read back

The digits of a number make that number again, so no two numbers have the same digits.
-/
namespace LookupEnums.Text

/-- What the digits of a text are worth, the highest first. -/
def digitValues (s : List Char) : List Nat :=
  s.filterMap digitValue?

section digits
variable {s : List Char} {n m : Nat}

theorem isDigit_decimalDigits (n : Nat) : ∀ c ∈ decimalDigits n, c.isDigit = true :=
  fun _ hc => Nat.isDigit_of_mem_toDigits (by decide) (by decide) hc

theorem decimalDigits_ne_nil (n : Nat) : decimalDigits n ≠ [] :=
  Nat.toDigits_ne_nil

theorem digitValue?_eq_some {c : Char} (hc : c.isDigit = true) :
    digitValue? c = some (c.toNat - '0'.toNat) := by
  rw [digitValue?, if_pos hc]

theorem digitValues_cons {c : Char} (hc : c.isDigit = true) (s : List Char) :
    digitValues (c :: s) = (c.toNat - '0'.toNat) :: digitValues s := by
  rw [digitValues, List.filterMap_cons, digitValue?_eq_some hc]
  rfl

theorem digitValues_lt (hs : ∀ c ∈ s, c.isDigit = true) : ∀ d ∈ digitValues s, d < 10 := by
  intro d hd
  obtain ⟨c, hc, hvalue⟩ := List.mem_filterMap.mp hd
  rw [digitValue?_eq_some (hs c hc)] at hvalue
  have hlast : c.toNat ≤ '9'.toNat := (Char.isDigit_iff_toNat.mp (hs c hc)).2
  have hnine : '9'.toNat = 57 := rfl
  have hzero : '0'.toNat = 48 := rfl
  have hd : c.toNat - '0'.toNat = d := Option.some.inj hvalue
  omega

theorem ofDigits_digitValues (hs : ∀ c ∈ s, c.isDigit = true) :
    ofDigits 10 (digitValues s) = Nat.ofDigitChars 10 s 0 := by
  unfold ofDigits
  generalize 0 = start
  induction s generalizing start with
  | nil => rw [Nat.ofDigitChars_nil]; rfl
  | cons c s ih =>
    rw [List.forall_mem_cons] at hs
    rw [digitValues_cons hs.1, List.foldl_cons, ih hs.2, Nat.ofDigitChars_cons, Nat.mul_comm]

theorem ofDigits_decimalDigits (n : Nat) : ofDigits 10 (digitValues (decimalDigits n)) = n := by
  rw [ofDigits_digitValues (isDigit_decimalDigits n)]
  exact Nat.ofDigitChars_ten_toDigits

theorem decimalDigits_injective (h : decimalDigits m = decimalDigits n) : m = n := by
  rw [← ofDigits_decimalDigits m, h, ofDigits_decimalDigits]

end digits

section base
variable {base width : Nat} {value? : Char → Option Nat} {s : List Char} {ds : List Nat}

theorem ofDigits_concat (base : Nat) (ds : List Nat) (d : Nat) :
    ofDigits base (ds ++ [d]) = ofDigits base ds * base + d := by
  rw [ofDigits, List.foldl_append]
  rfl

theorem ofDigits_zeros (base count : Nat) (ds : List Nat) :
    ofDigits base (List.replicate count 0 ++ ds) = ofDigits base ds := by
  induction count with
  | zero => rfl
  | succ count ih =>
    have hfirst : ofDigits base (0 :: (List.replicate count 0 ++ ds)) =
        ofDigits base (List.replicate count 0 ++ ds) := by
      rw [ofDigits, List.foldl_cons, Nat.zero_mul]
      rfl
    exact hfirst.trans ih

theorem ofDigits_append_zeros (base count : Nat) (ds : List Nat) :
    ofDigits base (ds ++ List.replicate count 0) = ofDigits base ds * base ^ count := by
  induction count with
  | zero => simp
  | succ count ih =>
    rw [List.replicate_succ', ← List.append_assoc, ofDigits_concat, ih, Nat.pow_succ, Nat.mul_assoc,
      Nat.add_zero]

/-- The digits of a number in a base have values, and the number is what these make. -/
theorem exists_values_toDigits (hbase : 1 < base)
    (hvalue : ∀ d < base, value? (Nat.digitChar d) = some d) (n : Nat) :
    ∃ ds, (Nat.toDigits base n).mapM value? = some ds ∧ ofDigits base ds = n := by
  induction n using Nat.strongRecOn with
  | ind n ih =>
    by_cases hn : n < base
    · refine ⟨[n], by simp [Nat.toDigits_of_lt_base hn, hvalue n hn], ?_⟩
      rw [← List.nil_append [n], ofDigits_concat, ofDigits, List.foldl_nil, Nat.zero_mul, Nat.zero_add]
    · have hle : base ≤ n := Nat.le_of_not_lt hn
      have hpos : 0 < n := Nat.lt_of_lt_of_le (Nat.lt_trans Nat.one_pos hbase) hle
      obtain ⟨ds, hds, hmake⟩ := ih (n / base) (Nat.div_lt_self hpos hbase)
      have hlast := hvalue (n % base) (Nat.mod_lt n (Nat.lt_trans Nat.one_pos hbase))
      refine ⟨ds ++ [n % base], ?_, ?_⟩
      · simp [Nat.toDigits_of_base_le hbase hle, List.mapM_append, hds, hlast]
      · rw [ofDigits_concat, hmake, Nat.div_add_mod']

theorem mapM_zeros (hzero : value? '0' = some 0) (count : Nat) :
    (List.replicate count '0').mapM value? = some (List.replicate count 0) := by
  induction count with
  | zero => rfl
  | succ count ih => simp [List.replicate_succ, hzero, ih]

/-- Zeros in front change nothing. -/
theorem mapM_zeroPadded (base width : Nat) (hzero : value? '0' = some 0) (hs : s.mapM value? = some ds) :
    ∃ ds', (zeroPadded width s).mapM value? = some ds' ∧ ofDigits base ds' = ofDigits base ds := by
  refine ⟨List.replicate (width - s.length) 0 ++ ds, ?_, ofDigits_zeros base _ ds⟩
  simp [zeroPadded, List.mapM_append, mapM_zeros hzero, hs]

theorem zeroPadded_ne_nil (hs : s ≠ []) : zeroPadded width s ≠ [] :=
  fun h => hs (List.append_eq_nil_iff.mp h).2

theorem length_paddedHex {n : Nat} (hwidth : 0 < width) (hn : n < 16 ^ width) :
    (paddedHex width n).length = width := by
  have hlength := (Nat.length_toDigits_le_iff (by decide) hwidth).mpr hn
  rw [paddedHex, zeroPadded, List.length_append, List.length_replicate, Nat.sub_add_cancel hlength]

theorem digitValue?_digitChar : ∀ d < 10, digitValue? (Nat.digitChar d) = some d := by decide

theorem hexValue?_digitChar : ∀ d < 16, hexValue? (Nat.digitChar d) = some d := by decide

theorem readDecimal?_zeroPadded (width n : Nat) :
    readDecimal? (zeroPadded width (decimalDigits n)) = some n := by
  obtain ⟨ds, hds, hmake⟩ := exists_values_toDigits (by decide) digitValue?_digitChar n
  obtain ⟨ds', hds', hsame⟩ := mapM_zeroPadded 10 width rfl hds
  have hne : zeroPadded width (decimalDigits n) ≠ [] := zeroPadded_ne_nil (decimalDigits_ne_nil n)
  rw [readDecimal?, if_neg (by simpa using hne), decimalDigits, hds', Option.map_some, hsame, hmake]

theorem readDecimal?_decimalDigits (n : Nat) : readDecimal? (decimalDigits n) = some n := by
  simpa [zeroPadded] using readDecimal?_zeroPadded 0 n

/-- Zeros behind a number multiply it. -/
theorem readDecimal?_append_zeros (n count : Nat) :
    readDecimal? (decimalDigits n ++ List.replicate count '0') = some (n * 10 ^ count) := by
  obtain ⟨ds, hds, hmake⟩ := exists_values_toDigits (by decide) digitValue?_digitChar n
  have hall : (decimalDigits n ++ List.replicate count '0').mapM digitValue? =
      some (ds ++ List.replicate count 0) := by
    have hzeros := mapM_zeros (rfl : digitValue? '0' = some 0) count
    simp [decimalDigits, List.mapM_append, hds, hzeros]
  have hne : decimalDigits n ++ List.replicate count '0' ≠ [] :=
    List.append_ne_nil_of_left_ne_nil (decimalDigits_ne_nil n) _
  rw [readDecimal?, if_neg (by simpa using hne), hall, Option.map_some, ofDigits_append_zeros, hmake]

def readInt? : List Char → Option Int
  | '-' :: digits => (readDecimal? digits).map fun (n : Nat) => -(n : Int)
  | digits => (readDecimal? digits).map Int.ofNat

theorem head?_decimalDigits_ne (n : Nat) : (decimalDigits n).head? ≠ some '-' := by
  intro h
  have hdigit := isDigit_decimalDigits n '-' (List.mem_of_mem_head? h)
  cases hdigit

theorem readInt?_intDigits (i : Int) : readInt? (intDigits i) = some i := by
  unfold intDigits
  by_cases hnegative : i < 0
  · rw [if_pos hnegative, readInt?, readDecimal?_decimalDigits, Option.map_some,
      ← Int.eq_neg_natAbs_of_nonpos (Int.le_of_lt hnegative)]
  · have hnonneg : Int.ofNat i.natAbs = i := Int.natAbs_of_nonneg (Int.not_lt.mp hnegative)
    rw [if_neg hnegative, readInt?, readDecimal?_decimalDigits, Option.map_some, hnonneg]
    intro digits hminus
    exact head?_decimalDigits_ne i.natAbs (by rw [hminus]; rfl)

/-- Hexadecimal digits are read in whatever way they are written. -/
theorem readHex?_map_paddedHex {write : Char → Char}
    (hwrite : ∀ d < 16, hexValue? (write (Nat.digitChar d)) = some d) (width n : Nat) :
    readHex? ((paddedHex width n).map write) = some n := by
  obtain ⟨ds, hds, hmake⟩ : ∃ ds, (Nat.toDigits 16 n).mapM (fun c => hexValue? (write c)) = some ds ∧
      ofDigits 16 ds = n := exists_values_toDigits (by decide) hwrite n
  obtain ⟨ds', hds', hsame⟩ := mapM_zeroPadded 16 width (hwrite 0 (by decide)) hds
  have hne : (paddedHex width n).map write ≠ [] :=
    fun hnil => zeroPadded_ne_nil Nat.toDigits_ne_nil (List.map_eq_nil_iff.mp hnil)
  have hall : ((paddedHex width n).map write).mapM hexValue? = some ds' := by
    rw [List.mapM_map]
    exact hds'
  rw [readHex?, if_neg (by simpa using hne), hall, Option.map_some, hsame, hmake]

theorem readHex?_paddedHex (width n : Nat) : readHex? (paddedHex width n) = some n := by
  have hread : readHex? ((paddedHex width n).map id) = some n :=
    readHex?_map_paddedHex hexValue?_digitChar width n
  rwa [List.map_id] at hread

theorem readHex?_upperHexByte (b : UInt8) : readHex? (upperHexByte b) = some b.toNat :=
  readHex?_map_paddedHex (by decide) 2 b.toNat

theorem isSome_hexValue? {n : Nat} (h : readHex? s = some n) : ∀ c ∈ s, (hexValue? c).isSome := by
  intro c hc
  have hall : ∃ ds, s.mapM hexValue? = some ds := by
    unfold readHex? at h
    split at h
    next => cases h
    next => exact (Option.map_eq_some_iff.mp h).imp fun _ hds => hds.1
  obtain ⟨ds, hds⟩ := hall
  clear h
  induction s generalizing ds with
  | nil => cases hc
  | cons d s ih =>
    simp only [List.mapM_cons, Option.bind_eq_bind, Option.bind_eq_some_iff] at hds
    obtain ⟨value, hvalue, rest, hrest, -⟩ := hds
    rcases List.mem_cons.mp hc with rfl | hc
    · exact Option.isSome_iff_exists.mpr ⟨value, hvalue⟩
    · exact ih hc rest hrest

end base

end LookupEnums.Text
