import LookupEnums.Proofs.Value.Key
import Mathlib.NumberTheory.Padics.PadicVal.Basic

/-! # Keys that are numbers

The exact form of a number is that of its rational value and of no other. So numbers of whatever kind
are the same key exactly where their values are equal, and they are the same key as nothing else.
-/
namespace LookupEnums

def signed (negative : Bool) (q : ℚ) : ℚ :=
  if negative then -q else q

@[simp] theorem signed_zero (negative : Bool) : signed negative 0 = 0 := by
  cases negative <;> simp [signed]

theorem signed_inj {n m : Bool} {q r : ℚ} (hq : 0 < q) (hr : 0 < r) (h : signed n q = signed m r) :
    n = m ∧ q = r := by
  cases n <;> cases m <;> simp only [signed, if_true, if_false, Bool.false_eq_true] at h
  · exact ⟨rfl, h⟩
  · linarith
  · linarith
  · exact ⟨rfl, neg_inj.mp h⟩

namespace Exact

section strip
variable {p fuel n : Nat}

theorem strip_product (p fuel n : Nat) : p ^ (strip p fuel n).1 * (strip p fuel n).2 = n := by
  induction fuel generalizing n with
  | zero => simp [strip]
  | succ fuel ih =>
    unfold strip
    split
    next hdivides =>
      have hrest := ih (n / p)
      simp only [Nat.pow_succ', Nat.mul_assoc, hrest]
      exact Nat.mul_div_cancel' (Nat.dvd_of_mod_eq_zero hdivides)
    next => simp

/-- With enough fuel all is stripped. -/
theorem strip_rest (hp : 1 < p) (hn : n ≠ 0) (hfuel : n < p ^ fuel) :
    (strip p fuel n).2 % p ≠ 0 := by
  induction fuel generalizing n with
  | zero =>
    rw [Nat.pow_zero] at hfuel
    omega
  | succ fuel ih =>
    unfold strip
    split
    next hdivides =>
      have hsome : n / p ≠ 0 := by
        have hle := Nat.le_of_dvd (Nat.pos_of_ne_zero hn) (Nat.dvd_of_mod_eq_zero hdivides)
        exact Nat.ne_of_gt (Nat.div_pos hle (by omega))
      exact ih hsome (Nat.div_lt_of_lt_mul (by rwa [← Nat.pow_succ']))
    next hnot => exact hnot

theorem lt_pow_log2 (hp : 1 < p) (n : Nat) : n < p ^ (n.log2 + 1) :=
  Nat.lt_of_lt_of_le Nat.lt_log2_self (Nat.pow_le_pow_left hp _)

end strip

def magnitude (x : Exact) : ℚ :=
  x.core * 2 ^ x.twos * 5 ^ x.fives

def value (x : Exact) : ℚ :=
  signed x.negative x.magnitude

/-- Zero, or with a core that neither two nor five divides. -/
def IsNormal (x : Exact) : Prop :=
  x = ⟨false, 0, 0, 0⟩ ∨ x.core % 2 ≠ 0 ∧ x.core % 5 ≠ 0

section make
variable {negative : Bool} {n : Nat} {twos fives : Int}

/-- The form of a number that is not zero. -/
theorem make_eq (hn : n ≠ 0) (negative : Bool) (twos fives : Int) : ∃ a b core : Nat,
    2 ^ a * (5 ^ b * core) = n ∧ core % 2 ≠ 0 ∧ core % 5 ≠ 0 ∧
      make negative n twos fives = ⟨negative, core, twos + a, fives + b⟩ := by
  have hodd := strip_rest Nat.one_lt_two hn (lt_pow_log2 Nat.one_lt_two n)
  have htwos := strip_product 2 (n.log2 + 1) n
  unfold make
  rw [if_neg hn]
  generalize strip 2 (n.log2 + 1) n = s at htwos hodd
  obtain ⟨a, k⟩ := s
  have hk : k ≠ 0 := by
    rintro rfl
    exact hodd rfl
  have hfive : (1 : Nat) < 5 := by decide
  have hrest := strip_rest hfive hk (lt_pow_log2 hfive k)
  have hfives := strip_product 5 (k.log2 + 1) k
  dsimp only
  generalize strip 5 (k.log2 + 1) k = s at hrest hfives
  obtain ⟨b, core⟩ := s
  refine ⟨a, b, core, by rw [hfives]; exact htwos, ?_, hrest, rfl⟩
  -- what is left after the fives divides what was left after the twos
  intro hcore
  refine hodd (Nat.mod_eq_zero_of_dvd ?_)
  have hdvd := Dvd.dvd.mul_left (Nat.dvd_of_mod_eq_zero hcore) (5 ^ b)
  rwa [hfives] at hdvd

theorem isNormal_make : (make negative n twos fives).IsNormal := by
  by_cases hn : n = 0
  · left
    rw [make, if_pos hn]
  · obtain ⟨a, b, core, -, htwo, hfive, hform⟩ := make_eq hn negative twos fives
    rw [hform]
    exact .inr ⟨htwo, hfive⟩

theorem value_make :
    (make negative n twos fives).value = signed negative (n * 2 ^ twos * 5 ^ fives) := by
  by_cases hn : n = 0
  · simp [make, hn, value, magnitude]
  · obtain ⟨a, b, core, hproduct, -, -, hform⟩ := make_eq hn negative twos fives
    have htwo : (2 : ℚ) ≠ 0 := by norm_num
    have hfive : (5 : ℚ) ≠ 0 := by norm_num
    rw [hform, value, magnitude, ← hproduct, zpow_add₀ htwo, zpow_add₀ hfive, zpow_natCast, zpow_natCast]
    push_cast
    congr 1
    ring

theorem value_ofInt (i : Int) : (ofInt i).value = i := by
  rw [ofInt, value_make, zpow_zero, zpow_zero, mul_one, mul_one, signed]
  by_cases hnegative : i < 0
  · have habs : ((i.natAbs : Nat) : Int) = -i := Int.ofNat_natAbs_of_nonpos (Int.le_of_lt hnegative)
    have hcast : ((i.natAbs : Nat) : ℚ) = -(i : ℚ) := by
      rw [← Int.cast_natCast, habs, Int.cast_neg]
    simp [hnegative, hcast]
  · have habs : ((i.natAbs : Nat) : Int) = i := Int.natAbs_of_nonneg (Int.not_lt.mp hnegative)
    have hcast : ((i.natAbs : Nat) : ℚ) = (i : ℚ) := by
      rw [← Int.cast_natCast, habs]
    simp [hnegative, hcast]

end make

section injective
variable {x y : Exact}

theorem core_pos (h : x.core % 2 ≠ 0) : (0 : ℚ) < x.core := by
  have hpos : 0 < x.core := Nat.pos_of_ne_zero fun hzero => h (by rw [hzero])
  exact_mod_cast hpos

theorem magnitude_pos (h : x.core % 2 ≠ 0) : 0 < x.magnitude := by
  have hcore := core_pos h
  have htwo : (0 : ℚ) < 2 ^ x.twos := zpow_pos (by norm_num) _
  have hfive : (0 : ℚ) < 5 ^ x.fives := zpow_pos (by norm_num) _
  exact mul_pos (mul_pos hcore htwo) hfive

/-- How often a prime is a factor of a magnitude. -/
theorem padicValRat_magnitude (p : ℕ) [Fact p.Prime] (htwo : x.core % 2 ≠ 0) :
    padicValRat p x.magnitude =
      padicValNat p x.core + x.twos * padicValNat p 2 + x.fives * padicValNat p 5 := by
  have hcore := (core_pos htwo).ne'
  have htwos : (2 : ℚ) ^ x.twos ≠ 0 := zpow_ne_zero _ (by norm_num)
  have hfives : (5 : ℚ) ^ x.fives ≠ 0 := zpow_ne_zero _ (by norm_num)
  have hval : ∀ n : ℕ, padicValRat p (n : ℚ) = padicValNat p n := fun n => padicValRat.of_nat
  rw [magnitude, padicValRat.mul (mul_ne_zero hcore htwos) hfives, padicValRat.mul hcore htwos,
    padicValRat.zpow, padicValRat.zpow, hval]
  exact_mod_cast congrArg₂ (fun a b => (padicValNat p x.core : ℤ) + x.twos * a + x.fives * b)
    (hval 2) (hval 5)

theorem padicValNat_core {p : ℕ} (h : x.core % p ≠ 0) : padicValNat p x.core = 0 :=
  padicValNat.eq_zero_of_not_dvd fun hdvd => h (Nat.mod_eq_zero_of_dvd hdvd)

theorem twos_eq (h : x.core % 2 ≠ 0) : padicValRat 2 x.magnitude = x.twos := by
  have hself : padicValNat 2 2 = 1 := padicValNat_self
  have hother : padicValNat 2 5 = 0 := padicValNat.eq_zero_of_not_dvd (by decide)
  rw [padicValRat_magnitude 2 h, padicValNat_core h, hself, hother]
  simp

theorem fives_eq (htwo : x.core % 2 ≠ 0) (hfive : x.core % 5 ≠ 0) :
    padicValRat 5 x.magnitude = x.fives := by
  have : Fact (Nat.Prime 5) := ⟨by decide⟩
  have hself : padicValNat 5 5 = 1 := padicValNat_self
  have hother : padicValNat 5 2 = 0 := padicValNat.eq_zero_of_not_dvd (by decide)
  rw [padicValRat_magnitude 5 htwo, padicValNat_core hfive, hself, hother]
  simp

theorem value_ne_zero (h : x.core % 2 ≠ 0) : x.value ≠ 0 := by
  have hpos := magnitude_pos h
  unfold value signed
  split
  · exact neg_ne_zero.mpr hpos.ne'
  · exact hpos.ne'

/-- A rational number has one normal form at most. -/
theorem eq_of_value_eq (hx : x.IsNormal) (hy : y.IsNormal) (h : x.value = y.value) : x = y := by
  have hzero : (⟨false, 0, 0, 0⟩ : Exact).value = 0 := by simp [value, magnitude]
  rcases hx with rfl | ⟨hxtwo, hxfive⟩
  · rcases hy with rfl | ⟨hytwo, -⟩
    · rfl
    · exact absurd (h.symm.trans hzero) (value_ne_zero hytwo)
  · rcases hy with rfl | ⟨hytwo, hyfive⟩
    · exact absurd (h.trans hzero) (value_ne_zero hxtwo)
    · obtain ⟨hsign, hmagnitude⟩ := signed_inj (magnitude_pos hxtwo) (magnitude_pos hytwo) h
      have htwos : x.twos = y.twos := by rw [← twos_eq hxtwo, hmagnitude, twos_eq hytwo]
      have hfives : x.fives = y.fives := by
        rw [← fives_eq hxtwo hxfive, hmagnitude, fives_eq hytwo hyfive]
      have hcore : (x.core : ℚ) = y.core := by
        have hpowers : (2 : ℚ) ^ y.twos * 5 ^ y.fives ≠ 0 :=
          mul_ne_zero (zpow_ne_zero _ (by norm_num)) (zpow_ne_zero _ (by norm_num))
        rw [magnitude, magnitude, htwos, hfives, mul_assoc, mul_assoc] at hmagnitude
        exact mul_right_cancel₀ hpowers hmagnitude
      obtain ⟨negative, core, twos, fives⟩ := x
      obtain ⟨negative', core', twos', fives'⟩ := y
      simp only at hsign htwos hfives hcore
      rw [hsign, htwos, hfives, Nat.cast_injective hcore]

end injective

end Exact

inductive Numeric
  | rational (q : ℚ)
  | infinite (negative : Bool)

namespace NumberForm

def numeric : NumberForm → Numeric
  | exact x => .rational x.value
  | infinite negative => .infinite negative

def IsNormal : NumberForm → Prop
  | exact x => x.IsNormal
  | infinite _ => True

theorem eq_of_numeric_eq {f g : NumberForm} (hf : f.IsNormal) (hg : g.IsNormal)
    (h : f.numeric = g.numeric) : f = g := by
  cases f with
  | exact x =>
    cases g with
    | exact y =>
      have hvalue : x.value = y.value := Numeric.rational.inj h
      rw [Exact.eq_of_value_eq hf hg hvalue]
    | infinite n => cases h
  | infinite n =>
    cases g with
    | exact y => cases h
    | infinite m => rw [Numeric.infinite.inj h]

end NumberForm

namespace Value

/-- What a value is worth as a number. A truth value counts as one or zero, and a not-a-number is
worth nothing. -/
def numeric? : Value → Option Numeric
  | bool b => some (.rational (if b then 1 else 0))
  | int i => some (.rational i)
  | float (.finite negative m e) _ => some (.rational (signed negative (m * 2 ^ e)))
  | float (.infinite negative) _ => some (.infinite negative)
  | decimal (.finite negative c e) _ => some (.rational (signed negative (c * 10 ^ e)))
  | decimal (.infinite negative) _ => some (.infinite negative)
  | _ => none

def IsNaN : Value → Prop
  | float .nan _ | decimal (.nan _ _ _) _ => True
  | _ => False

/-- A number is worth what its form is worth, and its form is a normal one. -/
theorem numeric?_eq (v : Value) : v.numeric? = v.numberForm?.map NumberForm.numeric := by
  unfold numberForm?
  cases v with
  | bool b => cases b <;> simp [numeric?, exactNumber?, NumberForm.numeric, Exact.value_ofInt]
  | int i => simp [numeric?, exactNumber?, NumberForm.numeric, Exact.value_ofInt]
  | float x _ =>
    cases x <;> simp [numeric?, exactNumber?, infinite?, Exact.ofBinary64?, NumberForm.numeric, Exact.value_make]
  | decimal d _ =>
    cases d with
    | finite negative c e =>
      have hten : (10 : ℚ) = 2 * 5 := by norm_num
      simp only [numeric?, exactNumber?, Exact.ofDecimal?, NumberForm.numeric, Exact.value_make,
        Option.map_some, hten, mul_zpow, mul_assoc]
    | infinite negative => rfl
    | nan negative signaling payload => rfl
  | _ => rfl

theorem isNormal_of_exactNumber? {v : Value} {x : Exact} (h : v.exactNumber? = some x) :
    x.IsNormal := by
  cases v with
  | bool b =>
    cases h
    exact Exact.isNormal_make
  | int i =>
    cases h
    exact Exact.isNormal_make
  | float y _ =>
    cases y with
    | finite negative m e =>
      cases h
      exact Exact.isNormal_make
    | _ => cases h
  | decimal d _ =>
    cases d with
    | finite negative c e =>
      cases h
      exact Exact.isNormal_make
    | _ => cases h
  | _ => cases h

theorem isNormal_of_numberForm? {v : Value} {f : NumberForm} (h : v.numberForm? = some f) :
    f.IsNormal := by
  unfold numberForm? at h
  cases hexact : v.exactNumber? with
  | some x =>
    rw [hexact] at h
    cases h
    exact isNormal_of_exactNumber? hexact
  | none =>
    rw [hexact] at h
    obtain ⟨negative, -, rfl⟩ := Option.map_eq_some_iff.mp h
    trivial

theorem keyForm?_eq_number {v : Value} {f : NumberForm} :
    v.keyForm? = some (.number f) ↔ v.numberForm? = some f := by
  cases v <;> simp [keyForm?, numberKey?, numberForm?, exactNumber?, infinite?, notANumber?]

/-- A number is the same key as the values that are worth the same. -/
theorem sameKey_iff_of_numeric {a b : Value} {x : Numeric} (h : a.numeric? = some x) :
    a.sameKey b = true ↔ b.numeric? = some x := by
  rw [numeric?_eq] at h
  obtain ⟨f, hform, rfl⟩ := Option.map_eq_some_iff.mp h
  rw [sameKey_iff, keyForm?_eq_number.mpr hform, numeric?_eq, Option.map_eq_some_iff]
  constructor
  · rintro ⟨k, hb, hk⟩
    obtain rfl := Option.some.inj hk
    exact ⟨f, keyForm?_eq_number.mp hb, rfl⟩
  · rintro ⟨g, hg, hworth⟩
    obtain rfl := NumberForm.eq_of_numeric_eq (isNormal_of_numberForm? hg)
      (isNormal_of_numberForm? hform) hworth
    exact ⟨.number g, keyForm?_eq_number.mpr hg, rfl⟩

theorem sameKey_null {v : Value} : null.sameKey v = true ↔ v = null := by
  rw [sameKey_iff]
  cases v <;> simp [keyForm?, numberKey?]

theorem isNaN_iff {v : Value} : v.IsNaN ↔ ∃ x, v.notANumber? = some x := by
  cases v with
  | float x _ => cases x <;> simp [IsNaN, notANumber?]
  | decimal d _ => cases d <;> simp [IsNaN, notANumber?]
  | _ => simp [IsNaN, notANumber?]

theorem keyForm?_eq_object {v : Value} {x : Option Decimal × Nat} :
    v.keyForm? = some (.object x) ↔ v.notANumber? = some x := by
  cases v with
  | float y _ =>
    cases y <;>
      simp [keyForm?, numberKey?, numberForm?, exactNumber?, Exact.ofBinary64?, infinite?, notANumber?]
  | decimal d _ =>
    cases d <;>
      simp [keyForm?, numberKey?, numberForm?, exactNumber?, Exact.ofDecimal?, infinite?, notANumber?]
  | _ => simp [keyForm?, numberKey?, numberForm?, exactNumber?, infinite?, notANumber?]

theorem eq_of_notANumber? {a b : Value} {x : Option Decimal × Nat} (ha : a.notANumber? = some x)
    (hb : b.notANumber? = some x) : a = b := by
  unfold notANumber? at ha hb
  split at ha <;> split at hb <;> cases ha <;> cases hb <;> rfl

/-- A not-a-number is the same key as nothing but itself. -/
theorem sameKey_iff_of_isNaN {a b : Value} (h : a.IsNaN) : a.sameKey b = true ↔ b = a := by
  obtain ⟨x, ha⟩ := isNaN_iff.mp h
  rw [sameKey_iff, keyForm?_eq_object.mpr ha]
  constructor
  · rintro ⟨k, hb, hk⟩
    obtain rfl := Option.some.inj hk
    exact eq_of_notANumber? (keyForm?_eq_object.mp hb) ha
  · rintro rfl
    exact ⟨.object x, keyForm?_eq_object.mpr ha, rfl⟩

end Value

end LookupEnums
