import Craftbook.Proofs.Binary64.Nearest
import Mathlib.Algebra.Order.Field.Rat
import Mathlib.Data.Nat.Prime.Basic
import Mathlib.Tactic.FieldSimp
import Mathlib.Tactic.Positivity

/-!
Numbers as rationals. Main statements: the rounded reciprocal of a word is the only number nearest
to the exact one, a rounded quotient and a rounded difference are close to the exact ones, and of
two numbers the closer one to a third meets every tolerance that the other meets.
-/
namespace Craftbook

namespace Rounding

/-- The exact error of a rounded quotient. -/
theorem Near.error_le {n num den one : Nat} (pos : 0 < den) (unit : 0 < one)
    (near : Near n (num * one) den) :
    |(num : ℚ) / den - n / one| ≤ 1 / 2 ^ 53 * (num / den) := by
  have posden : (0 : ℚ) < den := by exact_mod_cast pos
  have posone : (0 : ℚ) < one := by exact_mod_cast unit
  have upper : (n : ℚ) * den * 2 ^ 53 ≤ num * one * 2 ^ 53 + num * one := by
    exact_mod_cast near.upper
  have lower : (num : ℚ) * one * 2 ^ 53 ≤ n * den * 2 ^ 53 + num * one := by
    exact_mod_cast near.lower
  rw [abs_le, div_sub_div _ _ posden.ne' posone.ne', le_div_iff₀ (by positivity),
    div_le_iff₀ (by positivity)]
  have scale : 1 / 2 ^ 53 * ((num : ℚ) / den) * (den * one) = num * one / 2 ^ 53 := by
    field_simp
  constructor
  · rw [neg_mul, scale]
    linarith
  · rw [scale]
    linarith

/-- A divisor of a power of two divides a smaller one without a rest. -/
theorem toShort_pow_of_dvd {divisor places : Nat} (pos : 0 < divisor) (fits : divisor ≤ 2 ^ places)
    (divides : divisor ∣ 2 * 2 ^ places) : toShort (2 ^ places) divisor * divisor = 2 ^ places := by
  rw [← Nat.pow_succ'] at divides
  obtain ⟨k, -, rfl⟩ := (Nat.dvd_prime_pow Nat.prime_two).1 divides
  have few : k ≤ places := (Nat.pow_le_pow_iff_right (by decide)).1 fits
  have split : 2 ^ places = 2 ^ (places - k) * 2 ^ k := by
    rw [← Nat.pow_add, Nat.sub_add_cancel few]
  rw [split, toShort_of_short pos (short_two_pow _)]

end Rounding

namespace Binary64
open Rounding

theorem eq_of_signedUnits {x : Binary64} {m : Nat} {h : Representable m} (positive : 0 < m)
    (bounded : x.isFinite) (units : x.signedUnits = m) : x = finite false m h := by
  cases x with
  | nan => cases bounded
  | infinite negative => cases bounded
  | finite negative n _ =>
    simp only [signedUnits, signed] at units
    cases negative with
    | true =>
      simp only [if_true] at units
      omega
    | false =>
      simp only [Bool.false_eq_true, if_false, Nat.cast_inj] at units
      subst units
      rfl

theorem signedUnits_finite {m : Nat} {h : Representable m} :
    (finite false m h).signedUnits = m := rfl

/-- What a finite number is worth. -/
def value (x : Binary64) : ℚ := x.signedUnits / oneUnits

/-- A finite number such that none is nearer to a rational one. -/
structure Closest (exact : ℚ) (x : Binary64) : Prop where
  finite : x.isFinite
  closest : ∀ y : Binary64, y.isFinite → |exact - x.value| ≤ |exact - y.value|

theorem nearestWhole_whole (n : Nat) : nearestWhole (n * oneUnits) = n := by
  have pos := oneUnits_pos
  rw [nearestWhole_eq_iff]
  omega

theorem one_lt_iff {m : Nat} {h : Representable m} : 1 < finite false m h ↔ oneUnits < m := by
  obtain ⟨_, one⟩ := one_eq
  rw [one, lt_iff]

theorem le_iff {m n : Nat} {hm : Representable m} {hn : Representable n} :
    finite false m hm ≤ finite false n hn ↔ m ≤ n :=
  decide_eq_true_iff.trans Int.ofNat_le

theorem one_le_iff {m : Nat} {h : Representable m} : 1 ≤ finite false m h ↔ oneUnits ≤ m := by
  obtain ⟨_, one⟩ := one_eq
  rw [one, le_iff]

theorem oneUnits_short : Short oneUnits := by
  rw [← Nat.one_mul oneUnits]
  exact units_short (by decide)

theorem oneUnits_rat_pos : (0 : ℚ) < oneUnits := by exact_mod_cast oneUnits_pos

theorem oneUnits_eq {places : Nat} (few : places ≤ unitPlaces) :
    oneUnits = 2 ^ places * 2 ^ (unitPlaces - places) := by
  unfold oneUnits
  generalize unitPlaces = whole at few ⊢
  rw [Nat.pow_eq, ← Nat.pow_add, Nat.add_sub_cancel' few]

theorem two_pow_value {places : Nat} (few : places ≤ unitPlaces) :
    ((2 ^ (unitPlaces - places) : Nat) : ℚ) / oneUnits = 1 / 2 ^ places := by
  have weight : (0 : ℚ) < (2 ^ (unitPlaces - places) : Nat) := by
    exact_mod_cast Nat.two_pow_pos _
  rw [oneUnits_eq few, Nat.cast_mul, div_mul_cancel_right₀ weight.ne', Nat.cast_pow, Nat.cast_ofNat,
    one_div]

theorem value_finite {m : Nat} {h : Representable m} :
    (finite false m h).value = (m : ℚ) / oneUnits := by
  rw [value, signedUnits_finite, Int.cast_natCast]

theorem le_iff_value {n : Nat} {h : Representable n} {x : Binary64} (bounded : x.isFinite) :
    finite false n h ≤ x ↔ (n : ℚ) / oneUnits ≤ x.value := by
  have order : finite false n h ≤ x ↔ (n : Int) ≤ x.signedUnits := by
    cases x with
    | nan => cases bounded
    | infinite negative => cases bounded
    | finite negative m hm => exact decide_eq_true_iff
  rw [order, value, div_le_div_iff_of_pos_right oneUnits_rat_pos]
  exact_mod_cast Iff.rfl

/-- A number that is not negative has the value of its magnitude, for the two zeros are one. -/
theorem value_of_nonneg {x : Binary64} (nonneg : 0 ≤ x) : x.value = (x.units : ℚ) / oneUnits := by
  obtain ⟨_, zero⟩ := zero_eq
  rw [zero] at nonneg
  cases x with
  | nan => simp only [value, signedUnits, units, Int.cast_zero, Nat.cast_zero]
  | infinite negative => simp only [value, signedUnits, units, Int.cast_zero, Nat.cast_zero]
  | finite negative m h =>
    cases negative with
    | false => exact value_finite
    | true =>
      have signs : signed false 0 ≤ signed true m := of_decide_eq_true nonneg
      obtain rfl : m = 0 := by
        simp only [signed, if_true] at signs
        omega
      simp only [value, signedUnits, signed, if_true, units, Nat.cast_zero, Int.neg_zero,
        Int.cast_zero]

/-- The exact distance of two magnitudes whose rounded distance meets a tolerance. -/
theorem value_sub_le {m n : Nat} {hm : Representable m} {hn : Representable n}
    {tolerance : Binary64} (bounded : tolerance.isFinite) (nonneg : 0 ≤ tolerance)
    (h : (finite false m hm - finite false n hn).abs ≤ tolerance) :
    |(m : ℚ) / oneUnits - n / oneUnits| ≤ tolerance.value * (1 + 1 / 2 ^ 52) := by
  have posone := oneUnits_rat_pos
  have distance : ((m : Int) - n).natAbs * 2 ^ 52 ≤ tolerance.units * (2 ^ 52 + 1) := by
    have rounded := sub_abs_le bounded h
    linarith
  have rational : |(m : ℚ) - n| * 2 ^ 52 ≤ tolerance.units * (2 ^ 52 + 1) := by
    have magnitude : (((m : Int) - n).natAbs : ℚ) = |(m : ℚ) - n| := by
      rw [Nat.cast_natAbs]
      push_cast
      rfl
    rw [← magnitude]
    exact_mod_cast distance
  rw [value_of_nonneg nonneg, ← sub_div, abs_div, abs_of_pos posone, div_mul_eq_mul_div,
    div_le_div_iff_of_pos_right posone]
  linarith

/-- A tolerance that a distance meets is not below a number that the exact distance reaches. -/
theorem le_value_of_distance {a m n : Nat} {ha : Representable a} {hm : Representable m}
    {tolerance : Binary64} (bounded : tolerance.isFinite) (short : Short n)
    (far : n ≤ ((a : Int) - m).natAbs)
    (h : (finite false a ha - finite false m hm).abs ≤ tolerance) :
    (n : ℚ) / oneUnits ≤ tolerance.value := by
  obtain ⟨_, distance⟩ := sub_abs_eq ha hm
  rw [distance, le_iff_value bounded] at h
  refine le_trans (div_le_div_of_nonneg_right ?_ oneUnits_rat_pos.le) h
  rw [Nat.cast_le]
  apply le_toShort Nat.one_pos short
  rwa [Nat.mul_one]

/-- A distance that is a number itself is compared exactly. -/
theorem sub_abs_le_iff_value {a m n : Nat} {ha : Representable a} {hm : Representable m}
    {tolerance : Binary64} (bounded : tolerance.isFinite) (short : Short n)
    (distance : ((a : Int) - m).natAbs = n) :
    (finite false a ha - finite false m hm).abs ≤ tolerance ↔
      (n : ℚ) / oneUnits ≤ tolerance.value := by
  obtain ⟨_, is⟩ := sub_abs_eq ha hm
  have exact : toShort ((a : Int) - m).natAbs 1 = n := by
    rw [distance]
    simpa only [Nat.mul_one] using toShort_of_short Nat.one_pos short
  rw [is, le_iff_value bounded, exact]

/-- Of two numbers, the one that is closer to a third meets each tolerance that the other meets. -/
theorem sub_abs_le_of_closer {a b m : Nat} {ha : Representable a} {hb : Representable b}
    {hm : Representable m} {tolerance : Binary64}
    (closer : ((a : Int) - m).natAbs ≤ ((b : Int) - m).natAbs)
    (h : (finite false b hb - finite false m hm).abs ≤ tolerance) :
    (finite false a ha - finite false m hm).abs ≤ tolerance := by
  obtain ⟨_, first⟩ := sub_abs_eq ha hm
  obtain ⟨_, second⟩ := sub_abs_eq hb hm
  rw [second] at h
  rw [first]
  have less := toShort_mono_num Nat.one_pos closer
  cases tolerance with
  | nan => cases h
  | infinite negative =>
    cases negative with
    | false => rfl
    | true => cases h
  | finite negative t ht =>
    have met : signed false (toShort ((b : Int) - m).natAbs 1) ≤ signed negative t :=
      of_decide_eq_true h
    exact decide_eq_true (Int.le_trans (Int.ofNat_le.2 less) met)

theorem reciprocal_eq {divisor : UInt32} (pos : 0 < divisor.toNat) :
    ∃ h, 1 / ofWord divisor = finite false (toShort oneUnits divisor.toNat) h := by
  obtain ⟨h, is⟩ := div_ofWord (a := 1) pos
  simp only [UInt32.toNat_one, Nat.one_mul] at is
  exact ⟨_, is⟩

/-- The distance of a number to a reciprocal, in units. -/
theorem reciprocal_distance {divisor : Nat} (pos : 0 < divisor) (x : Binary64) :
    |1 / (divisor : ℚ) - x.value| =
      ((oneUnits : Int) - divisor * x.signedUnits).natAbs / (divisor * oneUnits) := by
  have posdiv : (0 : ℚ) < divisor := by exact_mod_cast pos
  have posone := oneUnits_rat_pos
  rw [value, div_sub_div _ _ posdiv.ne' posone.ne', abs_div, abs_of_pos (mul_pos posdiv posone),
    one_mul, Nat.cast_natAbs]
  push_cast
  rfl

theorem closest_reciprocal_iff {divisor : Nat} (pos : 0 < divisor) {x : Binary64} :
    Closest (1 / divisor) x ↔ x.isFinite ∧ ∀ y : Binary64, y.isFinite →
      ((oneUnits : Int) - divisor * x.signedUnits).natAbs ≤
        ((oneUnits : Int) - divisor * y.signedUnits).natAbs := by
  have scale : (0 : ℚ) < divisor * oneUnits := mul_pos (by exact_mod_cast pos) oneUnits_rat_pos
  have units (y : Binary64) : |1 / (divisor : ℚ) - x.value| ≤ |1 / (divisor : ℚ) - y.value| ↔
      ((oneUnits : Int) - divisor * x.signedUnits).natAbs ≤
        ((oneUnits : Int) - divisor * y.signedUnits).natAbs := by
    rw [reciprocal_distance pos, reciprocal_distance pos, div_le_div_iff_of_pos_right scale]
    exact Nat.cast_le
  constructor
  · intro closest
    exact ⟨closest.finite, fun y bounded => (units y).1 (closest.closest y bounded)⟩
  · intro h
    exact ⟨h.1, fun y bounded => (units y).2 (h.2 y bounded)⟩

theorem reciprocal_closest {divisor : UInt32} (pos : 0 < divisor.toNat) :
    Closest (1 / divisor.toNat) (1 / ofWord divisor) := by
  obtain ⟨h, is⟩ := reciprocal_eq pos
  rw [closest_reciprocal_iff pos, is]
  refine ⟨rfl, fun y bounded => ?_⟩
  cases y with
  | nan => cases bounded
  | infinite negative => cases bounded
  | finite negative m hm =>
    -- A number below zero is farther away than zero.
    have same := toShort_nearest oneUnits pos hm.2
    have zero := toShort_nearest oneUnits pos (short_of_le (Nat.zero_le _))
    rw [Nat.mul_comm, Nat.mul_comm m, Nat.cast_mul, Nat.cast_mul] at same
    rw [Nat.mul_comm, Nat.zero_mul, Nat.cast_mul] at zero
    rw [signedUnits_finite]
    cases negative with
    | false => exact same
    | true =>
      have below : divisor.toNat * (finite true m hm).signedUnits = -(divisor.toNat * m : Nat) := by
        rw [signedUnits, signed, if_pos rfl, Int.mul_neg, Nat.cast_mul]
      omega

/-- Two numbers that are equally near to a reciprocal lie around it, so that it would have few
digits, and then it is a number itself. -/
theorem reciprocal_of_around {divisor : UInt32} (pos : 0 < divisor.toNat) {a b : Int}
    (around : divisor.toNat * (a + b) = 2 * (oneUnits : Int)) :
    toShort oneUnits divisor.toNat * divisor.toNat = oneUnits := by
  have word : divisor.toNat ≤ oneUnits :=
    Nat.le_trans divisor.toNat_lt.le (two_pow_le_oneUnits (by decide))
  have divides : divisor.toNat ∣ 2 * oneUnits := by
    rw [← Int.natCast_dvd_natCast]
    refine ⟨a + b, ?_⟩
    rw [around, Nat.cast_mul, Nat.cast_ofNat]
  unfold oneUnits at word divides ⊢
  generalize unitPlaces = places at word divides ⊢
  exact toShort_pow_of_dvd pos word divides

theorem closest_reciprocal {divisor : UInt32} (pos : 0 < divisor.toNat) {x : Binary64} :
    Closest (1 / divisor.toNat) x ↔ x = 1 / ofWord divisor := by
  constructor
  · intro closest
    have other := reciprocal_closest pos
    rw [closest_reciprocal_iff pos] at closest other
    have same := Nat.le_antisymm (closest.2 _ other.1) (other.2 _ closest.1)
    obtain ⟨h, is⟩ := reciprocal_eq pos
    have positive : 1 ≤ toShort oneUnits divisor.toNat := by
      apply le_toShort pos (short_of_le (by decide))
      rw [Nat.one_mul]
      exact Nat.le_trans divisor.toNat_lt.le (two_pow_le_oneUnits (by decide))
    rw [is] at same ⊢
    have units : x.signedUnits = toShort oneUnits divisor.toNat := by
      apply Int.eq_of_mul_eq_mul_left (a := divisor.toNat) (by omega)
      rcases Int.natAbs_eq_natAbs_iff.1 same with equal | around
      · rw [signedUnits_finite] at equal
        omega
      · rw [signedUnits_finite] at around
        have exact : ((toShort oneUnits divisor.toNat * divisor.toNat : Nat) : Int) = oneUnits := by
          rw [reciprocal_of_around pos (a := x.signedUnits) (b := toShort oneUnits divisor.toNat)]
          rw [Int.mul_add]
          omega
        rw [Nat.cast_mul, Int.mul_comm] at exact
        omega
    exact eq_of_signedUnits positive closest.1 units
  · intro is
    rw [is]
    exact reciprocal_closest pos

end Binary64

end Craftbook
