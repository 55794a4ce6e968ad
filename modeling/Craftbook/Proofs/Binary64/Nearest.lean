import Craftbook.Proofs.Binary64.Arithmetic

/-!
Rounding goes to the nearest. Main statement: the float of a 64-bit integer is finite, and no finite
number is nearer to the integer.
-/
namespace Craftbook

namespace Rounding

theorem halfEven_nearest (num : Nat) {den : Nat} (pos : 0 < den) (n : Nat) :
    ((num : Int) - (halfEven num den * den : Nat)).natAbs ≤
      ((num : Int) - (n * den : Nat)).natAbs := by
  have above := halfEven_error_le num pos
  have below := le_halfEven_error num pos
  rcases Nat.lt_trichotomy n (halfEven num den) with less | rfl | more
  · have apart : (n + 1) * den ≤ halfEven num den * den := Nat.mul_le_mul_right den less
    rw [Nat.add_one_mul] at apart
    omega
  · exact le_rfl
  · have apart : (halfEven num den + 1) * den ≤ n * den := Nat.mul_le_mul_right den more
    rw [Nat.add_one_mul] at apart
    omega

/-- No short number is nearer to a quotient than what the quotient is rounded to. -/
theorem toShort_nearest (num : Nat) {den n : Nat} (pos : 0 < den) (short : Short n) :
    ((num : Int) - (toShort num den * den : Nat)).natAbs ≤
      ((num : Int) - (n * den : Nat)).natAbs := by
  have grid (c : Nat) : ((num : Int) - (toShort num den * den : Nat)).natAbs ≤
      ((num : Int) - (c * lastPlace (num / den) * den : Nat)).natAbs := by
    rw [toShort_mul, Nat.mul_assoc c, Nat.mul_comm (lastPlace _)]
    exact halfEven_nearest num (Nat.mul_pos pos (lastPlace_pos _)) c
  rcases Nat.le_total (n * den) num with below | above
  · -- The grid has a number between this one and the quotient.
    have floor := le_floor_of_short short ((Nat.le_div_iff_mul_le pos).2 below)
    have between := Nat.mul_le_mul_right den floor
    have under := Nat.mul_le_mul_right den (Nat.div_mul_le_self (num / den) (lastPlace (num / den)))
    have quotient := Nat.div_mul_le_self num den
    have near := grid (num / den / lastPlace (num / den))
    omega
  · -- This one is on the grid, for it has no more places than the quotient.
    have whole : num / den ≤ n := Nat.div_le_of_le_mul (by rwa [Nat.mul_comm])
    obtain ⟨c, rfl⟩ : lastPlace (num / den) ∣ n := Nat.dvd_trans (lastPlace_dvd whole) short
    rw [Nat.mul_comm (lastPlace _)]
    exact grid c

theorem toShort_mono_num {num num' den : Nat} (pos : 0 < den) (h : num ≤ num') :
    toShort num den ≤ toShort num' den := by
  by_contra crossed
  have apart := Nat.mul_lt_mul_of_pos_right (Nat.not_le.1 crossed) pos
  -- Each result is nearer to its own quotient than the other one is, so the quotients are equal.
  have first := toShort_nearest num pos (toShort_short num' den)
  have second := toShort_nearest num' pos (toShort_short num den)
  obtain rfl : num = num' := by omega
  exact crossed le_rfl

/-- Rounding keeps the order of quotients. -/
theorem toShort_mono {num den num' den' : Nat} (pos : 0 < den) (pos' : 0 < den')
    (h : num * den' ≤ num' * den) : toShort num den ≤ toShort num' den' := by
  calc toShort num den = toShort (num * den') (den * den') := (toShort_mul_right pos').symm
    _ ≤ toShort (num' * den) (den * den') := toShort_mono_num (Nat.mul_pos pos pos') h
    _ = toShort (num' * den) (den' * den) := by rw [Nat.mul_comm den]
    _ = toShort num' den' := toShort_mul_right pos

end Rounding

namespace Binary64
open Rounding

/-- A finite number in units, with its sign. -/
def signedUnits : Binary64 → Int
  | .finite negative units _ => signed negative units
  | _ => 0

/-- A finite number such that none is nearer to a whole one. -/
structure NearestTo (n : Int) (x : Binary64) : Prop where
  finite : x.isFinite
  nearest : ∀ y : Binary64, y.isFinite →
    (n * oneUnits - x.signedUnits).natAbs ≤ (n * oneUnits - y.signedUnits).natAbs

theorem ofInt_finite {n : Int} (small : n.natAbs ≤ 2 ^ 63) :
    ∃ h, ofInt n = .finite (n < 0) (toShort (n.natAbs * oneUnits) 1) h := by
  have bound : toShort (n.natAbs * oneUnits) 1 ≤ 2 ^ 63 * oneUnits := by
    have short : Short (2 ^ 63 * oneUnits) := by
      unfold oneUnits
      generalize unitPlaces = places
      rw [Nat.pow_eq, ← Nat.pow_add, ← Nat.one_mul (2 ^ _)]
      exact short_mul_two_pow (by decide) _
    apply toShort_le Nat.one_pos short
    rw [Nat.mul_one]
    exact Nat.mul_le_mul_right oneUnits small
  have fits : 2 ^ 63 * oneUnits < unitLimit := by
    unfold oneUnits unitLimit
    generalize unitPlaces = places
    simp only [Nat.pow_eq]
    rw [← Nat.pow_add]
    exact Nat.pow_lt_pow_right (by decide) (by omega)
  exact ofQuotient_eq _ rfl (Nat.lt_of_le_of_lt bound fits)

theorem signed_natAbs (n : Int) (c : Nat) : n * c = signed (n < 0) (n.natAbs * c) := by
  unfold signed
  split
  · rename_i negative
    rw [Nat.cast_mul, ← Int.neg_mul, Int.ofNat_natAbs_of_nonpos (of_decide_eq_true negative).le,
      Int.neg_neg]
  · rename_i nonneg
    rw [Nat.cast_mul, Int.natAbs_of_nonneg (by simpa using nonneg)]

theorem ofInt_nearest (n : Int64) : NearestTo n.toInt (ofInt n.toInt) := by
  have small : n.toInt.natAbs ≤ 2 ^ 63 := by
    have lower := n.le_toInt
    have upper := n.toInt_lt
    omega
  obtain ⟨h, is⟩ := ofInt_finite small
  rw [is]
  refine ⟨rfl, fun y finite => ?_⟩
  cases y with
  | nan => cases finite
  | infinite negative => cases finite
  | finite negative m hm =>
    -- A number of the other sign is farther away than zero.
    have same := toShort_nearest (n.toInt.natAbs * oneUnits) Nat.one_pos hm.2
    have zero := toShort_nearest (n.toInt.natAbs * oneUnits) Nat.one_pos
      (short_of_le (Nat.zero_le _))
    simp only [Nat.mul_one] at same zero
    simp only [signedUnits, signed_natAbs]
    generalize toShort (n.toInt.natAbs * oneUnits) 1 = rounded at same zero ⊢
    generalize n.toInt.natAbs * oneUnits = exact at same zero ⊢
    cases decide (n.toInt < 0) <;> cases negative <;> simp only [signed] <;> grind

end Binary64

end Craftbook
