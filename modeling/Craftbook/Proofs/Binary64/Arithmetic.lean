import Craftbook.Binary64.Basic
import Craftbook.Proofs.Binary64.Rounding

/-!
Operations on numbers that are not negative, in terms of their units. Main statements: small whole
numbers are exact, and quotients of numbers are rounded quotients of their units.
-/
namespace Craftbook.Binary64
open Rounding

/-- The magnitude of a finite number, in units. -/
def units : Binary64 → Nat
  | .finite _ units _ => units
  | _ => 0

theorem ofQuotient_eq (negative : Bool) {num den units : Nat} (is : toShort num den = units)
    (h : units < unitLimit) : ∃ h, ofQuotient negative num den = .finite negative units h := by
  subst is
  refine ⟨⟨h, toShort_short num den⟩, ?_⟩
  unfold ofQuotient
  simp only [h, dite_true]

theorem two_pow_le_oneUnits {places : Nat} (h : places ≤ unitPlaces) : 2 ^ places ≤ oneUnits := by
  unfold oneUnits
  generalize unitPlaces = whole at h ⊢
  exact Nat.pow_le_pow_right (by decide) h

theorem units_short {n : Nat} (small : n < UInt32.size) : Short (n * oneUnits) := by
  unfold oneUnits
  exact short_mul_two_pow (Nat.le_trans small.le (by decide)) unitPlaces

/-- A word counts less than any infinite magnitude. -/
theorem units_lt {n : Nat} (small : n < UInt32.size) : n * oneUnits < unitLimit := by
  unfold oneUnits unitLimit
  generalize unitPlaces = places
  calc n * 2 ^ places < 2 ^ 32 * 2 ^ places :=
        Nat.mul_lt_mul_of_pos_right small (Nat.two_pow_pos places)
    _ = 2 ^ (32 + places) := (Nat.pow_add ..).symm
    _ ≤ 2 ^ (1024 + places) := Nat.pow_le_pow_right (by decide) (by omega)

theorem ofInt_eq {n : Nat} (small : n < UInt32.size) :
    ∃ h, ofInt n = .finite false (n * oneUnits) h := by
  have kept : toShort (n * oneUnits) 1 = n * oneUnits := by
    simpa only [Nat.mul_one] using toShort_of_short Nat.one_pos (units_short small)
  have nonneg : decide ((n : Int) < 0) = false := by simp
  rw [ofInt, Int.natAbs_natCast, nonneg]
  exact ofQuotient_eq false kept (units_lt small)

theorem ofWord_eq (n : UInt32) : ∃ h, ofWord n = .finite false (n.toNat * oneUnits) h :=
  ofInt_eq n.toNat_lt

theorem zero_eq : ∃ h, (0 : Binary64) = .finite false 0 h := by
  obtain ⟨h, is⟩ := ofInt_eq (n := 0) (by decide)
  simp only [Nat.zero_mul] at is
  exact ⟨_, is⟩

theorem one_eq : ∃ h, (1 : Binary64) = .finite false oneUnits h := by
  obtain ⟨h, is⟩ := ofInt_eq (n := 1) (by decide)
  simp only [Nat.one_mul] at is
  exact ⟨_, is⟩

theorem lt_iff {m n : Nat} {hm : Representable m} {hn : Representable n} :
    finite false m hm < finite false n hn ↔ m < n :=
  decide_eq_true_iff.trans Int.ofNat_lt

theorem positive_iff {x : Binary64} :
    x.isFinite ∧ 0 < x ↔ ∃ m h, x = finite false m h ∧ 0 < m := by
  obtain ⟨_, zero⟩ := zero_eq
  rw [zero]
  cases x with
  | nan => simp [isFinite]
  | infinite negative => simp [isFinite]
  | finite negative m h =>
    cases negative with
    | false =>
      refine ⟨fun positive => ⟨m, h, rfl, lt_iff.1 positive.2⟩, fun is => ?_⟩
      obtain ⟨_, _, same, positive⟩ := is
      cases same
      exact ⟨rfl, lt_iff.2 positive⟩
    | true =>
      refine ⟨fun positive => ?_, by simp⟩
      have signs : signed false 0 < signed true m := of_decide_eq_true positive.2
      simp [signed] at signs
      omega

theorem lt_one_iff {m : Nat} {h : Representable m} :
    finite false m h < 1 ↔ m < oneUnits := by
  obtain ⟨_, one⟩ := one_eq
  rw [one, lt_iff]

theorem nonneg_of_not_lt {x : Binary64} (finite : x.isFinite) (h : ¬ x < 0) : 0 ≤ x := by
  obtain ⟨_, zero⟩ := zero_eq
  rw [zero] at h ⊢
  cases x with
  | nan => cases finite
  | infinite negative => cases finite
  | finite negative m hm =>
    have signs : ¬ signed negative m < signed false 0 := fun less => h (decide_eq_true less)
    exact decide_eq_true (Int.not_lt.1 signs)

theorem div_eq {m n : Nat} {hm : Representable m} {hn : Representable n} (pos : 0 < n) :
    finite false m hm / finite false n hn = ofQuotient false (m * oneUnits) n :=
  if_neg (Nat.pos_iff_ne_zero.1 pos)

theorem div_ofWord {a b : UInt32} (pos : 0 < b.toNat) : ∃ h, ofWord a / ofWord b =
    .finite false (toShort (a.toNat * oneUnits) b.toNat) h := by
  obtain ⟨_, isa⟩ := ofWord_eq a
  obtain ⟨_, isb⟩ := ofWord_eq b
  have below : toShort (a.toNat * oneUnits) b.toNat ≤ a.toNat * oneUnits :=
    toShort_le pos (units_short a.toNat_lt) (Nat.le_mul_of_pos_right _ pos)
  rw [isa, isb, div_eq (Nat.mul_pos pos oneUnits_pos)]
  exact ofQuotient_eq false (toShort_mul_right oneUnits_pos)
    (Nat.lt_of_le_of_lt below (units_lt a.toNat_lt))

theorem le_nearestWhole_iff {units n : Nat} :
    n ≤ nearestWhole units ↔ 2 * (n * oneUnits) ≤ 2 * units + oneUnits := by
  have pos := oneUnits_pos
  rw [nearestWhole, Nat.le_div_iff_mul_le (by omega), Nat.mul_left_comm]

theorem nearestWhole_le_iff {units n : Nat} :
    nearestWhole units ≤ n ↔ 2 * units < 2 * (n * oneUnits) + oneUnits := by
  rw [← Nat.not_lt, ← Nat.succ_le_iff, le_nearestWhole_iff, Nat.not_le, Nat.succ_mul n]
  omega

theorem nearestWhole_eq_iff {units n : Nat} : nearestWhole units = n ↔
    2 * (n * oneUnits) ≤ 2 * units + oneUnits ∧ 2 * units < 2 * (n * oneUnits) + oneUnits := by
  rw [← le_nearestWhole_iff, ← nearestWhole_le_iff]
  omega

theorem nearestWhole_mono {m n : Nat} (le : m ≤ n) : nearestWhole m ≤ nearestWhole n := by
  have reach := le_nearestWhole_iff.1 (Nat.le_refl (nearestWhole m))
  rw [le_nearestWhole_iff]
  omega

theorem toWord_finite (units : Nat) (h : Representable units) :
    (finite false units h).toWord.toNat = min (nearestWhole units) (UInt32.size - 1) := by
  have small : min (nearestWhole units) (UInt32.size - 1) < UInt32.size := by
    simp only [UInt32.size]
    omega
  exact UInt32.toNat_ofNat_of_lt small

/-- The nearest word to a quotient; too large a quotient has the greatest one. -/
theorem toWord_ofQuotient (num den : Nat) : (ofQuotient false num den).toWord.toNat =
    min (nearestWhole (toShort num den)) (UInt32.size - 1) := by
  rcases Nat.lt_or_ge (toShort num den) unitLimit with fits | large
  · obtain ⟨_, is⟩ := ofQuotient_eq false (rfl : toShort num den = _) fits
    rw [is, toWord_finite]
  · have most : UInt32.size - 1 ≤ nearestWhole (toShort num den) := by
      have word := units_lt (n := UInt32.size - 1) (by decide)
      rw [le_nearestWhole_iff]
      omega
    rw [Nat.min_eq_right most]
    unfold ofQuotient
    simp only [Nat.not_lt.2 large, dite_false]
    rfl

theorem toWord_reciprocal {m : Nat} {h : Representable m} (pos : 0 < m) :
    (1 / finite false m h).toWord.toNat =
      min (nearestWhole (toShort (oneUnits * oneUnits) m)) (UInt32.size - 1) := by
  obtain ⟨_, one⟩ := one_eq
  rw [one, div_eq pos, toWord_ofQuotient]

theorem sub_eq {m n : Nat} (hm : Representable m) (hn : Representable n) :
    finite false m hm - finite false n hn =
      if (m : Int) - n = 0 then zero false
      else ofQuotient ((m : Int) - n < 0) ((m : Int) - n).natAbs 1 :=
  rfl

theorem sub_self_abs {m : Nat} {h : Representable m} :
    (finite false m h - finite false m h).abs = 0 := by
  obtain ⟨_, none⟩ := zero_eq
  rw [sub_eq, if_pos (Int.sub_self _), none]
  rfl

theorem sub_abs_eq {m n : Nat} (hm : Representable m) (hn : Representable n) :
    ∃ h, (finite false m hm - finite false n hn).abs =
      .finite false (toShort ((m : Int) - n).natAbs 1) h := by
  have fits : toShort ((m : Int) - n).natAbs 1 < unitLimit := by
    have larger : ((m : Int) - n).natAbs ≤ max m n * 1 := by omega
    have short : Short (max m n) := by
      rcases Nat.le_total m n with le | le
      · rw [Nat.max_eq_right le]
        exact hn.2
      · rw [Nat.max_eq_left le]
        exact hm.2
    exact Nat.lt_of_le_of_lt (toShort_le Nat.one_pos short larger) (Nat.max_lt.2 ⟨hm.1, hn.1⟩)
  rw [sub_eq]
  split
  · rename_i same
    refine ⟨⟨fits, toShort_short _ _⟩, ?_⟩
    simp only [same]
    rfl
  · obtain ⟨h, is⟩ := ofQuotient_eq (decide ((m : Int) - n < 0)) rfl fits
    exact ⟨h, by rw [is]; rfl⟩

/-- The exact distance of two magnitudes is hardly more than a tolerance that its rounding meets. -/
theorem sub_abs_le {m n : Nat} {hm : Representable m} {hn : Representable n}
    {tolerance : Binary64} (bounded : tolerance.isFinite)
    (h : (finite false m hm - finite false n hn).abs ≤ tolerance) :
    ((m : Int) - n).natAbs * 2 ^ 53 ≤ tolerance.units * 2 ^ 53 + ((m : Int) - n).natAbs := by
  obtain ⟨_, is⟩ := sub_abs_eq hm hn
  rw [is] at h
  have rounded : toShort ((m : Int) - n).natAbs 1 ≤ tolerance.units := by
    cases tolerance with
    | nan => cases bounded
    | infinite negative => cases bounded
    | finite negative t ht =>
      have signs : signed false (toShort ((m : Int) - n).natAbs 1) ≤ signed negative t :=
        of_decide_eq_true h
      cases negative <;> simp [signed] at signs <;> simp only [units] <;> omega
  have whole := le_toShort_whole ((m : Int) - n).natAbs
  exact Nat.le_trans whole (Nat.add_le_add_right (Nat.mul_le_mul_right _ rounded) _)

theorem units_le_of_sub_abs_le {m n : Nat} {hm : Representable m} {hn : Representable n}
    {tolerance : Binary64} (bounded : tolerance.isFinite)
    (h : (finite false m hm - finite false n hn).abs ≤ tolerance) :
    n * 2 ^ 53 + m ≤ (m + tolerance.units) * 2 ^ 53 + n := by
  have distance := sub_abs_le bounded h
  rcases Nat.le_total n m with le | le
  · linarith
  · obtain ⟨x, rfl⟩ := Nat.exists_eq_add_of_le le
    have is : ((m : Int) - (m + x : Nat)).natAbs = x := by omega
    rw [is] at distance
    linarith

end Craftbook.Binary64
