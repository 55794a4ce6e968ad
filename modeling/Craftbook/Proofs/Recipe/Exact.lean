import Craftbook.Proofs.Recipe.Duration

/-!
Durations that a tick rate counts exactly. Main statement: the number nearest to a whole fraction of
a second is accepted at every rate that the fraction splits, and a whole number of seconds at every
rate at which a word holds its ticks, whatever the tolerance.
-/
namespace Craftbook
open Binary64 Rounding

namespace CraftTime

/-- The form of a whole fraction of a second. -/
def fraction (divisor : UInt32) : CraftTime := if divisor = 1 then .base else .divided divisor

/-- Two seconds and more are multiples of a second. -/
theorem nearest?_ofWord {n : UInt32} (two : 2 ≤ n.toNat) :
    nearest? (ofWord n) = some (.multiplied n) := by
  obtain ⟨h, is⟩ := ofWord_eq n
  have above : oneUnits < n.toNat * oneUnits := by
    have twice := Nat.mul_le_mul_right oneUnits two
    have pos := oneUnits_pos
    omega
  have word : (finite false (n.toNat * oneUnits) h).toWord = n := by
    rw [← UInt32.toNat_inj, toWord_finite, nearestWhole_whole]
    have small := n.toNat_lt
    simp only [UInt32.size]
    omega
  rw [is, nearest?_above above, word]

end CraftTime

namespace Quantizer
variable {q : Quantizer}

theorem reciprocal_eq_counted {divisor : UInt32} (rated : 0 < q.rate.toNat)
    (splits : divisor.toNat ∣ q.rate.toNat) :
    1 / ofWord divisor = ofWord (q.rate / divisor) / ofWord q.rate := by
  have whole := Nat.pos_of_dvd_of_pos splits rated
  obtain ⟨_, exact⟩ := reciprocal_eq whole
  obtain ⟨_, ticks⟩ := div_ofWord (a := q.rate / divisor) rated
  have same : toShort ((q.rate / divisor).toNat * oneUnits) q.rate.toNat =
      toShort oneUnits divisor.toNat := by
    obtain ⟨count, product⟩ := splits
    have counted : 0 < count := by
      rw [product] at rated
      exact Nat.pos_of_mul_pos_left rated
    rw [UInt32.toNat_div, product, Nat.mul_div_cancel_left _ whole, Nat.mul_comm count]
    exact toShort_mul_right counted
  rw [exact, ticks]
  simp only [same]

theorem reciprocal_one : 1 / ofWord 1 = 1 := by
  have whole : 0 < (1 : UInt32).toNat := by decide
  obtain ⟨_, is⟩ := reciprocal_eq whole
  obtain ⟨_, one⟩ := one_eq
  have kept : toShort oneUnits (1 : UInt32).toNat = oneUnits := by
    rw [UInt32.toNat_one]
    simpa only [Nat.mul_one] using toShort_of_short Nat.one_pos oneUnits_short
  rw [is, one]
  simp only [kept]

theorem quantize_second (nonneg : 0 ≤ q.tolerance) (rated : 0 < q.rate.toNat) (recipe : String) :
    q.quantize recipe 1 = .ok (.base, q.rate) := by
  obtain ⟨_, one⟩ := one_eq
  rw [one, quantize_eq_ok_iff]
  exact ⟨CraftTime.nearest?_one rfl, rfl, rated, meets_own rated nonneg (duration_rate rated)⟩

theorem quantize_fraction (nonneg : 0 ≤ q.tolerance) {divisor : UInt32}
    (rated : 0 < q.rate.toNat) (splits : divisor.toNat ∣ q.rate.toNat) (recipe : String) :
    q.quantize recipe (1 / ofWord divisor) = .ok (.fraction divisor, q.rate / divisor) := by
  have whole := Nat.pos_of_dvd_of_pos splits rated
  have counted : 0 < q.rate.toNat / divisor.toNat := Nat.div_pos (Nat.le_of_dvd rated splits) whole
  rw [CraftTime.fraction]
  split
  · rename_i one
    have all : q.rate / 1 = q.rate := by
      rw [← UInt32.toNat_inj, UInt32.toNat_div, UInt32.toNat_one, Nat.div_one]
    rw [one, reciprocal_one, all]
    exact quantize_second nonneg rated recipe
  · rename_i several
    have two : 2 ≤ divisor.toNat := by
      have different : divisor.toNat ≠ 1 := fun same => several (UInt32.toNat_inj.1 same)
      omega
    rw [reciprocal_eq_counted rated splits]
    apply quantize_counted nonneg two
    rw [Nat.mod_eq_zero_of_dvd splits]
    exact counted

theorem quantize_whole (nonneg : 0 ≤ q.tolerance) (rated : 0 < q.rate.toNat) {n : UInt32}
    (two : 2 ≤ n.toNat) (fits : q.rate.toNat * n.toNat ≤ amountLimit) (recipe : String) :
    q.quantize recipe (ofWord n) = .ok (.multiplied n, .ofNat (q.rate.toNat * n.toNat)) := by
  have product : (UInt32.ofNat (q.rate.toNat * n.toNat)).toNat = q.rate.toNat * n.toNat :=
    word_toNat fits
  rw [quantize_eq_ok_iff]
  refine ⟨CraftTime.nearest?_ofWord two, checkedMul_eq_some_iff.2 product, ?_, ?_⟩
  · rw [product]
    exact Nat.mul_pos rated (by omega)
  · obtain ⟨_, is⟩ := ofWord_eq n
    rw [is]
    exact meets_own rated nonneg (duration_product rated product)

theorem quantize_overflow {n : UInt32} (two : 2 ≤ n.toNat)
    (large : amountLimit < q.rate.toNat * n.toNat) (recipe : String) :
    q.quantize recipe (ofWord n) =
      .error (.ambiguousTime recipe (ofWord n) (.ofNat amountLimit) q.rate) := by
  have uncounted : (CraftTime.multiplied n).ticks? q.rate = none :=
    if_neg (Nat.not_lt.2 large)
  rw [quantize_eq_error_iff (CraftTime.nearest?_ofWord two), uncounted]
  simp

/-- What the rate counts exactly is accepted at every tolerance: the one number that is nearest to a
whole fraction of a second, and whole seconds, up to the greatest tick count of a word. -/
theorem exact_accepted (rated : 1 ≤ q.rate.toNat) (nonneg : 0 ≤ q.tolerance) (recipe : String) :
    (∀ divisor : UInt32, divisor.toNat ∣ q.rate.toNat →
      ∃ seconds, (∀ x, Closest (1 / divisor.toNat) x ↔ x = seconds) ∧
        q.quantize recipe seconds = .ok (.fraction divisor, q.rate / divisor)) ∧
    (∀ n : UInt32, 2 ≤ n.toNat → q.rate.toNat * n.toNat ≤ amountLimit →
      q.quantize recipe (ofWord n) = .ok (.multiplied n, .ofNat (q.rate.toNat * n.toNat))) ∧
    ∀ n : UInt32, 2 ≤ n.toNat → amountLimit < q.rate.toNat * n.toNat →
      q.quantize recipe (ofWord n) =
        .error (.ambiguousTime recipe (ofWord n) (.ofNat amountLimit) q.rate) := by
  refine ⟨fun divisor splits => ?_, fun n two fits => ?_, fun n two large => ?_⟩
  · have whole := Nat.pos_of_dvd_of_pos splits rated
    refine ⟨1 / ofWord divisor, fun x => closest_reciprocal whole, ?_⟩
    exact quantize_fraction nonneg rated splits recipe
  · exact quantize_whole nonneg rated two fits recipe
  · exact quantize_overflow two large recipe

theorem exact_accepted_sixtieths :
    (1 ≤ (60 : UInt32).toNat ∧ (0 : Binary64) ≤ 0) ∧
      (∃ third, (∀ x, Closest (1 / (3 : UInt32).toNat) x ↔ x = third) ∧
        quantize ⟨60, 0⟩ "Brick" third = .ok (.divided 3, 20)) ∧
      quantize ⟨60, 0⟩ "Brick" (ofWord 12) = .ok (.multiplied 12, 720) ∧
      quantize ⟨60, 0⟩ "Brick" (ofWord 71582789) =
        .error (.ambiguousTime "Brick" (ofWord 71582789) 4294967295 60) := by
  have nonneg : (0 : Binary64) ≤ 0 := by decide +kernel
  obtain ⟨fractions, whole, overflow⟩ :=
    exact_accepted (q := ⟨60, 0⟩) (by decide) nonneg "Brick"
  obtain ⟨third, nearest, accepted⟩ := fractions 3 (by decide)
  exact ⟨⟨by decide, nonneg⟩, ⟨third, nearest, accepted⟩, whole 12 (by decide) (by decide),
    overflow 71582789 (by decide) (by decide)⟩

end Quantizer

end Craftbook
