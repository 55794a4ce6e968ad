import Craftbook.Proofs.Binary64.Arithmetic
import Craftbook.Proofs.Config.Validation
import Craftbook.Proofs.Recipe.Time

/-!
Durations below a second, and the divisors of the tick rate that they are given. Main statement:
a divisor is accepted for some duration while what it leaves of the tick rate is less than half of
the tick count, and not much beyond.
-/
namespace Craftbook
open Binary64 Rounding

theorem CraftTime.nearest?_divided_iff {seconds : Binary64} {divisor : UInt32} :
    nearest? seconds = some (.divided divisor) ↔
      ∃ m h, seconds = finite false m h ∧ 0 < m ∧ m < oneUnits ∧ divisor.toNat =
        min (nearestWhole (toShort (oneUnits * oneUnits) m)) (UInt32.size - 1) := by
  unfold nearest?
  refine ⟨fun h => ?_, ?_⟩
  · split at h
    · rename_i positive
      obtain ⟨m, hm, rfl, nonzero⟩ := positive_iff.1 positive
      have word := toWord_reciprocal (h := hm) nonzero
      split at h
      · rename_i below
        rw [divided.inj (Option.some.inj h)] at word
        exact ⟨m, hm, rfl, nonzero, lt_one_iff.1 below, word⟩
      · split at h <;> cases h
    · cases h
  · intro small
    obtain ⟨m, hm, rfl, nonzero, below, divisor⟩ := small
    have word := UInt32.toNat_inj.1 ((toWord_reciprocal (h := hm) nonzero).trans divisor.symm)
    refine (if_pos (positive_iff.2 ⟨m, hm, rfl, nonzero⟩)).trans (congrArg some ?_)
    exact (if_pos (lt_one_iff.2 below)).trans (congrArg divided word)

theorem quotient_near {a b : UInt32} (positive : 0 < a.toNat) (below : 0 < b.toNat) :
    Near (toShort (a.toNat * oneUnits) b.toNat) (a.toNat * oneUnits) b.toNat := by
  apply toShort_near below
  rw [Nat.le_div_iff_mul_le below]
  calc 2 ^ 52 * b.toNat ≤ 2 ^ 52 * 2 ^ 32 := Nat.mul_le_mul_left _ b.toNat_lt.le
    _ ≤ oneUnits := two_pow_le_oneUnits (by decide : 84 ≤ unitPlaces)
    _ ≤ a.toNat * oneUnits := Nat.le_mul_of_pos_left _ positive

theorem reciprocal_near {m : Nat} (positive : 0 < m) (below : m < oneUnits) :
    Near (toShort (oneUnits * oneUnits) m) (oneUnits * oneUnits) m := by
  apply toShort_near positive
  rw [Nat.le_div_iff_mul_le positive]
  exact Nat.mul_le_mul (two_pow_le_oneUnits (by decide)) below.le

/-- How long a duration can be whose divisor is not below a whole number. -/
theorem divided_le {n m units : Nat} (second : Near units (oneUnits * oneUnits) m)
    (least : n ≤ nearestWhole units) :
    2 * n * m * 2 ^ 53 ≤ 2 * oneUnits * 2 ^ 53 + 2 * oneUnits + m * 2 ^ 53 := by
  have reached := Nat.mul_le_mul_right m (le_nearestWhole_iff.1 least)
  have upper := second.upper
  apply Nat.le_of_mul_le_mul_left _ oneUnits_pos
  linarith

/-- How short a duration can be whose divisor is not above a whole number. -/
theorem le_divided {n m units : Nat} (nonzero : 0 < m)
    (second : Near units (oneUnits * oneUnits) m) (most : nearestWhole units ≤ n) :
    2 * oneUnits * 2 ^ 53 ≤ (2 * n + 1) * m * 2 ^ 53 + 2 * oneUnits := by
  have under := Nat.mul_lt_mul_of_pos_right (nearestWhole_le_iff.1 most) nonzero
  have lower := second.lower
  apply Nat.le_of_mul_le_mul_left _ oneUnits_pos
  linarith

/-- A divisor that leaves less than half of the tick count is the one nearest to the duration of the
counted ticks. -/
theorem divisor_nearest {rate divisor ticks rest m units : Nat} (small : rate < 2 ^ 32)
    (division : rate = divisor * ticks + rest) (whole : 0 < divisor) (counted : 0 < ticks)
    (few : 2 * rest < ticks)
    (first : Near m (ticks * oneUnits) rate) (second : Near units (oneUnits * oneUnits) m) :
    nearestWhole units = divisor := by
  have pos := oneUnits_pos
  have counts : divisor * ticks < 2 ^ 32 := by omega
  obtain ⟨upper, lower⟩ := first.reciprocal pos second
  rw [division] at upper lower
  rw [nearestWhole_eq_iff]
  -- The two roundings move the reciprocal by parts in 2 ^ 53. The half that it would have to cross
  -- is at least a tick count's part away, which is more than a part in 2 ^ 33.
  refine ⟨?_, ?_⟩
  · by_contra less
    have scaled := Nat.mul_lt_mul_of_pos_right (Nat.not_le.1 less) counted
    have bound := Nat.mul_lt_mul_of_pos_left counts pos
    have once := Nat.le_mul_of_pos_right oneUnits counted
    have remains := Nat.zero_le (oneUnits * rest)
    linarith
  · by_contra more
    have scaled := Nat.mul_le_mul_right ticks (Nat.not_lt.1 more)
    have bound := Nat.mul_lt_mul_of_pos_left counts pos
    have half := Nat.mul_le_mul_left oneUnits few
    have most := Nat.mul_le_mul_left oneUnits (Nat.le_mul_of_pos_left ticks whole)
    linarith

/-- A divisor nearest to a duration leaves half of the tick count at most, if the duration is that
of the counted ticks up to a small tolerance. -/
theorem remainder_le {rate divisor ticks rest m units counts t : Nat} (small : rate < 2 ^ 32)
    (division : rate = divisor * ticks + rest) (nonzero : 0 < m)
    (first : Near counts (ticks * oneUnits) rate) (second : Near units (oneUnits * oneUnits) m)
    (nearest : nearestWhole units ≤ divisor)
    (close : m * 2 ^ 53 + counts ≤ (counts + t) * 2 ^ 53 + m)
    (tight : 2 * ((2 * divisor + 1) * (rate * t)) ≤ oneUnits) : 2 * rest ≤ ticks := by
  have pos := oneUnits_pos
  by_contra more
  -- The duration exceeds the reciprocal of the divisor and a half, up to rounding.
  have longer := le_divided nonzero second nearest
  have rated := Nat.mul_le_mul_right rate longer
  have drift := Nat.mul_le_mul_left ((2 * divisor + 1) * rate) close
  have rounded := Nat.mul_le_mul_left (2 * divisor + 1) first.upper
  have whole : oneUnits * ((2 * divisor + 1) * ticks + 1) ≤ oneUnits * (2 * rate) := by
    apply Nat.mul_le_mul_left
    linarith
  have words := Nat.mul_le_mul_left oneUnits small
  linarith

namespace Quantizer

/-- A divisor that leaves less than half of the tick count is accepted at every tolerance. -/
theorem quantize_counted {q : Quantizer} (nonneg : 0 ≤ q.tolerance) {divisor : UInt32}
    (two : 2 ≤ divisor.toNat)
    (few : 2 * (q.rate.toNat % divisor.toNat) < q.rate.toNat / divisor.toNat) (recipe : String) :
    q.quantize recipe (ofWord (q.rate / divisor) / ofWord q.rate) =
      .ok (.divided divisor, q.rate / divisor) := by
  have ticks : (q.rate / divisor).toNat = q.rate.toNat / divisor.toNat := UInt32.toNat_div _ _
  have counted : 0 < (q.rate / divisor).toNat := by omega
  have division := Nat.div_add_mod q.rate.toNat divisor.toNat
  rw [← ticks] at few division
  have twice := Nat.mul_le_mul_right (q.rate / divisor).toNat two
  have positive : 0 < q.rate.toNat := by omega
  have first := quotient_near counted positive
  obtain ⟨h, seconds⟩ := div_ofWord (a := q.rate / divisor) positive
  generalize toShort ((q.rate / divisor).toNat * oneUnits) q.rate.toNat = m at h first seconds
  have weight := Nat.mul_pos counted oneUnits_pos
  have nonzero := first.pos weight
  have below : m < oneUnits := by
    by_contra above
    have upper := first.upper
    have least := Nat.mul_le_mul_right q.rate.toNat (Nat.not_lt.1 above)
    have half := Nat.mul_le_mul_left oneUnits (Nat.le_trans twice (by omega : _ ≤ q.rate.toNat))
    linarith
  have second := reciprocal_near nonzero below
  have nearest := divisor_nearest q.rate.toNat_lt division.symm (by omega) counted few first second
  rw [quantize_eq_ok_iff]
  refine ⟨CraftTime.nearest?_divided_iff.2 ⟨m, h, seconds, nonzero, below, ?_⟩, ?_, counted, ?_⟩
  · have word := divisor.toNat_lt
    rw [nearest]
    simp only [UInt32.size]
    omega
  · refine checkedDiv_eq_some_iff.2 ⟨?_, ticks⟩
    rintro rfl
    simp at two
  · rw [meets, seconds, sub_self_abs]
    exact decide_eq_true nonneg

/-- At a tolerance below half of the distance to the next divisor, an accepted divisor does not
leave more than half of the tick count. -/
theorem quantize_remainder {q : Quantizer} (bounded : q.tolerance.isFinite) {recipe : String}
    {seconds : Binary64} {divisor ticks : UInt32}
    (accepted : q.quantize recipe seconds = .ok (.divided divisor, ticks))
    (tight : 2 * ((2 * divisor.toNat + 1) * (q.rate.toNat * q.tolerance.units)) ≤ oneUnits) :
    2 * (q.rate.toNat % divisor.toNat) ≤ q.rate.toNat / divisor.toNat := by
  obtain ⟨nearest, counted, positive, close⟩ := quantize_eq_ok_iff.1 accepted
  obtain ⟨m, hm, rfl, nonzero, below, word⟩ := CraftTime.nearest?_divided_iff.1 nearest
  obtain ⟨rated, -⟩ := CraftTime.proper_of_ticks counted positive
  obtain ⟨-, quotient⟩ := checkedDiv_eq_some_iff.1 counted
  have division := Nat.div_add_mod q.rate.toNat divisor.toNat
  rw [← quotient] at division ⊢
  by_contra more
  obtain ⟨_, counts⟩ := div_ofWord (a := ticks) rated
  rw [meets, counts, decide_eq_true_iff] at close
  have first := quotient_near positive rated
  have drift := units_le_of_sub_abs_le bounded close
  clear counts close
  generalize toShort (ticks.toNat * oneUnits) q.rate.toNat = counts at first drift
  have second := reciprocal_near nonzero below
  have fewer : divisor.toNat < UInt32.size - 1 := by
    have whole := Nat.le_mul_of_pos_right divisor.toNat positive
    have words := q.rate.toNat_lt
    simp only [UInt32.size]
    omega
  refine more (remainder_le q.rate.toNat_lt division.symm nonzero first second ?_ drift tight)
  omega

end Quantizer

/-- The divisors of a valid rate that durations are given: those that leave less than half of the
tick count, at every tolerance, and at a small one none that leaves more. -/
theorem Config.divisors_accepted {config : Config} (valid : config.validate = .ok ()) :
    (∀ divisor : UInt32, 2 ≤ divisor.toNat →
      2 * (config.rate.toNat % divisor.toNat) < config.rate.toNat / divisor.toNat →
        ∃ seconds, ∀ recipe, Quantizer.quantize ⟨config.rate, config.tolerance⟩ recipe seconds =
          .ok (.divided divisor, config.rate / divisor)) ∧
    ∀ recipe seconds divisor ticks,
      Quantizer.quantize ⟨config.rate, config.tolerance⟩ recipe seconds =
        .ok (.divided divisor, ticks) →
      2 * ((2 * divisor.toNat + 1) * (config.rate.toNat * config.tolerance.units)) ≤ oneUnits →
        2 * (config.rate.toNat % divisor.toNat) ≤ config.rate.toNat / divisor.toNat := by
  obtain ⟨bounded, bound⟩ := validate_tolerance valid
  refine ⟨fun divisor two few => ?_, fun recipe seconds divisor ticks accepted tight => ?_⟩
  · exact ⟨_, Quantizer.quantize_counted (nonneg_of_not_lt bounded bound) two few⟩
  · exact Quantizer.quantize_remainder bounded accepted tight

theorem Config.divisors_accepted_odd :
    Config.validate { rate := 61 } = .ok () ∧
      ∃ seconds, Quantizer.quantize ⟨61, Config.tolerance {}⟩ "Brick" seconds =
        .ok (.divided 2, 61 / 2) ∧ 2 * (61 % 2) ≤ 61 / 2 := by
  have valid : Config.validate { rate := 61 } = .ok () := by decide +kernel
  obtain ⟨counted, remainder⟩ := divisors_accepted valid
  obtain ⟨seconds, accepted⟩ := counted 2 (by decide) (by decide)
  exact ⟨valid, seconds, accepted "Brick",
    remainder _ _ _ _ (accepted "Brick") (by decide +kernel)⟩

/-- The tick rate of sixty does not split into sevenths, and yet a duration is given one. -/
theorem Config.sixty_in_sevenths : ¬ ∀ config : Config, config.validate = .ok () →
    ∀ recipe seconds divisor ticks,
      Quantizer.quantize ⟨config.rate, config.tolerance⟩ recipe seconds =
        .ok (.divided divisor, ticks) → divisor.toNat ∣ config.rate.toNat := by
  intro splits
  have valid : Config.validate {} = .ok () := by decide +kernel
  have accepted : Quantizer.quantize ⟨Config.rate {}, Config.tolerance {}⟩ "Brick"
      (Decimal.toBinary64 false ⟨1333334, -7⟩) = .ok (.divided 7, 8) := by decide +kernel
  exact absurd (splits _ valid _ _ _ _ accepted) (by decide)

end Craftbook
