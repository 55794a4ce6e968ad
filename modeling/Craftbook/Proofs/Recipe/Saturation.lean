import Craftbook.Proofs.Recipe.Duration

/-!
Durations whose divisor or multiplier is too large for a word, so that the greatest word is taken in
its place. Main statement: such a duration is accepted at two tick rates only, the least and the
greatest one, and there exactly from a certain tolerance on.
-/
namespace Craftbook
open Binary64 Rounding

namespace Binary64

/-- Whether a number is too large for a word: it is infinite, or its nearest whole number is. -/
def saturates : Binary64 → Bool
  | .infinite negative => !negative
  | .finite false units _ => amountLimit < nearestWhole units
  | _ => false

theorem saturates_finite {m : Nat} {h : Representable m} :
    (finite false m h).saturates ↔ amountLimit < nearestWhole m := decide_eq_true_iff

theorem saturates_ofQuotient {num den : Nat} :
    (ofQuotient false num den).saturates ↔ amountLimit < nearestWhole (toShort num den) := by
  rcases Nat.lt_or_ge (toShort num den) unitLimit with fits | large
  · obtain ⟨_, is⟩ := ofQuotient_eq false (rfl : toShort num den = _) fits
    rw [is, saturates_finite]
  · have infinite : ofQuotient false num den = .infinite false := by
      unfold ofQuotient
      simp only [Nat.not_lt.2 large, dite_false]
    have most : amountLimit + 1 ≤ nearestWhole (toShort num den) := by
      have limit : 2 ^ 32 * oneUnits ≤ unitLimit := by
        unfold oneUnits unitLimit
        generalize unitPlaces = places
        simp only [Nat.pow_eq]
        rw [← Nat.pow_add]
        exact Nat.pow_le_pow_right (by decide) (by omega)
      rw [le_nearestWhole_iff, amountLimit]
      omega
    rw [infinite]
    exact iff_of_true rfl most

end Binary64

/-- What the divisor or the multiplier of a duration is rounded from. -/
def CraftTime.unrounded (seconds : Binary64) : Binary64 :=
  if seconds < 1 then 1 / seconds else seconds

namespace CraftTime
variable {m : Nat} {h : Representable m}

theorem unrounded_below (nonzero : 0 < m) (below : m < oneUnits) :
    (unrounded (finite false m h)).saturates ↔
      amountLimit < nearestWhole (toShort (oneUnits * oneUnits) m) := by
  obtain ⟨_, one⟩ := one_eq
  rw [unrounded, if_pos (lt_one_iff.2 below), one, div_eq nonzero, saturates_ofQuotient]

theorem unrounded_above (above : oneUnits ≤ m) :
    (unrounded (finite false m h)).saturates ↔ amountLimit < nearestWhole m := by
  have not_below : ¬ finite false m h < 1 := by
    rw [lt_one_iff]
    exact Nat.not_lt.2 above
  rw [unrounded, if_neg not_below, saturates_finite]

theorem nearest?_saturated_below (nonzero : 0 < m) (below : m < oneUnits)
    (large : (unrounded (finite false m h)).saturates) :
    nearest? (finite false m h) = some (.divided 4294967295) := by
  rw [unrounded_below nonzero below] at large
  have word : (1 / finite false m h).toWord = 4294967295 := by
    rw [← UInt32.toNat_inj, toWord_reciprocal nonzero]
    exact Nat.min_eq_right large.le
  rw [nearest?_below nonzero below, word]

theorem one_lt_of_saturates (above : oneUnits ≤ m)
    (large : (unrounded (finite false m h)).saturates) : oneUnits < m := by
  rw [unrounded_above above] at large
  by_contra same
  have one : m = 1 * oneUnits := by omega
  rw [one, nearestWhole_whole] at large
  exact absurd large (by decide)

theorem nearest?_saturated_above (above : oneUnits < m)
    (large : (unrounded (finite false m h)).saturates) :
    nearest? (finite false m h) = some (.multiplied 4294967295) := by
  rw [unrounded_above above.le] at large
  have word : (finite false m h).toWord = 4294967295 := by
    rw [← UInt32.toNat_inj, toWord_finite]
    exact Nat.min_eq_right large.le
  rw [nearest?_above above, word]

/-- Only the greatest rate has a tick left when it is divided by the greatest word. -/
theorem ticks?_greatest_divisor {rate ticks : UInt32} :
    (divided 4294967295).ticks? rate = some ticks ∧ 0 < ticks.toNat ↔
      rate = 4294967295 ∧ ticks = 1 := by
  have word := rate.toNat_lt
  have greatest : (4294967295 : UInt32).toNat = 4294967295 := rfl
  have one : (1 : UInt32).toNat = 1 := rfl
  rw [ticks?, checkedDiv_eq_some_iff, ← UInt32.toNat_inj (a := rate), ← UInt32.toNat_inj, greatest,
    one]
  have nonzero : (4294967295 : UInt32) ≠ 0 := by decide
  simp only [ne_eq, nonzero, not_false_eq_true, true_and]
  omega

/-- Only at the least rate does a word hold the product with the greatest word. -/
theorem ticks?_greatest_multiplier {rate ticks : UInt32} :
    (multiplied 4294967295).ticks? rate = some ticks ∧ 0 < ticks.toNat ↔
      rate = 1 ∧ ticks = 4294967295 := by
  have word := ticks.toNat_lt
  have greatest : (4294967295 : UInt32).toNat = 4294967295 := rfl
  have one : (1 : UInt32).toNat = 1 := rfl
  rw [ticks?, checkedMul_eq_some_iff, ← UInt32.toNat_inj (a := rate), ← UInt32.toNat_inj, greatest,
    one]
  omega

end CraftTime

namespace Quantizer
variable {q : Quantizer}

/-- The greatest word counts a positive word of ticks as a multiplier at the least rate only, and as
a divisor at the greatest rate only. -/
theorem quantize_saturated_below {recipe : String} {m : Nat} {h : Representable m}
    {time : CraftTime} {ticks : UInt32} (nonzero : 0 < m) (below : m < oneUnits)
    (large : (CraftTime.unrounded (finite false m h)).saturates) :
    q.quantize recipe (finite false m h) = .ok (time, ticks) ↔
      q.rate = 4294967295 ∧ time = .divided 4294967295 ∧ ticks = 1 ∧
        q.meets 1 (finite false m h) := by
  rw [quantize_eq_ok_iff, CraftTime.nearest?_saturated_below nonzero below large]
  constructor
  · rintro ⟨form, counted, positive, close⟩
    cases form
    obtain ⟨rate, rfl⟩ := CraftTime.ticks?_greatest_divisor.1 ⟨counted, positive⟩
    exact ⟨rate, rfl, rfl, close⟩
  · rintro ⟨rate, rfl, rfl, close⟩
    obtain ⟨counted, positive⟩ := CraftTime.ticks?_greatest_divisor.2 ⟨rate, rfl⟩
    exact ⟨rfl, counted, positive, close⟩

theorem quantize_saturated_above {recipe : String} {m : Nat} {h : Representable m}
    {time : CraftTime} {ticks : UInt32} (above : oneUnits < m)
    (large : (CraftTime.unrounded (finite false m h)).saturates) :
    q.quantize recipe (finite false m h) = .ok (time, ticks) ↔
      q.rate = 1 ∧ time = .multiplied 4294967295 ∧ ticks = 4294967295 ∧
        q.meets 4294967295 (finite false m h) := by
  rw [quantize_eq_ok_iff, CraftTime.nearest?_saturated_above above large]
  constructor
  · rintro ⟨form, counted, positive, close⟩
    cases form
    obtain ⟨rate, rfl⟩ := CraftTime.ticks?_greatest_multiplier.1 ⟨counted, positive⟩
    exact ⟨rate, rfl, rfl, close⟩
  · rintro ⟨rate, rfl, rfl, close⟩
    obtain ⟨counted, positive⟩ := CraftTime.ticks?_greatest_multiplier.2 ⟨rate, rfl⟩
    exact ⟨rfl, counted, positive, close⟩

/-- The longest duration whose reciprocal no word is nearest to. -/
theorem saturated_le {m : Nat} (hm : Representable m) (nonzero : 0 < m) (below : m < oneUnits)
    (large : amountLimit < nearestWhole (toShort (oneUnits * oneUnits) m)) :
    m ≤ (2 ^ 33 + 1) * 2 ^ (unitPlaces - 65) := by
  by_contra more
  have pieces : 2 ^ (unitPlaces - 65) = 2 ^ 19 * 2 ^ (unitPlaces - 84) := by
    rw [← Nat.pow_add, (by decide : 19 + (unitPlaces - 84) = unitPlaces - 65)]
  have one : oneUnits = 2 ^ 84 * 2 ^ (unitPlaces - 84) := oneUnits_eq (by decide)
  have bound := divided_le (reciprocal_near nonzero below) (Nat.succ_le_of_lt large)
  -- The next longer number has a reciprocal that is out of reach of the half, even when rounded.
  have longer : ((2 ^ 33 + 1) * 2 ^ 19 + 1) * 2 ^ (unitPlaces - 84) ≤ m := by
    have step := Nat.two_pow_pos (unitPlaces - 84)
    rw [pieces] at more
    apply next_le_of_short hm.2
    · omega
    · omega
  rw [one, amountLimit] at bound
  generalize 2 ^ (unitPlaces - 84) = weight at bound longer
  omega

theorem duration_seconds (rate : q.rate = 1) :
    0 < q.rate.toNat ∧ q.duration 4294967295 = 4294967295 * oneUnits := by
  have one : q.rate.toNat = 1 := by
    rw [rate]
    rfl
  have rated : 0 < q.rate.toNat := by omega
  have greatest : (4294967295 : UInt32).toNat = 4294967295 := rfl
  refine ⟨rated, ?_⟩
  rw [← greatest]
  apply duration_product rated
  rw [one, Nat.one_mul]

theorem duration_tick (rate : q.rate = 4294967295) :
    0 < q.rate.toNat ∧ q.duration 1 = (2 ^ 33 + 2) * 2 ^ (unitPlaces - 65) := by
  have tick : toShort ((1 : UInt32).toNat * oneUnits) (4294967295 : UInt32).toNat =
      (2 ^ 33 + 2) * 2 ^ (unitPlaces - 65) := by
    decide +kernel
  rw [duration, rate]
  exact ⟨by decide, tick⟩

theorem half_le_tolerance {m : Nat} {h : Representable m} (bounded : q.tolerance.isFinite)
    (rate : q.rate = 1) (large : amountLimit < nearestWhole m)
    (close : q.meets 4294967295 (finite false m h)) : 1 / 2 ≤ q.tolerance.value := by
  obtain ⟨rated, counted⟩ := duration_seconds rate
  have one : oneUnits = 2 ^ 1 * 2 ^ (unitPlaces - 1) := oneUnits_eq (by decide)
  have reach := le_nearestWhole_iff.1 (Nat.succ_le_of_lt large)
  have far : 2 ^ (unitPlaces - 1) ≤ ((q.duration 4294967295 : Int) - m).natAbs := by
    rw [counted, one]
    rw [one, amountLimit] at reach
    generalize 2 ^ (unitPlaces - 1) = half at reach ⊢
    omega
  have short : Short (2 ^ (unitPlaces - 1)) := short_two_pow _
  rw [meets_iff rated] at close
  have least := le_value_of_distance bounded short far close
  rwa [two_pow_value (by decide), pow_one] at least

theorem tick_le_tolerance {m : Nat} {h : Representable m} (bounded : q.tolerance.isFinite)
    (rate : q.rate = 4294967295) (nonzero : 0 < m) (below : m < oneUnits)
    (large : amountLimit < nearestWhole (toShort (oneUnits * oneUnits) m))
    (close : q.meets 1 (finite false m h)) : 1 / 2 ^ 65 ≤ q.tolerance.value := by
  obtain ⟨rated, counted⟩ := duration_tick rate
  have longest := saturated_le h nonzero below large
  have far : 2 ^ (unitPlaces - 65) ≤ ((q.duration 1 : Int) - m).natAbs := by
    rw [counted]
    generalize 2 ^ (unitPlaces - 65) = weight at longest ⊢
    omega
  rw [meets_iff rated] at close
  have least := le_value_of_distance bounded (short_two_pow _) far close
  rwa [two_pow_value (by decide)] at least

/-- Half a second less than the seconds that a word cannot hold. -/
theorem exists_saturated_above (bounded : q.tolerance.isFinite) (rate : q.rate = 1)
    (wide : 1 / 2 ≤ q.tolerance.value) (recipe : String) :
    ∃ seconds, (CraftTime.unrounded seconds).saturates ∧
      q.quantize recipe seconds = .ok (.multiplied 4294967295, 4294967295) := by
  obtain ⟨rated, counted⟩ := duration_seconds rate
  have one : oneUnits = 2 ^ 1 * 2 ^ (unitPlaces - 1) := oneUnits_eq (by decide)
  have h : Representable ((2 ^ 33 - 1) * 2 ^ (unitPlaces - 1)) := by decide +kernel
  have above : oneUnits < (2 ^ 33 - 1) * 2 ^ (unitPlaces - 1) := by decide +kernel
  have large : amountLimit < nearestWhole ((2 ^ 33 - 1) * 2 ^ (unitPlaces - 1)) := by
    decide +kernel
  have saturates := (CraftTime.unrounded_above (h := h) above.le).2 large
  refine ⟨_, saturates, (quantize_saturated_above above saturates).2 ⟨rate, rfl, rfl, ?_⟩⟩
  have distance :
      ((q.duration 4294967295 : Int) - ((2 ^ 33 - 1) * 2 ^ (unitPlaces - 1) : Nat)).natAbs =
        2 ^ (unitPlaces - 1) := by
    rw [counted, one]
    generalize 2 ^ (unitPlaces - 1) = half
    omega
  rw [meets_iff rated, sub_abs_le_iff_value bounded (short_two_pow _) distance,
    two_pow_value (by decide), pow_one]
  exact wide

theorem exists_saturated_below (bounded : q.tolerance.isFinite) (rate : q.rate = 4294967295)
    (wide : 1 / 2 ^ 65 ≤ q.tolerance.value) (recipe : String) :
    ∃ seconds, (CraftTime.unrounded seconds).saturates ∧
      q.quantize recipe seconds = .ok (.divided 4294967295, 1) := by
  obtain ⟨rated, counted⟩ := duration_tick rate
  have h : Representable ((2 ^ 33 + 1) * 2 ^ (unitPlaces - 65)) := by decide +kernel
  have nonzero : 0 < (2 ^ 33 + 1) * 2 ^ (unitPlaces - 65) := by decide +kernel
  have below : (2 ^ 33 + 1) * 2 ^ (unitPlaces - 65) < oneUnits := by decide +kernel
  have large : amountLimit < nearestWhole
      (toShort (oneUnits * oneUnits) ((2 ^ 33 + 1) * 2 ^ (unitPlaces - 65))) := by
    decide +kernel
  have saturates := (CraftTime.unrounded_below (h := h) nonzero below).2 large
  refine ⟨_, saturates, (quantize_saturated_below nonzero below saturates).2 ⟨rate, rfl, rfl, ?_⟩⟩
  have distance : ((q.duration 1 : Int) - ((2 ^ 33 + 1) * 2 ^ (unitPlaces - 65) : Nat)).natAbs =
      2 ^ (unitPlaces - 65) := by
    rw [counted]
    generalize 2 ^ (unitPlaces - 65) = weight
    omega
  rw [meets_iff rated, sub_abs_le_iff_value bounded (short_two_pow _) distance,
    two_pow_value (by decide)]
  exact wide

theorem exists_saturated_iff (bounded : q.tolerance.isFinite) :
    (∃ recipe seconds result, (CraftTime.unrounded seconds).saturates ∧
      q.quantize recipe seconds = .ok result) ↔
      (q.rate = 1 ∧ 1 / 2 ≤ q.tolerance.value) ∨
        q.rate = 4294967295 ∧ 1 / 2 ^ 65 ≤ q.tolerance.value := by
  constructor
  · rintro ⟨recipe, seconds, ⟨time, ticks⟩, saturates, accepted⟩
    have ⟨nearest, _⟩ := quantize_eq_ok_iff.1 accepted
    obtain ⟨m, h, rfl, nonzero⟩ := CraftTime.positive_of_nearest? nearest
    rcases Nat.lt_or_ge m oneUnits with below | above
    · have ⟨rate, _, _, close⟩ := (quantize_saturated_below nonzero below saturates).1 accepted
      have large := (CraftTime.unrounded_below nonzero below).1 saturates
      exact .inr ⟨rate, tick_le_tolerance bounded rate nonzero below large close⟩
    · have more := CraftTime.one_lt_of_saturates above saturates
      have ⟨rate, _, _, close⟩ := (quantize_saturated_above more saturates).1 accepted
      have large := (CraftTime.unrounded_above above).1 saturates
      exact .inl ⟨rate, half_le_tolerance bounded rate large close⟩
  · rintro (⟨rate, wide⟩ | ⟨rate, wide⟩)
    · obtain ⟨seconds, saturates, accepted⟩ := exists_saturated_above bounded rate wide "Brick"
      exact ⟨_, seconds, _, saturates, accepted⟩
    · obtain ⟨seconds, saturates, accepted⟩ := exists_saturated_below bounded rate wide "Brick"
      exact ⟨_, seconds, _, saturates, accepted⟩

end Quantizer

/-- A valid pass accepts a duration that is cut to the greatest word at two rates only: at the least
rate with half a second of tolerance, and at the greatest rate with hardly any. -/
theorem Config.saturated_accepted_iff {config : Config} (valid : config.validate = .ok ()) :
    (∃ recipe seconds result, (CraftTime.unrounded seconds).saturates ∧
      Quantizer.quantize ⟨config.rate, config.tolerance⟩ recipe seconds = .ok result) ↔
      (config.rate = 1 ∧ 1 / 2 ≤ config.tolerance.value) ∨
        config.rate = 4294967295 ∧ 1 / 2 ^ 65 ≤ config.tolerance.value := by
  obtain ⟨bounded, -⟩ := validate_tolerance valid
  exact Quantizer.exists_saturated_iff (q := ⟨config.rate, config.tolerance⟩) bounded

theorem Config.saturated_accepted_greatest :
    Config.validate { rate := 4294967295 } = .ok () ∧
      ∃ recipe seconds result, (CraftTime.unrounded seconds).saturates ∧
        Quantizer.quantize ⟨4294967295, Config.tolerance {}⟩ recipe seconds = .ok result := by
  have valid : Config.validate { rate := 4294967295 } = .ok () := by decide +kernel
  have small : ∃ h, finite false (2 ^ (unitPlaces - 65)) h ≤ Config.tolerance {} := by
    decide +kernel
  have wide : 1 / 2 ^ 65 ≤ (Config.tolerance {}).value := by
    obtain ⟨_, small⟩ := small
    rwa [le_iff_value (by decide +kernel), two_pow_value (by decide)] at small
  exact ⟨valid, (saturated_accepted_iff valid).2 (.inr ⟨rfl, wide⟩)⟩

/-- At the greatest tick rate, a duration of less than half a tick is given a whole one. -/
theorem Config.saturated_accepted_default : ¬ ∀ config : Config, config.validate = .ok () →
    ∀ recipe seconds result,
      Quantizer.quantize ⟨config.rate, config.tolerance⟩ recipe seconds = .ok result →
        ¬ (CraftTime.unrounded seconds).saturates := by
  intro rejected
  have valid : Config.validate { rate := 4294967295 } = .ok () := by decide +kernel
  have accepted : Quantizer.quantize ⟨4294967295, Config.tolerance {}⟩ "Brick"
      (Decimal.toBinary64 false ⟨1, -10⟩) = .ok (.divided 4294967295, 1) := by decide +kernel
  have large : (CraftTime.unrounded (Decimal.toBinary64 false ⟨1, -10⟩)).saturates := by
    decide +kernel
  exact rejected _ valid _ _ _ accepted large

end Craftbook
