import Craftbook.Proofs.Recipe.Duration

/-!
The form that is chosen for a duration, against all forms that would meet it. Main statement: from
a second on, and below it against a second and more, the chosen form meets the duration whenever
another one does and its ticks can be counted; against a fraction of a second it does so while the
reciprocal of the duration rounds to the greatest divisor that leaves as many ticks.
-/
namespace Craftbook
open Binary64 Rounding

namespace Binary64

theorem nearestWhole_closest (m k : Nat) :
    (((nearestWhole m * oneUnits : Nat) : Int) - m).natAbs ≤
      (((k * oneUnits : Nat) : Int) - m).natAbs := by
  have lower := le_nearestWhole_iff.1 (Nat.le_refl (nearestWhole m))
  have upper := nearestWhole_le_iff.1 (Nat.le_refl (nearestWhole m))
  generalize nearestWhole m = whole at lower upper ⊢
  rcases Nat.lt_trichotomy k whole with less | rfl | more
  · have apart := Nat.mul_le_mul_right oneUnits (Nat.succ_le_of_lt less)
    rw [Nat.succ_mul] at apart
    generalize oneUnits = one at *
    omega
  · exact Nat.le_refl _
  · have apart := Nat.mul_le_mul_right oneUnits (Nat.succ_le_of_lt more)
    rw [Nat.succ_mul] at apart
    generalize oneUnits = one at *
    omega

/-- No word is closer to a number than the word that the number is rounded to. -/
theorem nearestWord_closest (m : Nat) {k : Nat} (word : k ≤ amountLimit) :
    (((min (nearestWhole m) amountLimit * oneUnits : Nat) : Int) - m).natAbs ≤
      (((k * oneUnits : Nat) : Int) - m).natAbs := by
  rcases Nat.lt_or_ge amountLimit (nearestWhole m) with large | fits
  · -- The number lies above the greatest word, and the other words below it.
    have least := le_nearestWhole_iff.1 (Nat.succ_le_of_lt large)
    have less := Nat.mul_le_mul_right oneUnits word
    rw [Nat.succ_mul amountLimit] at least
    generalize nearestWhole m = whole at large ⊢
    rw [Nat.min_eq_right large.le]
    generalize oneUnits = one at *
    omega
  · rw [Nat.min_eq_left fits]
    exact nearestWhole_closest m k

/-- A duration whose reciprocal rounds to two or more is about two thirds of a second at most. -/
theorem twice_le_of_reciprocal {m : Nat} (short : Short m) (nonzero : 0 < m)
    (two : 2 ≤ nearestWhole (toShort (oneUnits * oneUnits) m)) :
    2 * m ≤ oneUnits + toShort oneUnits 3 := by
  have third : 2 * toShort oneUnits 3 = 6004799503160661 * 2 ^ (unitPlaces - 53) := by
    decide +kernel
  have one : oneUnits = 2 ^ 53 * 2 ^ (unitPlaces - 53) := oneUnits_eq (by decide)
  have next : nearestWhole (toShort (oneUnits * oneUnits)
      ((6004799503160661 + 1) * 2 ^ (unitPlaces - 53))) ≤ 1 := by decide +kernel
  by_contra long
  -- The next longer number than two thirds already has a reciprocal that rounds down.
  have more : (6004799503160661 + 1) * 2 ^ (unitPlaces - 53) ≤ m := by
    generalize toShort oneUnits 3 = last at long third
    rw [one] at long
    apply next_le_of_short short
    · generalize 2 ^ (unitPlaces - 53) = weight at long third ⊢
      linarith
    · generalize 2 ^ (unitPlaces - 53) = weight at long third ⊢
      linarith
  have positive : 0 < (6004799503160661 + 1) * 2 ^ (unitPlaces - 53) :=
    Nat.mul_pos (by decide) (Nat.two_pow_pos _)
  have order := nearestWhole_mono
    (toShort_mono nonzero positive (Nat.mul_le_mul_left (oneUnits * oneUnits) more))
  exact absurd (Nat.le_trans two (Nat.le_trans order next)) (by decide)

theorem and_half_pos (n : Nat) : (0 : ℚ) < n + 1 / 2 := by positivity

/-- Above the reciprocal of a half, by more than rounding, the reciprocal is rounded down. -/
theorem reciprocal_le_of_lt {m n : Nat} (nonzero : 0 < m) (below : m < oneUnits)
    (above : 1 / ((n : ℚ) + 1 / 2) < m / oneUnits * (1 - 1 / 2 ^ 52)) :
    nearestWhole (toShort (oneUnits * oneUnits) m) ≤ n := by
  by_contra more
  have bound := divided_le (reciprocal_near nonzero below) (Nat.lt_of_not_le more)
  have unit := oneUnits_rat_pos
  rw [div_lt_iff₀ (and_half_pos n), div_mul_eq_mul_div, div_mul_eq_mul_div, lt_div_iff₀ unit]
    at above
  generalize oneUnits = one at bound unit above
  have rational : (2 * (n + 1) * m * 2 ^ 53 : ℚ) ≤ 2 * one * 2 ^ 53 + 2 * one + m * 2 ^ 53 := by
    exact_mod_cast bound
  linarith

/-- Below the reciprocal of a half, by more than rounding, the reciprocal is rounded up. -/
theorem lt_reciprocal_of_lt {m n : Nat} (nonzero : 0 < m) (below : m < oneUnits)
    (under : m / oneUnits * (1 + 1 / 2 ^ 52) < 1 / ((n : ℚ) + 1 / 2)) :
    n < nearestWhole (toShort (oneUnits * oneUnits) m) := by
  by_contra less
  have bound := le_divided nonzero (reciprocal_near nonzero below) (Nat.le_of_not_lt less)
  have unit := oneUnits_rat_pos
  rw [lt_div_iff₀ (and_half_pos n), div_mul_eq_mul_div, div_mul_eq_mul_div, div_lt_iff₀ unit]
    at under
  generalize oneUnits = one at bound unit under
  have rational : (2 * one * 2 ^ 53 : ℚ) ≤ (2 * n + 1) * m * 2 ^ 53 + 2 * one := by
    exact_mod_cast bound
  linarith

end Binary64

/-- Divided by what it leaves, a number leaves what it was divided to. -/
theorem div_quotient {rate n : Nat} (counted : 0 < rate / n) :
    rate / (rate / (rate / n)) = rate / n := by
  have divisor : n ≤ rate / (rate / n) := by
    rw [Nat.le_div_iff_mul_le counted]
    exact Nat.mul_div_le rate n
  have positive := (Nat.div_pos_iff.1 counted).1
  apply Nat.le_antisymm
  · exact Nat.div_le_div_left divisor positive
  · rw [Nat.le_div_iff_mul_le (Nat.lt_of_lt_of_le positive divisor)]
    exact Nat.mul_div_le rate (rate / n)

namespace Quantizer
variable {q : Quantizer} {ticks : UInt32} {m : Nat} {h : Representable m}

/-- A form counts ticks at the rate, and they meet a duration. -/
structure Passes (q : Quantizer) (time : CraftTime) (ticks : UInt32) (seconds : Binary64) :
    Prop where
  counted : time.ticks? q.rate = some ticks
  positive : 0 < ticks.toNat
  close : q.meets ticks seconds

theorem quantize_eq_ok_iff_passes {recipe : String} {seconds : Binary64} {time : CraftTime} :
    q.quantize recipe seconds = .ok (time, ticks) ↔
      CraftTime.nearest? seconds = some time ∧ q.Passes time ticks seconds := by
  rw [quantize_eq_ok_iff]
  constructor
  · rintro ⟨nearest, counted, positive, close⟩
    exact ⟨nearest, counted, positive, close⟩
  · rintro ⟨nearest, passes⟩
    exact ⟨nearest, passes.counted, passes.positive, passes.close⟩

theorem accepted_iff {recipe : String} {seconds : Binary64} {time : CraftTime}
    (nearest : CraftTime.nearest? seconds = some time) :
    (∃ result, q.quantize recipe seconds = .ok result) ↔ ∃ ticks, q.Passes time ticks seconds := by
  constructor
  · rintro ⟨⟨other, ticks⟩, accepted⟩
    obtain ⟨same, passes⟩ := quantize_eq_ok_iff_passes.1 accepted
    obtain rfl : time = other := Option.some.inj (nearest.symm.trans same)
    exact ⟨ticks, passes⟩
  · rintro ⟨ticks, passes⟩
    exact ⟨_, quantize_eq_ok_iff_passes.2 ⟨nearest, passes⟩⟩

/-- What a form counts lasts whole seconds, or a second at most. -/
theorem duration_form {time : CraftTime} (counted : time.ticks? q.rate = some ticks)
    (positive : 0 < ticks.toNat) :
    (∃ n : UInt32, q.duration ticks = n.toNat * oneUnits) ∨ q.duration ticks ≤ oneUnits := by
  obtain ⟨rated, -⟩ := CraftTime.proper_of_ticks counted positive
  cases time with
  | base =>
    obtain rfl : q.rate = ticks := Option.some.inj counted
    exact .inr (duration_rate rated).le
  | divided divisor =>
    obtain ⟨-, quotient⟩ := checkedDiv_eq_some_iff.1 counted
    rw [quotient] at positive
    exact .inr (duration_le_one rated (quotient ▸ Nat.div_le_self _ _))
  | multiplied n =>
    exact .inl ⟨n, duration_product rated (checkedMul_eq_some_iff.1 counted)⟩

/-- The nearest word of seconds is at least as close to a second or more as any form. -/
theorem second_closest {time : CraftTime} (above : oneUnits ≤ m)
    (counted : time.ticks? q.rate = some ticks) (positive : 0 < ticks.toNat) :
    ((((finite false m h).toWord.toNat * oneUnits : Nat) : Int) - m).natAbs ≤
      ((q.duration ticks : Int) - m).natAbs := by
  have word (k : Nat) (fits : k ≤ amountLimit) :
      ((((finite false m h).toWord.toNat * oneUnits : Nat) : Int) - m).natAbs ≤
        (((k * oneUnits : Nat) : Int) - m).natAbs := by
    rw [toWord_finite]
    exact nearestWord_closest m fits
  rcases duration_form counted positive with ⟨n, whole⟩ | short
  · rw [whole]
    exact word _ (Nat.le_of_lt_succ n.toNat_lt)
  · have single := word 1 (by decide)
    rw [Nat.one_mul] at single
    generalize q.duration ticks = last at short ⊢
    generalize oneUnits = one at *
    omega

theorem accepted_second_iff {recipe : String} {time : CraftTime} (above : oneUnits ≤ m)
    (passes : q.Passes time ticks (finite false m h)) :
    (∃ result, q.quantize recipe (finite false m h) = .ok result) ↔
      q.rate.toNat * (finite false m h).toWord.toNat ≤ amountLimit := by
  obtain ⟨rated, -⟩ := CraftTime.proper_of_ticks passes.counted passes.positive
  obtain ⟨form, nearest, counts⟩ := CraftTime.nearest?_second above (h := h)
  rw [accepted_iff nearest]
  constructor
  · rintro ⟨ticks, passes⟩
    rw [← (counts _ _).1 passes.counted]
    exact Nat.le_of_lt_succ ticks.toNat_lt
  · intro fits
    have product : (UInt32.ofNat (q.rate.toNat * (finite false m h).toWord.toNat)).toNat =
        q.rate.toNat * (finite false m h).toWord.toNat :=
      word_toNat fits
    refine ⟨_, (counts _ _).2 product, ?_, meets_of_closer rated ?_ passes.close⟩
    · rw [product]
      exact Nat.mul_pos rated (word_pos above)
    · rw [duration_product rated product]
      exact second_closest above passes.counted passes.positive

/-- What the divisor of a duration counts does not leave it farther away than a second is. -/
theorem twice_le_duration (rated : 0 < q.rate.toNat) (nonzero : 0 < m) (below : m < oneUnits)
    (fits : (1 / finite false m h).toWord.toNat ≤ q.rate.toNat)
    (counted : ticks.toNat = q.rate.toNat / (1 / finite false m h).toWord.toNat) :
    2 * m ≤ oneUnits + q.duration ticks := by
  have whole := reciprocal_word_pos (h := h) nonzero below
  have second := reciprocal_near nonzero below
  rw [toWord_reciprocal nonzero] at fits counted whole
  rcases Nat.lt_trichotomy (nearestWhole (toShort (oneUnits * oneUnits) m)) 2 with
    one | two | three
  · have single : min (nearestWhole (toShort (oneUnits * oneUnits) m)) (UInt32.size - 1) = 1 :=
      Nat.le_antisymm (Nat.le_trans (Nat.min_le_left _ _) (Nat.le_of_lt_succ one)) whole
    rw [single, Nat.div_one] at counted
    obtain rfl : ticks = q.rate := UInt32.toNat_inj.1 counted
    rw [duration_rate rated]
    omega
  · rw [two] at counted fits
    have half : ticks.toNat = q.rate.toNat / 2 := counted
    have third : toShort oneUnits 3 ≤ q.duration ticks := by
      apply toShort_mono (by decide) rated
      rw [Nat.mul_right_comm, Nat.mul_comm]
      apply Nat.mul_le_mul_right
      simp only [UInt32.size] at fits
      omega
    have short := twice_le_of_reciprocal h.2 nonzero two.ge
    exact Nat.le_trans short (Nat.add_le_add_left third _)
  · have short := divided_le second (Nat.succ_le_of_lt three)
    linarith

theorem accepted_below_iff {recipe : String} {time : CraftTime} (nonzero : 0 < m)
    (below : m < oneUnits) (passes : q.Passes time ticks (finite false m h))
    (many : q.rate.toNat ≤ ticks.toNat) :
    (∃ result, q.quantize recipe (finite false m h) = .ok result) ↔
      (1 / finite false m h).toWord.toNat ≤ q.rate.toNat := by
  obtain ⟨rated, -⟩ := CraftTime.proper_of_ticks passes.counted passes.positive
  have whole := reciprocal_word_pos (h := h) nonzero below
  rw [accepted_iff (CraftTime.nearest?_below nonzero below)]
  constructor
  · rintro ⟨ticks, counted, positive, -⟩
    rw [(CraftTime.ticks?_divided_iff whole).1 counted] at positive
    exact (Nat.div_pos_iff.1 positive).2
  · intro fits
    have quotient : (q.rate / (1 / finite false m h).toWord).toNat =
        q.rate.toNat / (1 / finite false m h).toWord.toNat := UInt32.toNat_div _ _
    refine ⟨q.rate / (1 / finite false m h).toWord,
      (CraftTime.ticks?_divided_iff whole).2 quotient, ?_, meets_of_closer rated ?_ passes.close⟩
    · rw [quotient]
      exact Nat.div_pos fits whole
    · -- The second lies beyond the duration, and what is counted up to it.
      have twice := twice_le_duration rated nonzero below fits quotient
      have short := duration_le_one rated (quotient ▸ Nat.div_le_self _ _)
      have long := duration_mono rated many
      rw [duration_rate rated] at long
      generalize q.duration ticks = last at long ⊢
      generalize q.duration (q.rate / (1 / finite false m h).toWord) = chosen at twice short ⊢
      generalize oneUnits = one at *
      omega

theorem Passes.quotient {time : CraftTime} {seconds : Binary64}
    (passes : q.Passes time ticks seconds) (few : ticks.toNat < q.rate.toNat) :
    q.rate.toNat / (q.rate.toNat / ticks.toNat) = ticks.toNat := by
  obtain ⟨counted, positive, -⟩ := passes
  obtain ⟨-, proper⟩ := CraftTime.proper_of_ticks counted positive
  cases time with
  | base =>
    obtain rfl : q.rate = ticks := Option.some.inj counted
    exact absurd few (Nat.lt_irrefl _)
  | divided divisor =>
    obtain ⟨-, quotient⟩ := checkedDiv_eq_some_iff.1 counted
    rw [quotient] at positive ⊢
    exact div_quotient positive
  | multiplied n =>
    have product := checkedMul_eq_some_iff.1 counted
    have many := Nat.le_mul_of_pos_right q.rate.toNat proper
    omega

theorem quantize_divided {recipe : String} {time : CraftTime} (nonzero : 0 < m)
    (below : m < oneUnits) (passes : q.Passes time ticks (finite false m h))
    (few : ticks.toNat < q.rate.toNat)
    (above : 1 / (((q.rate / ticks).toNat : ℚ) + 1 / 2) < m / oneUnits * (1 - 1 / 2 ^ 52))
    (under : m / oneUnits * (1 + 1 / 2 ^ 52) < 1 / (((q.rate / ticks).toNat : ℚ) - 1 / 2)) :
    q.quantize recipe (finite false m h) = .ok (.divided (q.rate / ticks), ticks) := by
  have quotient : (q.rate / ticks).toNat = q.rate.toNat / ticks.toNat := UInt32.toNat_div _ _
  have whole : 0 < (q.rate / ticks).toNat := by
    rw [quotient]
    exact Nat.div_pos few.le passes.positive
  have last :
      (((q.rate / ticks).toNat - 1 : Nat) : ℚ) + 1 / 2 = (q.rate / ticks).toNat - 1 / 2 := by
    rw [Nat.cast_pred whole]
    linarith
  rw [← last] at under
  have least := lt_reciprocal_of_lt nonzero below under
  have most := reciprocal_le_of_lt nonzero below above
  have word : (1 / finite false m h).toWord = q.rate / ticks := by
    have small := (q.rate / ticks).toNat_lt
    rw [← UInt32.toNat_inj, toWord_reciprocal nonzero]
    simp only [UInt32.size]
    omega
  rw [quantize_eq_ok_iff_passes, CraftTime.nearest?_below nonzero below, word]
  refine ⟨rfl, (CraftTime.ticks?_divided_iff whole).2 ?_, passes.positive, passes.close⟩
  rw [quotient, passes.quotient few]

/-- How much longer the greater of two tick counts lasts, in ticks. -/
theorem duration_gap (rated : 0 < q.rate.toNat) (positive : 0 < ticks.toNat)
    (less : ticks.toNat < ticks'.toNat) : 1 - 1 / 2 ^ 20 ≤
      ((q.duration ticks' : ℚ) / oneUnits - q.duration ticks / oneUnits) * q.rate.toNat := by
  have first := abs_le.1 (duration_error rated positive)
  have second := abs_le.1 (duration_error rated (Nat.lt_trans positive less))
  have step : (ticks.toNat : ℚ) + 1 ≤ ticks'.toNat := by exact_mod_cast less
  have small : (ticks'.toNat : ℚ) < 2 ^ 32 := by exact_mod_cast ticks'.toNat_lt
  rw [sub_mul]
  linarith

theorem le_of_meets (rated : 0 < q.rate.toNat) (bounded : q.tolerance.isFinite)
    (nonneg : 0 ≤ q.tolerance) (tight : 2 * q.tolerance.value * q.rate.toNat ≤ 1 - 1 / 2 ^ 16)
    (positive : 0 < ticks.toNat) (close : q.meets ticks (finite false m h))
    (close' : q.meets ticks' (finite false m h)) : ticks'.toNat ≤ ticks.toNat := by
  by_contra more
  have gap := duration_gap rated positive (Nat.lt_of_not_le more)
  rw [meets_iff rated] at close close'
  have drift := abs_le.1 (value_sub_le bounded nonneg close)
  have drift' := abs_le.1 (value_sub_le bounded nonneg close')
  have wide := mul_le_mul_of_nonneg_right (sub_le_sub drift'.2 drift.1)
    (Nat.cast_nonneg q.rate.toNat)
  linarith

/-- At a tolerance of less than half a tick, the chosen form has to count the same ticks. -/
theorem accepted_tight_iff {recipe : String} {time : CraftTime} (nonzero : 0 < m)
    (below : m < oneUnits) (passes : q.Passes time ticks (finite false m h))
    (bounded : q.tolerance.isFinite) (nonneg : 0 ≤ q.tolerance)
    (tight : 2 * q.tolerance.value * q.rate.toNat ≤ 1 - 1 / 2 ^ 16) :
    (∃ result, q.quantize recipe (finite false m h) = .ok result) ↔
      q.rate.toNat / (1 / finite false m h).toWord.toNat = ticks.toNat := by
  obtain ⟨rated, -⟩ := CraftTime.proper_of_ticks passes.counted passes.positive
  have whole := reciprocal_word_pos (h := h) nonzero below
  rw [accepted_iff (CraftTime.nearest?_below nonzero below)]
  constructor
  · rintro ⟨ticks', passes'⟩
    rw [← (CraftTime.ticks?_divided_iff whole).1 passes'.counted]
    apply Nat.le_antisymm
    · exact le_of_meets rated bounded nonneg tight passes.positive passes.close passes'.close
    · exact le_of_meets rated bounded nonneg tight passes'.positive passes'.close passes.close
  · intro quotient
    have counted := (CraftTime.ticks?_divided_iff whole).2 quotient.symm
    exact ⟨ticks, counted, passes.positive, passes.close⟩

/-- Whole ticks are given their divisor where it leaves less than half of them. -/
theorem quantize_ticks {time : CraftTime} {seconds : Binary64} (nonneg : 0 ≤ q.tolerance)
    (passes : q.Passes time ticks seconds) (few : ticks.toNat < q.rate.toNat)
    (small : 2 * (q.rate.toNat % ticks.toNat) < ticks.toNat) (recipe : String) :
    q.quantize recipe (ofWord ticks / ofWord q.rate) = .ok (.divided (q.rate / ticks), ticks) := by
  have divisor : (q.rate / ticks).toNat = q.rate.toNat / ticks.toNat := UInt32.toNat_div _ _
  have quotient := passes.quotient few
  have counted : q.rate / (q.rate / ticks) = ticks := by
    rw [← UInt32.toNat_inj, UInt32.toNat_div, divisor, quotient]
  have two : 2 ≤ q.rate.toNat / ticks.toNat := by
    by_contra one
    have whole := Nat.div_pos few.le passes.positive
    have single : q.rate.toNat / ticks.toNat = 1 := by omega
    rw [single, Nat.div_one] at quotient
    omega
  have rest := Nat.div_add_mod q.rate.toNat ticks.toNat
  have rest' := Nat.div_add_mod q.rate.toNat (q.rate.toNat / ticks.toNat)
  rw [quotient, Nat.mul_comm] at rest'
  have half :
      2 * (q.rate.toNat % (q.rate / ticks).toNat) < q.rate.toNat / (q.rate / ticks).toNat := by
    rw [divisor, quotient]
    omega
  have accepted := quantize_counted nonneg (divisor ▸ two) half recipe
  rwa [counted] at accepted

/-- Whole ticks are not given their divisor where it leaves more than half of them. -/
theorem quotient_lt_of_ticks (rated : 0 < q.rate.toNat) (positive : 0 < ticks.toNat)
    (below : q.duration ticks < oneUnits) (large : ticks.toNat < 2 * (q.rate.toNat % ticks.toNat))
    (h : Representable (q.duration ticks)) :
    q.rate.toNat / (1 / finite false (q.duration ticks) h).toWord.toNat < ticks.toNat := by
  have near := duration_near rated positive
  have nonzero := near.pos (Nat.mul_pos positive oneUnits_pos)
  have division := Nat.div_add_mod q.rate.toNat ticks.toNat
  have remains := Nat.mod_lt q.rate.toNat positive
  have two : 2 * (q.rate.toNat / ticks.toNat) ≤ ticks.toNat * (q.rate.toNat / ticks.toNat) :=
    Nat.mul_le_mul_right _ (by omega)
  -- The tick counts last less than the reciprocal of the divisor and a half, even when rounded.
  have shorter : (q.duration ticks : ℚ) / oneUnits * (1 + 1 / 2 ^ 52) <
      1 / (((q.rate.toNat / ticks.toNat : Nat) : ℚ) + 1 / 2) := by
    have rate : (0 : ℚ) < q.rate.toNat := by exact_mod_cast rated
    have word : (q.rate.toNat : ℚ) < 2 ^ 32 := by exact_mod_cast q.rate.toNat_lt
    have halves : ticks.toNat * (2 * (q.rate.toNat / ticks.toNat) + 1) + 1 ≤ 2 * q.rate.toNat := by
      linarith
    have upper := (abs_le.1 (duration_error rated positive)).1
    rw [lt_div_iff₀ (and_half_pos _)]
    generalize q.rate.toNat / ticks.toNat = divisor at halves ⊢
    generalize (q.duration ticks : ℚ) / oneUnits = last at upper ⊢
    have whole : (ticks.toNat : ℚ) * (2 * divisor + 1) + 1 ≤ 2 * q.rate.toNat := by
      exact_mod_cast halves
    have bound : last * q.rate.toNat ≤ ticks.toNat * (1 + 1 / 2 ^ 53) := by linarith
    have scaled := mul_le_mul_of_nonneg_right bound (and_half_pos divisor).le
    apply lt_of_mul_lt_mul_right _ rate.le
    linarith
  have past := lt_reciprocal_of_lt nonzero below shorter
  have word := q.rate.toNat_lt
  have more : q.rate.toNat / ticks.toNat + 1 ≤
      (1 / finite false (q.duration ticks) h).toWord.toNat := by
    rw [toWord_reciprocal nonzero]
    refine le_min past ?_
    simp only [UInt32.size]
    omega
  rw [Nat.div_lt_iff_lt_mul (by omega)]
  have product := Nat.mul_le_mul_left ticks.toNat more
  rw [Nat.mul_add_one] at product
  omega

/-- Whether the chosen form meets a duration that some form meets. From a second on, and below it
against a second and more, it does so if its ticks can be counted. Against a part of a second it
does so while the reciprocal rounds to the greatest divisor that leaves as many ticks; at a
tolerance of less than half a tick, if it leaves exactly as many. -/
theorem candidate_accepted (nonneg : 0 ≤ q.tolerance) {seconds : Binary64}
    (valid : seconds.isFinite ∧ 0 < seconds) {time : CraftTime}
    (passes : q.Passes time ticks seconds) (recipe : String) :
    (1 ≤ seconds → ((∃ result, q.quantize recipe seconds = .ok result) ↔
      q.rate.toNat * seconds.toWord.toNat ≤ amountLimit)) ∧
    (seconds < 1 → q.rate.toNat ≤ ticks.toNat →
      ((∃ result, q.quantize recipe seconds = .ok result) ↔
        (1 / seconds).toWord.toNat ≤ q.rate.toNat)) ∧
    (seconds < 1 → ticks.toNat < q.rate.toNat →
      1 / (((q.rate / ticks).toNat : ℚ) + 1 / 2) < seconds.value * (1 - 1 / 2 ^ 52) →
      seconds.value * (1 + 1 / 2 ^ 52) < 1 / (((q.rate / ticks).toNat : ℚ) - 1 / 2) →
        q.quantize recipe seconds = .ok (.divided (q.rate / ticks), ticks)) ∧
    (seconds < 1 → q.tolerance.isFinite →
      2 * q.tolerance.value * q.rate.toNat ≤ 1 - 1 / 2 ^ 16 →
        ((∃ result, q.quantize recipe seconds = .ok result) ↔
          q.rate.toNat / (1 / seconds).toWord.toNat = ticks.toNat)) ∧
    (seconds < 1 → ticks.toNat < q.rate.toNat → seconds = ofWord ticks / ofWord q.rate →
      (2 * (q.rate.toNat % ticks.toNat) < ticks.toNat →
        q.quantize recipe seconds = .ok (.divided (q.rate / ticks), ticks)) ∧
      (ticks.toNat < 2 * (q.rate.toNat % ticks.toNat) → q.tolerance.isFinite →
        2 * q.tolerance.value * q.rate.toNat ≤ 1 - 1 / 2 ^ 16 →
          ¬ ∃ result, q.quantize recipe seconds = .ok result)) := by
  obtain ⟨m, h, rfl, nonzero⟩ := positive_iff.1 valid
  obtain ⟨rated, -⟩ := CraftTime.proper_of_ticks passes.counted passes.positive
  rw [one_le_iff, lt_one_iff, value_finite]
  refine ⟨fun long => ?_, fun below many => ?_, fun below few above under => ?_,
    fun below bounded tight => ?_,
    fun below few own => ⟨fun small => ?_, fun large bounded tight => ?_⟩⟩
  · exact accepted_second_iff long passes
  · exact accepted_below_iff nonzero below passes many
  · exact quantize_divided nonzero below passes few above under
  · exact accepted_tight_iff nonzero below passes bounded nonneg tight
  · rw [own]
    exact quantize_ticks nonneg passes few small recipe
  · rw [accepted_tight_iff nonzero below passes bounded nonneg tight]
    obtain ⟨_, is⟩ := div_ofWord (a := ticks) rated
    rw [is] at own
    obtain rfl : m = q.duration ticks := (finite.inj own).2
    exact (quotient_lt_of_ticks rated passes.positive below large h).ne

/-- At sixty ticks a second, twenty ticks and twelve seconds are accepted, and seven ticks are not. -/
theorem candidate_accepted_sixtieths :
    (0 ≤ Config.tolerance {} ∧ (Config.tolerance {}).isFinite ∧
      2 * (Config.tolerance {}).value * (60 : UInt32).toNat ≤ 1 - 1 / 2 ^ 16) ∧
    (Passes ⟨60, Config.tolerance {}⟩ (.divided 3) 20 (ofWord 20 / ofWord 60) ∧
      quantize ⟨60, Config.tolerance {}⟩ "Brick" (ofWord 20 / ofWord 60) =
        .ok (.divided (60 / 20), 20)) ∧
    (Passes ⟨60, Config.tolerance {}⟩ (.multiplied 12) 720 (ofWord 12) ∧
      ∃ result, quantize ⟨60, Config.tolerance {}⟩ "Brick" (ofWord 12) = .ok result) ∧
    Passes ⟨60, Config.tolerance {}⟩ (.divided 8) 7 (ofWord 7 / ofWord 60) ∧
      ¬ ∃ result,
        quantize ⟨60, Config.tolerance {}⟩ "Brick" (ofWord 7 / ofWord 60) = .ok result := by
  have nonneg : 0 ≤ Config.tolerance {} := by decide +kernel
  have bounded : (Config.tolerance {}).isFinite := by decide +kernel
  have small : (Config.tolerance {}).units ≤ 2 ^ (unitPlaces - 8) := by decide +kernel
  have tight : 2 * (Config.tolerance {}).value * (60 : UInt32).toNat ≤ 1 - 1 / 2 ^ 16 := by
    rw [value_of_nonneg nonneg]
    have units : ((Config.tolerance {}).units : ℚ) ≤ (2 ^ (unitPlaces - 8) : Nat) :=
      Nat.cast_le.2 small
    have scale := div_le_div_of_nonneg_right units oneUnits_rat_pos.le
    rw [two_pow_value (by decide)] at scale
    generalize ((Config.tolerance {}).units : ℚ) / oneUnits = value at scale ⊢
    have rate : ((60 : UInt32).toNat : ℚ) = 60 := rfl
    rw [rate]
    linarith only [scale]
  have twenty : Passes ⟨60, Config.tolerance {}⟩ (.divided 3) 20 (ofWord 20 / ofWord 60) :=
    ⟨by decide, by decide, by decide +kernel⟩
  have twelve : Passes ⟨60, Config.tolerance {}⟩ (.multiplied 12) 720 (ofWord 12) :=
    ⟨by decide, by decide, by decide +kernel⟩
  have seven : Passes ⟨60, Config.tolerance {}⟩ (.divided 8) 7 (ofWord 7 / ofWord 60) :=
    ⟨by decide, by decide, by decide +kernel⟩
  generalize Config.tolerance {} = tolerance at *
  obtain ⟨-, -, -, -, counted⟩ :=
    candidate_accepted (q := ⟨60, tolerance⟩) nonneg (by decide +kernel) twenty "Brick"
  obtain ⟨seconds, -⟩ :=
    candidate_accepted (q := ⟨60, tolerance⟩) nonneg (by decide +kernel) twelve "Brick"
  obtain ⟨-, -, -, -, refused⟩ :=
    candidate_accepted (q := ⟨60, tolerance⟩) nonneg (by decide +kernel) seven "Brick"
  refine ⟨⟨nonneg, bounded, tight⟩, ⟨twenty, ?_⟩, ⟨twelve, ?_⟩, seven, ?_⟩
  · have few : (20 : UInt32).toNat < (60 : UInt32).toNat := by decide
    have small : 2 * ((60 : UInt32).toNat % (20 : UInt32).toNat) < (20 : UInt32).toNat := by decide
    exact (counted (by decide +kernel) few rfl).1 small
  · have fits : (60 : UInt32).toNat * (ofWord 12).toWord.toNat ≤ amountLimit := by decide +kernel
    exact (seconds (by decide +kernel)).2 fits
  · have few : (7 : UInt32).toNat < (60 : UInt32).toNat := by decide
    have large : (7 : UInt32).toNat < 2 * ((60 : UInt32).toNat % (7 : UInt32).toNat) := by decide
    exact (refused (by decide +kernel) few rfl).2 large bounded tight

/-- Seven ticks are what an eighth of sixty leaves, and yet a ninth is tried for them. -/
theorem seven_ticks_refused : ¬ ∀ (q : Quantizer) recipe seconds time ticks,
    1 ≤ q.rate.toNat → 0 ≤ q.tolerance → seconds.isFinite ∧ 0 < seconds →
      q.Passes time ticks seconds → ∃ result, q.quantize recipe seconds = .ok result := by
  intro accepted
  have seven : Passes ⟨60, Config.tolerance {}⟩ (.divided 8) 7
      (Decimal.toBinary64 false ⟨11666666666666667, -17⟩) :=
    ⟨by decide, by decide, by decide +kernel⟩
  have refused : quantize ⟨60, Config.tolerance {}⟩ "Brick"
      (Decimal.toBinary64 false ⟨11666666666666667, -17⟩) = .error (.ambiguousTime "Brick"
        (Decimal.toBinary64 false ⟨11666666666666667, -17⟩) 6 60) := by
    decide +kernel
  obtain ⟨result, is⟩ := accepted _ "Brick" _ _ _ (by decide) (by decide +kernel)
    (by decide +kernel) seven
  rw [refused] at is
  cases is

end Quantizer

end Craftbook
