import Craftbook.Proofs.Recipe.Duration

/-!
Finer tick rates. Main statement: at a multiple of the tick rate, a form that the old rate counts
without a rest counts the same multiple of the ticks, and meets the same durations as before.
-/
namespace Craftbook
open Binary64 Rounding

namespace CraftTime
variable {rate rate' ticks ticks' : UInt32} {factor : Nat}

/-- Forms whose ticks are multiplied along with the tick rate: nothing is cut off by the division,
and a word holds the product. -/
def Scales (factor : Nat) (rate : UInt32) : CraftTime → Prop
  | .base => True
  | .divided divisor => divisor.toNat ∣ rate.toNat
  | .multiplied multiplier => factor * rate.toNat * multiplier.toNat ≤ amountLimit

instance (factor : Nat) (rate : UInt32) : DecidablePred (Scales factor rate)
  | .base => inferInstanceAs (Decidable True)
  | .divided _ => inferInstanceAs (Decidable (_ ∣ _))
  | .multiplied _ => inferInstanceAs (Decidable (_ ≤ _))

theorem ticks?_scaled {time : CraftTime} (several : 1 ≤ factor)
    (finer : rate'.toNat = factor * rate.toNat) (multiple : ticks'.toNat = factor * ticks.toNat)
    (scales : time.Scales factor rate) :
    time.ticks? rate' = some ticks' ↔ time.ticks? rate = some ticks := by
  cases time with
  | base =>
    rw [ticks?, ticks?, Option.some_inj, Option.some_inj, ← UInt32.toNat_inj, ← UInt32.toNat_inj,
      finer, multiple, Nat.mul_right_inj (Nat.ne_of_gt several)]
  | divided divisor =>
    rw [ticks?, ticks?, checkedDiv_eq_some_iff, checkedDiv_eq_some_iff, finer, multiple,
      Nat.mul_div_assoc factor scales, Nat.mul_right_inj (Nat.ne_of_gt several)]
  | multiplied multiplier =>
    rw [ticks?, ticks?, checkedMul_eq_some_iff, checkedMul_eq_some_iff, finer, multiple,
      Nat.mul_assoc, Nat.mul_right_inj (Nat.ne_of_gt several)]

theorem Scales.fits {time : CraftTime} (scales : time.Scales factor rate)
    (fits : factor * rate.toNat ≤ amountLimit) (counted : time.ticks? rate = some ticks) :
    factor * ticks.toNat ≤ amountLimit := by
  cases time with
  | base =>
    obtain rfl : rate = ticks := Option.some.inj counted
    exact fits
  | divided divisor =>
    rw [(checkedDiv_eq_some_iff.1 counted).2]
    exact Nat.le_trans (Nat.mul_le_mul_left factor (Nat.div_le_self _ _)) fits
  | multiplied multiplier =>
    rw [checkedMul_eq_some_iff.1 counted, ← Nat.mul_assoc]
    exact scales

end CraftTime

namespace Quantizer
variable {q : Quantizer} {factor : Nat} {ticks ticks' : UInt32}

/-- The same tolerance at a multiple of the tick rate. -/
def refined (q : Quantizer) (factor : Nat) : Quantizer :=
  { q with rate := .ofNat (factor * q.rate.toNat) }

theorem refined_rate (fits : factor * q.rate.toNat ≤ amountLimit) :
    (q.refined factor).rate.toNat = factor * q.rate.toNat :=
  word_toNat fits

/-- How long ticks last depends on their ratio to the rate alone, and so does how this is rounded. -/
theorem duration_refined (several : 1 ≤ factor) (fits : factor * q.rate.toNat ≤ amountLimit)
    (multiple : ticks'.toNat = factor * ticks.toNat) :
    (q.refined factor).duration ticks' = q.duration ticks := by
  rw [duration, duration, multiple, refined_rate fits, Nat.mul_comm factor, Nat.mul_right_comm,
    Nat.mul_comm factor]
  exact toShort_mul_right several

theorem meets_refined (several : 1 ≤ factor) (fits : factor * q.rate.toNat ≤ amountLimit)
    (rated : 0 < q.rate.toNat) (multiple : ticks'.toNat = factor * ticks.toNat) {m : Nat}
    {h : Representable m} : (q.refined factor).meets ticks' (finite false m h) ↔
      q.meets ticks (finite false m h) := by
  have rated' : 0 < (q.refined factor).rate.toNat := by
    rw [refined_rate fits]
    exact Nat.mul_pos several rated
  rw [meets_iff rated, meets_iff rated']
  simp only [duration_refined several fits multiple]
  rfl

theorem quantize_scaled_iff (several : 1 ≤ factor) (fits : factor * q.rate.toNat ≤ amountLimit)
    {time : CraftTime} (scales : time.Scales factor q.rate)
    (multiple : ticks'.toNat = factor * ticks.toNat) {recipe : String} {seconds : Binary64} :
    (q.refined factor).quantize recipe seconds = .ok (time, ticks') ↔
      q.quantize recipe seconds = .ok (time, ticks) := by
  have counts : 0 < ticks'.toNat ↔ 0 < ticks.toNat := by
    rw [multiple]
    exact Nat.mul_pos_iff_of_pos_left several
  rw [quantize_eq_ok_iff, quantize_eq_ok_iff,
    CraftTime.ticks?_scaled several (refined_rate fits) multiple scales, counts]
  refine and_congr_right fun nearest => and_congr_right fun counted => and_congr_right ?_
  intro positive
  obtain ⟨rated, -⟩ := CraftTime.proper_of_ticks counted positive
  obtain ⟨m, h, rfl, -⟩ := CraftTime.positive_of_nearest? nearest
  exact meets_refined several fits rated multiple

/-- A form whose ticks are multiplied along with the rate is accepted at the finer rate exactly if it
is at the coarser one: the same form, and so the same expression, for the multiple of the ticks. -/
theorem quantize_refined (several : 1 ≤ factor) (fits : factor * q.rate.toNat ≤ amountLimit)
    {time : CraftTime} (scales : time.Scales factor q.rate) (recipe : String) (seconds : Binary64)
    (ticks : UInt32) :
    q.quantize recipe seconds = .ok (time, ticks) ↔
      ∃ ticks', ticks'.toNat = factor * ticks.toNat ∧
        (q.refined factor).quantize recipe seconds = .ok (time, ticks') := by
  constructor
  · intro accepted
    have small := scales.fits fits (quantize_eq_ok_iff.1 accepted).2.1
    have multiple : (UInt32.ofNat (factor * ticks.toNat)).toNat = factor * ticks.toNat :=
      word_toNat small
    exact ⟨_, multiple, (quantize_scaled_iff several fits scales multiple).2 accepted⟩
  · rintro ⟨ticks', multiple, accepted⟩
    exact (quantize_scaled_iff several fits scales multiple).1 accepted

/-- A tenth of a second at sixty ticks, and at the greatest multiple of sixty that is a word. -/
theorem quantize_refined_tenth :
    (1 ≤ 71582788 ∧ 71582788 * (60 : UInt32).toNat ≤ amountLimit ∧
      (CraftTime.divided 10).Scales 71582788 60) ∧
    quantize ⟨60, Config.tolerance {}⟩ "Radar" (Decimal.toBinary64 false ⟨1, -1⟩) =
      .ok (.divided 10, 6) ∧
    ∃ ticks' : UInt32, ticks'.toNat = 71582788 * (6 : UInt32).toNat ∧
      (refined ⟨60, Config.tolerance {}⟩ 71582788).quantize "Radar"
        (Decimal.toBinary64 false ⟨1, -1⟩) = .ok (.divided 10, ticks') := by
  have fits : 71582788 * (60 : UInt32).toNat ≤ amountLimit := by decide
  have scales : (CraftTime.divided 10).Scales 71582788 60 := by decide
  have accepted : quantize ⟨60, Config.tolerance {}⟩ "Radar" (Decimal.toBinary64 false ⟨1, -1⟩) =
      .ok (.divided 10, 6) := by decide +kernel
  exact ⟨⟨by decide, fits, scales⟩, accepted,
    (quantize_refined (by decide) fits scales "Radar" _ 6).1 accepted⟩

end Quantizer

end Craftbook
