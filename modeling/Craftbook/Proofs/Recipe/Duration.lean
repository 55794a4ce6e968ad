import Craftbook.Proofs.Binary64.Value
import Craftbook.Proofs.Recipe.Divisor

/-!
How long tick counts last, and the form that a duration is given. Main statements: a duration below
a second is given a divisor and one above it a multiplier, and of two tick counts the one that lasts
closer to a duration meets it whenever the other does.
-/
namespace Craftbook
open Binary64 Rounding

namespace Binary64
variable {m : Nat} {h : Representable m}

theorem word_pos (above : oneUnits ≤ m) : 1 ≤ (finite false m h).toWord.toNat := by
  have whole : 1 ≤ nearestWhole m := by
    rw [le_nearestWhole_iff]
    omega
  rw [toWord_finite]
  exact le_min whole (by decide)

theorem reciprocal_word_pos (nonzero : 0 < m) (below : m < oneUnits) :
    1 ≤ (1 / finite false m h).toWord.toNat := by
  have long : oneUnits ≤ toShort (oneUnits * oneUnits) m :=
    le_toShort nonzero oneUnits_short (Nat.mul_le_mul_left oneUnits below.le)
  have whole : 1 ≤ nearestWhole (toShort (oneUnits * oneUnits) m) := by
    rw [le_nearestWhole_iff]
    omega
  rw [toWord_reciprocal nonzero]
  exact le_min whole (by decide)

end Binary64

namespace CraftTime

theorem positive_of_nearest? {seconds : Binary64} {time : CraftTime}
    (nearest : nearest? seconds = some time) : ∃ m h, seconds = finite false m h ∧ 0 < m :=
  positive_iff.1 (exists_nearest?_iff.1 ⟨time, nearest⟩)

theorem nearest?_below {m : Nat} {h : Representable m} (nonzero : 0 < m) (below : m < oneUnits) :
    nearest? (finite false m h) = some (.divided (1 / finite false m h).toWord) := by
  rw [nearest?, if_pos (positive_iff.2 ⟨m, h, rfl, nonzero⟩), if_pos (lt_one_iff.2 below)]

theorem nearest?_one {m : Nat} {h : Representable m} (one : m = oneUnits) :
    nearest? (finite false m h) = some .base := by
  have nonzero : 0 < m := one ▸ oneUnits_pos
  have not_below : ¬ finite false m h < 1 := by
    rw [lt_one_iff, one]
    exact Nat.lt_irrefl _
  have not_above : ¬ 1 < finite false m h := by
    rw [one_lt_iff, one]
    exact Nat.lt_irrefl _
  rw [nearest?, if_pos (positive_iff.2 ⟨m, h, rfl, nonzero⟩), if_neg not_below, if_neg not_above]

theorem nearest?_above {m : Nat} {h : Representable m} (above : oneUnits < m) :
    nearest? (finite false m h) = some (.multiplied (finite false m h).toWord) := by
  have nonzero : 0 < m := Nat.lt_trans oneUnits_pos above
  have not_below : ¬ finite false m h < 1 := by
    rw [lt_one_iff]
    exact Nat.lt_asymm above
  rw [nearest?, if_pos (positive_iff.2 ⟨m, h, rfl, nonzero⟩), if_neg not_below,
    if_pos (one_lt_iff.2 above)]

/-- The chosen form of a second or more counts its nearest word of seconds. -/
theorem nearest?_second {m : Nat} {h : Representable m} (above : oneUnits ≤ m) :
    ∃ time, nearest? (finite false m h) = some time ∧ ∀ rate ticks : UInt32,
      time.ticks? rate = some ticks ↔
        ticks.toNat = rate.toNat * (finite false m h).toWord.toNat := by
  rcases Nat.eq_or_lt_of_le above with one | more
  · refine ⟨_, nearest?_one one.symm, fun rate ticks => ?_⟩
    have single : (finite false m h).toWord.toNat = 1 := by
      have whole := nearestWhole_whole 1
      rw [Nat.one_mul, one] at whole
      rw [toWord_finite, whole]
      rfl
    rw [single, Nat.mul_one, ticks?, Option.some_inj, ← UInt32.toNat_inj, eq_comm]
  · exact ⟨_, nearest?_above more, fun rate ticks => checkedMul_eq_some_iff⟩

theorem ticks?_divided_iff {rate divisor ticks : UInt32} (whole : 1 ≤ divisor.toNat) :
    (divided divisor).ticks? rate = some ticks ↔ ticks.toNat = rate.toNat / divisor.toNat := by
  rw [ticks?, checkedDiv_eq_some_iff]
  apply and_iff_right
  rintro rfl
  cases whole

end CraftTime

namespace Quantizer
variable {q : Quantizer} {ticks ticks' : UInt32} {m : Nat} {h : Representable m}

/-- How long a tick count lasts at the rate, in units, rounded once. -/
def duration (q : Quantizer) (ticks : UInt32) : Nat :=
  toShort (ticks.toNat * oneUnits) q.rate.toNat

theorem duration_representable (rated : 0 < q.rate.toNat) (ticks : UInt32) :
    Representable (q.duration ticks) := by
  obtain ⟨h, -⟩ := div_ofWord (a := ticks) rated
  exact h

theorem meets_iff (rated : 0 < q.rate.toNat) : q.meets ticks (finite false m h) ↔
    (finite false (q.duration ticks) (q.duration_representable rated ticks) -
      finite false m h).abs ≤ q.tolerance := by
  obtain ⟨_, is⟩ := div_ofWord (a := ticks) rated
  rw [meets, decide_eq_true_iff, is]
  rfl

/-- The nearer of two tick counts is never refused in favour of the other. -/
theorem meets_of_closer (rated : 0 < q.rate.toNat)
    (closer : ((q.duration ticks : Int) - m).natAbs ≤ ((q.duration ticks' : Int) - m).natAbs)
    (met : q.meets ticks' (finite false m h)) : q.meets ticks (finite false m h) := by
  rw [meets_iff rated] at met ⊢
  exact sub_abs_le_of_closer closer met

theorem meets_own (rated : 0 < q.rate.toNat) (nonneg : 0 ≤ q.tolerance)
    (own : q.duration ticks = m) : q.meets ticks (finite false m h) := by
  subst own
  rw [meets_iff rated, sub_self_abs]
  exact nonneg

theorem duration_near (rated : 0 < q.rate.toNat) (counted : 0 < ticks.toNat) :
    Near (q.duration ticks) (ticks.toNat * oneUnits) q.rate.toNat :=
  quotient_near counted rated

theorem duration_error (rated : 0 < q.rate.toNat) (counted : 0 < ticks.toNat) :
    |(ticks.toNat : ℚ) - q.duration ticks / oneUnits * q.rate.toNat| ≤ 1 / 2 ^ 53 * ticks.toNat := by
  have rate : (0 : ℚ) < q.rate.toNat := by exact_mod_cast rated
  have error := (duration_near rated counted).error_le rated oneUnits_pos
  have scaled := mul_le_mul_of_nonneg_right error rate.le
  rwa [mul_assoc, div_mul_cancel₀ _ rate.ne', ← abs_of_pos rate, ← abs_mul, abs_of_pos rate,
    sub_mul, div_mul_cancel₀ _ rate.ne'] at scaled

theorem duration_mono (rated : 0 < q.rate.toNat) (le : ticks.toNat ≤ ticks'.toNat) :
    q.duration ticks ≤ q.duration ticks' :=
  toShort_mono_num rated (Nat.mul_le_mul_right oneUnits le)

theorem duration_product {n : UInt32} (rated : 0 < q.rate.toNat)
    (product : ticks.toNat = q.rate.toNat * n.toNat) : q.duration ticks = n.toNat * oneUnits := by
  rw [duration, product, Nat.mul_comm q.rate.toNat, Nat.mul_right_comm]
  exact toShort_of_short rated (units_short n.toNat_lt)

theorem duration_rate (rated : 0 < q.rate.toNat) : q.duration q.rate = oneUnits := by
  have once : q.rate.toNat = q.rate.toNat * (1 : UInt32).toNat := (Nat.mul_one _).symm
  rw [duration_product rated once, UInt32.toNat_one, Nat.one_mul]

theorem duration_le_one (rated : 0 < q.rate.toNat) (few : ticks.toNat ≤ q.rate.toNat) :
    q.duration ticks ≤ oneUnits := by
  rw [← duration_rate rated]
  exact duration_mono rated few

/-- Refusals of positive, finite durations name the tick count of the form that was chosen. -/
theorem quantize_eq_error_iff {recipe : String} {seconds : Binary64} {time : CraftTime}
    (nearest : CraftTime.nearest? seconds = some time) {fault : CompileError} :
    q.quantize recipe seconds = .error fault ↔
      fault = .ambiguousTime recipe seconds
        ((time.ticks? q.rate).getD (.ofNat amountLimit)) q.rate ∧
      ¬ ∃ ticks, time.ticks? q.rate = some ticks ∧ 0 < ticks.toNat ∧ q.meets ticks seconds := by
  have valid := positive_iff.2 (CraftTime.positive_of_nearest? nearest)
  rw [q.quantize_stopsAtFirst recipe seconds fault, faults, if_pos valid, nearest]
  generalize UInt32.ofNat amountLimit = most
  cases counted : time.ticks? q.rate with
  | none =>
    simp only [Option.bind_some, counted, Option.any_none, Bool.false_eq_true, if_false,
      Option.getD_none, List.head?_cons, Option.some_inj, reduceCtorEq, false_and, exists_false,
      not_false_eq_true, and_true]
    exact eq_comm
  | some ticks =>
    by_cases accepted : 0 < ticks.toNat ∧ q.meets ticks seconds
    · simp [counted, UInt32.lt_iff_toNat_lt, accepted]
    · have refused : ¬(decide (0 < ticks) && q.meets ticks seconds) = true := by
        rwa [Bool.and_eq_true, decide_eq_true_eq, UInt32.lt_iff_toNat_lt]
      simp only [Option.bind_some, counted, Option.any_some, if_neg refused, Option.getD_some,
        List.head?_cons, Option.some_inj, exists_eq_left', accepted, not_false_eq_true, and_true]
      exact eq_comm

end Quantizer

end Craftbook
