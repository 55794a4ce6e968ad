import Craftbook.Proofs.Recipe.Duration

/-!
How far an accepted tick count is from the authored duration, in exact arithmetic. Main statement:
no farther than the tolerance and the rounding of the check itself allow; all other durations are
refused, for being no positive numbers or with the tick count of their form.
-/
namespace Craftbook
open Binary64 Rounding

theorem Binary64.not_positive_iff {x : Binary64} :
    ¬(x.isFinite ∧ 0 < x) ↔ x = .nan ∨ (∃ negative, x = .infinite negative) ∨ x ≤ 0 := by
  obtain ⟨_, zero⟩ := zero_eq
  rw [zero]
  cases x with
  | nan => simp [isFinite]
  | infinite negative => simp [isFinite]
  | finite negative m h =>
    have order : ¬ finite false 0 ‹_› < finite negative m h ↔
        finite negative m h ≤ finite false 0 ‹_› := by
      change ¬ decide (signed false 0 < signed negative m) = true ↔
        decide (signed negative m ≤ signed false 0) = true
      rw [decide_eq_true_iff, decide_eq_true_iff, Int.not_lt]
    simp [isFinite, order]

namespace CraftTime

theorem nearest?_proper {seconds : Binary64} {time : CraftTime}
    (nearest : nearest? seconds = some time) : time.Proper := by
  obtain ⟨m, h, rfl, nonzero⟩ := positive_of_nearest? nearest
  rcases Nat.lt_trichotomy m oneUnits with below | one | above
  · rw [nearest?_below nonzero below] at nearest
    cases nearest
    exact reciprocal_word_pos nonzero below
  · rw [nearest?_one one] at nearest
    cases nearest
    trivial
  · rw [nearest?_above above] at nearest
    cases nearest
    exact word_pos above.le

theorem ticks?_eq_none_iff {rate : UInt32} {time : CraftTime} (proper : time.Proper) :
    time.ticks? rate = none ↔
      ∃ n, time = .multiplied n ∧ amountLimit < rate.toNat * n.toNat := by
  cases time with
  | base => simp [ticks?]
  | divided divisor =>
    have nonzero : divisor ≠ 0 := by
      rintro rfl
      cases proper
    simp [ticks?, checkedDiv, nonzero]
  | multiplied multiplier =>
    have bound : ¬ rate.toNat * multiplier.toNat < UInt32.size ↔
        amountLimit < rate.toNat * multiplier.toNat := Nat.not_lt
    simp [ticks?, checkedMul, ← bound]

end CraftTime

namespace Quantizer
variable {q : Quantizer}

theorem drift_le (bounded : q.tolerance.isFinite) (nonneg : 0 ≤ q.tolerance) {recipe : String}
    {seconds : Binary64} {time : CraftTime} {ticks : UInt32}
    (accepted : q.quantize recipe seconds = .ok (time, ticks)) :
    |(ticks.toNat : ℚ) / q.rate.toNat - seconds.value| ≤
      q.tolerance.value * (1 + 1 / 2 ^ 52) + 1 / 2 ^ 53 * (ticks.toNat / q.rate.toNat) := by
  obtain ⟨nearest, counted, positive, close⟩ := quantize_eq_ok_iff.1 accepted
  obtain ⟨rated, -⟩ := CraftTime.proper_of_ticks counted positive
  obtain ⟨m, h, rfl, -⟩ := CraftTime.positive_of_nearest? nearest
  rw [meets_iff rated] at close
  have counting := (duration_near rated positive).error_le rated oneUnits_pos
  have checking := value_sub_le bounded nonneg close
  rw [value_finite]
  calc |(ticks.toNat : ℚ) / q.rate.toNat - m / oneUnits|
      ≤ |(ticks.toNat : ℚ) / q.rate.toNat - q.duration ticks / oneUnits| +
        |(q.duration ticks : ℚ) / oneUnits - m / oneUnits| := abs_sub_le _ _ _
    _ ≤ 1 / 2 ^ 53 * (ticks.toNat / q.rate.toNat) + q.tolerance.value * (1 + 1 / 2 ^ 52) :=
        add_le_add counting checking
    _ = q.tolerance.value * (1 + 1 / 2 ^ 52) + 1 / 2 ^ 53 * (ticks.toNat / q.rate.toNat) :=
        add_comm _ _

theorem quantize_eq_invalidTime_iff (q : Quantizer) (recipe : String) {seconds : Binary64} :
    q.quantize recipe seconds = .error (.invalidTime recipe seconds) ↔
      ¬(seconds.isFinite ∧ 0 < seconds) := by
  rw [← CraftTime.nearest?_eq_none_iff]
  cases nearest : CraftTime.nearest? seconds with
  | none => simp [quantize, nearest]
  | some time => simp [quantize_eq_error_iff nearest]

/-- An accepted tick count drifts by little more than the tolerance. What is refused is no positive,
finite duration, or it is reported with the tick count of its form, cut to a word. -/
theorem drift_bounded (recipe : String) (seconds : Binary64) :
    (q.tolerance.isFinite → 0 ≤ q.tolerance → ∀ time ticks,
      q.quantize recipe seconds = .ok (time, ticks) →
        |(ticks.toNat : ℚ) / q.rate.toNat - seconds.value| ≤
          q.tolerance.value * (1 + 1 / 2 ^ 52) + 1 / 2 ^ 53 * (ticks.toNat / q.rate.toNat)) ∧
    (q.quantize recipe seconds = .error (.invalidTime recipe seconds) ↔
      seconds = .nan ∨ (∃ negative, seconds = .infinite negative) ∨ seconds ≤ 0) ∧
    ∀ fault, q.quantize recipe seconds = .error fault → fault ≠ .invalidTime recipe seconds →
      ∃ time, CraftTime.nearest? seconds = some time ∧
        (time.ticks? q.rate = none ↔
          ∃ n, time = .multiplied n ∧ amountLimit < q.rate.toNat * n.toNat) ∧
        fault = .ambiguousTime recipe seconds
          ((time.ticks? q.rate).getD (.ofNat amountLimit)) q.rate := by
  refine ⟨fun bounded nonneg time ticks accepted => ?_, ?_, fun fault refused other => ?_⟩
  · exact drift_le bounded nonneg accepted
  · rw [quantize_eq_invalidTime_iff, not_positive_iff]
  · cases nearest : CraftTime.nearest? seconds with
    | none =>
      have invalid := (q.quantize_eq_invalidTime_iff recipe).2
        (CraftTime.nearest?_eq_none_iff.1 nearest)
      exact absurd (Except.error.inj (refused.symm.trans invalid)) other
    | some time =>
      have proper := CraftTime.nearest?_proper nearest
      exact ⟨time, rfl, CraftTime.ticks?_eq_none_iff proper,
        ((quantize_eq_error_iff nearest).1 refused).1⟩

/-- A tenth of a second, no number, and too many seconds for a word of ticks. -/
theorem drift_bounded_tenth :
    ((Config.tolerance {}).isFinite ∧ 0 ≤ Config.tolerance {} ∧
      quantize ⟨60, Config.tolerance {}⟩ "Radar" (Decimal.toBinary64 false ⟨1, -1⟩) =
        .ok (.divided 10, 6) ∧
      |((6 : UInt32).toNat : ℚ) / (60 : UInt32).toNat -
          (Decimal.toBinary64 false ⟨1, -1⟩).value| ≤
        (Config.tolerance {}).value * (1 + 1 / 2 ^ 52) +
          1 / 2 ^ 53 * ((6 : UInt32).toNat / (60 : UInt32).toNat)) ∧
      quantize ⟨60, Config.tolerance {}⟩ "Radar" .nan = .error (.invalidTime "Radar" .nan) ∧
      quantize ⟨60, Config.tolerance {}⟩ "Radar" (Decimal.toBinary64 false ⟨1, 12⟩) =
        .error (.ambiguousTime "Radar" (Decimal.toBinary64 false ⟨1, 12⟩) 4294967295 60) ∧
      ∃ time, CraftTime.nearest? (Decimal.toBinary64 false ⟨1, 12⟩) = some time ∧
        (time.ticks? 60).getD (.ofNat amountLimit) = 4294967295 := by
  have bounded : (Config.tolerance {}).isFinite := by decide +kernel
  have nonneg : 0 ≤ Config.tolerance {} := by decide +kernel
  have accepted : quantize ⟨60, Config.tolerance {}⟩ "Radar"
      (Decimal.toBinary64 false ⟨1, -1⟩) = .ok (.divided 10, 6) := by decide +kernel
  have refused : quantize ⟨60, Config.tolerance {}⟩ "Radar" (Decimal.toBinary64 false ⟨1, 12⟩) =
      .error (.ambiguousTime "Radar" (Decimal.toBinary64 false ⟨1, 12⟩) 4294967295 60) := by
    decide +kernel
  generalize Config.tolerance {} = tolerance at *
  obtain ⟨drift, -, -⟩ := drift_bounded (q := ⟨60, tolerance⟩) "Radar"
    (Decimal.toBinary64 false ⟨1, -1⟩)
  obtain ⟨-, invalid, -⟩ := drift_bounded (q := ⟨60, tolerance⟩) "Radar" .nan
  obtain ⟨-, -, reported⟩ := drift_bounded (q := ⟨60, tolerance⟩) "Radar"
    (Decimal.toBinary64 false ⟨1, 12⟩)
  obtain ⟨time, nearest, -, fault⟩ := reported _ refused CompileError.noConfusion
  exact ⟨⟨bounded, nonneg, accepted, drift bounded nonneg _ _ accepted⟩,
    invalid.2 (.inl rfl), refused, time, nearest, (CompileError.ambiguousTime.inj fault).2.2.1.symm⟩

end Quantizer

end Craftbook
