import Craftbook.Proofs.Recipe.Record

/-!
Durations that are accepted. Main statement: an accepted form counts at least one tick at a positive
rate, and its divisor or multiplier is not zero.
-/
namespace Craftbook

theorem checkedMul_eq_some_iff {a b product : UInt32} :
    checkedMul a b = some product ↔ product.toNat = a.toNat * b.toNat := by
  have small := product.toNat_lt
  unfold checkedMul
  simp only [UInt32.size]
  split
  · rename_i fits
    have exact : (a * b).toNat = a.toNat * b.toNat := by
      rw [UInt32.toNat_mul, Nat.mod_eq_of_lt fits]
    rw [Option.some_inj, ← UInt32.toNat_inj, exact, eq_comm]
  · simp only [reduceCtorEq, false_iff]
    omega

theorem checkedDiv_eq_some_iff {a b quotient : UInt32} :
    checkedDiv a b = some quotient ↔ b ≠ 0 ∧ quotient.toNat = a.toNat / b.toNat := by
  unfold checkedDiv
  by_cases zero : b = 0
  · simp [zero]
  · rw [if_neg zero, Option.some_inj, ← UInt32.toNat_inj, UInt32.toNat_div, eq_comm]
    exact (and_iff_right zero).symm

namespace CraftTime

/-- A form without a factor or divisor of zero. -/
def Proper : CraftTime → Prop
  | .base => True
  | .divided divisor => 1 ≤ divisor.toNat
  | .multiplied multiplier => 1 ≤ multiplier.toNat

theorem proper_of_ticks {rate ticks : UInt32} {time : CraftTime}
    (counted : time.ticks? rate = some ticks) (positive : 0 < ticks.toNat) :
    0 < rate.toNat ∧ time.Proper := by
  cases time with
  | base =>
    cases counted
    exact ⟨positive, trivial⟩
  | divided divisor =>
    obtain ⟨-, quotient⟩ := checkedDiv_eq_some_iff.1 counted
    have whole : divisor.toNat ≤ rate.toNat ∧ 0 < divisor.toNat :=
      (Nat.div_pos_iff.1 (quotient ▸ positive)).symm
    exact ⟨Nat.lt_of_lt_of_le whole.2 whole.1, whole.2⟩
  | multiplied multiplier =>
    have product : 0 < rate.toNat * multiplier.toNat :=
      checkedMul_eq_some_iff.1 counted ▸ positive
    exact ⟨Nat.pos_of_mul_pos_right product, Nat.pos_of_mul_pos_left product⟩

end CraftTime

end Craftbook
