import Craftbook.Binary64.Rounding
import Mathlib.Data.Nat.Basic
import Mathlib.Tactic.Linarith

/-!
How far rounding moves a quotient. Main statements: rounding does not pass a number that has at most
53 digits, so it keeps such a number; and it moves other quotients by a part in 2 ^ 53 at most.
-/
namespace Craftbook.Rounding

theorem le_halfEven {num den n : Nat} (pos : 0 < den) (h : n * den ≤ num) :
    n ≤ halfEven num den := by
  have whole : n ≤ num / den := (Nat.le_div_iff_mul_le pos).2 h
  unfold halfEven
  dsimp only
  split
  · exact whole
  · split <;> omega

theorem halfEven_le_of_le {num den n : Nat} (pos : 0 < den) (h : num ≤ n * den) :
    halfEven num den ≤ n := by
  have parts := Nat.div_add_mod num den
  have rest := Nat.mod_lt num pos
  unfold halfEven
  dsimp only
  rcases Nat.lt_or_ge (num / den) n with below | above
  · split
    · omega
    · split <;> omega
  · -- Nothing remains of the quotient, so it is not moved.
    have full : n * den ≤ num / den * den := Nat.mul_le_mul_right den above
    rw [Nat.mul_comm den] at parts
    have same : num / den * den = n * den := by omega
    rw [Nat.eq_of_mul_eq_mul_right pos same, if_pos (by omega)]

theorem le_halfEven_error (num : Nat) {den : Nat} (pos : 0 < den) :
    2 * num ≤ 2 * (halfEven num den * den) + den := by
  have parts := Nat.div_add_mod' num den
  have rest := Nat.mod_lt num pos
  unfold halfEven
  dsimp only
  split
  · omega
  · split
    · have up : (num / den + 1) * den = num / den * den + den := Nat.succ_mul _ _
      omega
    · have down : num / den * den ≤ (num / den + num / den % 2) * den :=
        Nat.mul_le_mul_right den (Nat.le_add_right _ _)
      omega

theorem halfEven_error_le (num : Nat) {den : Nat} (pos : 0 < den) :
    2 * (halfEven num den * den) ≤ 2 * num + den := by
  have parts := Nat.div_add_mod' num den
  have rest := Nat.mod_lt num pos
  unfold halfEven
  dsimp only
  split
  · omega
  · split
    · have up : (num / den + 1) * den = num / den * den + den := Nat.succ_mul _ _
      omega
    · have up : (num / den + num / den % 2) * den ≤ (num / den + 1) * den :=
        Nat.mul_le_mul_right den (by omega)
      rw [Nat.add_one_mul] at up
      omega

theorem lastPlace_pos (n : Nat) : 0 < lastPlace n := Nat.two_pow_pos _

theorem lastPlace_mul_le {n : Nat} (long : 2 ^ 52 ≤ n) : lastPlace n * 2 ^ 52 ≤ n := by
  have nonzero : n ≠ 0 := by omega
  have digits : 52 ≤ n.log2 := (Nat.le_log2 nonzero).2 long
  rw [lastPlace, Nat.pow_eq, ← Nat.pow_add, Nat.sub_add_cancel digits]
  exact Nat.log2_self_le nonzero

theorem log2_mono {m n : Nat} (h : m ≤ n) : m.log2 ≤ n.log2 := by
  by_cases zero : m = 0
  · simp [zero]
  · exact (Nat.le_log2 (by omega)).2 (Nat.le_trans (Nat.log2_self_le zero) h)

theorem lastPlace_dvd {m n : Nat} (h : m ≤ n) : lastPlace m ∣ lastPlace n :=
  Nat.pow_dvd_pow 2 (Nat.sub_le_sub_right (log2_mono h) 52)

/-- Short numbers up to a number do not pass the place where its leading digits end. -/
theorem le_floor_of_short {n whole : Nat} (short : Short n) (h : n ≤ whole) :
    n ≤ whole / lastPlace whole * lastPlace whole := by
  by_cases places : lastPlace whole ∣ n
  · obtain ⟨c, rfl⟩ := places
    rw [Nat.mul_comm] at h ⊢
    exact Nat.mul_le_mul_right _ ((Nat.le_div_iff_mul_le (lastPlace_pos _)).2 h)
  · -- The greater number has more digits, and the power of two under it is not passed either.
    have fewer : n.log2 < whole.log2 := by
      by_contra same
      exact places (Nat.dvd_trans (Nat.pow_dvd_pow 2 (by omega)) short)
    have long : 52 ≤ whole.log2 := by
      by_contra few
      rw [lastPlace, Nat.sub_eq_zero_of_le (by omega)] at places
      exact places (Nat.one_dvd n)
    have power : 2 ^ 52 * lastPlace whole = 2 ^ whole.log2 := by
      rw [lastPlace, Nat.pow_eq, ← Nat.pow_add, Nat.add_sub_cancel' long]
    have under : 2 ^ 52 ≤ whole / lastPlace whole := by
      rw [Nat.le_div_iff_mul_le (lastPlace_pos _), power]
      exact Nat.log2_self_le (by rintro rfl; simp at fewer)
    calc n ≤ 2 ^ whole.log2 :=
          (Nat.lt_of_lt_of_le Nat.lt_log2_self (Nat.pow_le_pow_right (by decide) fewer)).le
      _ = 2 ^ 52 * lastPlace whole := power.symm
      _ ≤ whole / lastPlace whole * lastPlace whole := Nat.mul_le_mul_right _ under

/-- Rounding does not pass a short number from above. -/
theorem le_toShort {num den n : Nat} (pos : 0 < den) (short : Short n) (h : n * den ≤ num) :
    n ≤ toShort num den := by
  refine Nat.le_trans (le_floor_of_short short ((Nat.le_div_iff_mul_le pos).2 h)) ?_
  apply Nat.mul_le_mul_right
  rw [Nat.div_div_eq_div_mul]
  exact le_halfEven (Nat.mul_pos pos (lastPlace_pos _)) (Nat.div_mul_le_self _ _)

/-- Rounding does not pass a short number from below. -/
theorem toShort_le {num den n : Nat} (pos : 0 < den) (short : Short n) (h : num ≤ n * den) :
    toShort num den ≤ n := by
  have above : num / den ≤ n := Nat.div_le_of_le_mul (by rwa [Nat.mul_comm])
  obtain ⟨c, is⟩ : lastPlace (num / den) ∣ n := Nat.dvd_trans (lastPlace_dvd above) short
  rw [Nat.mul_comm] at is
  have fits : num ≤ c * (den * lastPlace (num / den)) := by
    rwa [Nat.mul_comm den, ← Nat.mul_assoc, ← is]
  have steps := halfEven_le_of_le (Nat.mul_pos pos (lastPlace_pos _)) fits
  calc toShort num den ≤ c * lastPlace (num / den) := Nat.mul_le_mul_right _ steps
    _ = n := is.symm

theorem halfEven_mul_right {num den c : Nat} (pos : 0 < c) :
    halfEven (num * c) (den * c) = halfEven num den := by
  unfold halfEven
  simp only [Nat.mul_div_mul_right _ _ pos, Nat.mul_mod_mul_right, ← Nat.mul_assoc,
    Nat.mul_lt_mul_right pos]

theorem toShort_mul_right {num den c : Nat} (pos : 0 < c) :
    toShort (num * c) (den * c) = toShort num den := by
  unfold toShort
  dsimp only
  rw [Nat.mul_div_mul_right _ _ pos, Nat.mul_right_comm, halfEven_mul_right pos]

theorem short_of_le {n : Nat} (h : n ≤ 2 ^ 53) : Short n := by
  simpa using short_mul_two_pow h 0

theorem short_two_pow (k : Nat) : Short (2 ^ k) := by
  rw [← Nat.one_mul (2 ^ k)]
  exact short_mul_two_pow (by decide) k

/-- A short number that reaches far beyond a power of two is a multiple of it. -/
theorem two_pow_dvd_of_short {n k : Nat} (short : Short n) (long : 2 ^ (52 + k) ≤ n) :
    2 ^ k ∣ n := by
  have nonzero : n ≠ 0 := by
    rintro rfl
    exact absurd long (Nat.not_le.2 (Nat.two_pow_pos _))
  have digits : 52 + k ≤ n.log2 := (Nat.le_log2 nonzero).2 long
  exact Nat.dvd_trans (Nat.pow_dvd_pow 2 (by omega)) short

/-- The short numbers that follow a multiple of a power of two are multiples of it. -/
theorem next_le_of_short {n k places : Nat} (short : Short n) (long : 2 ^ 52 * 2 ^ places ≤ n)
    (more : k * 2 ^ places < n) : (k + 1) * 2 ^ places ≤ n := by
  rw [← Nat.pow_add] at long
  obtain ⟨c, rfl⟩ := two_pow_dvd_of_short short long
  rw [Nat.mul_comm (2 ^ places)] at more ⊢
  exact Nat.mul_le_mul_right _ (Nat.lt_of_mul_lt_mul_right more)

theorem toShort_of_short {n den : Nat} (pos : 0 < den) (short : Short n) :
    toShort (n * den) den = n :=
  Nat.le_antisymm (toShort_le pos short le_rfl) (le_toShort pos short le_rfl)

theorem step_le {num den : Nat} (long : 2 ^ 52 ≤ num / den) :
    den * lastPlace (num / den) * 2 ^ 52 ≤ num := by
  calc den * lastPlace (num / den) * 2 ^ 52 = den * (lastPlace (num / den) * 2 ^ 52) :=
        Nat.mul_assoc ..
    _ ≤ den * (num / den) := Nat.mul_le_mul_left den (lastPlace_mul_le long)
    _ ≤ num := Nat.mul_div_le num den

theorem toShort_mul (num den : Nat) : toShort num den * den =
    halfEven num (den * lastPlace (num / den)) * (den * lastPlace (num / den)) := by
  rw [toShort, Nat.mul_assoc, Nat.mul_comm (lastPlace _)]

/-- Within a part in 2 ^ 53 of a quotient. -/
structure Near (n num den : Nat) : Prop where
  upper : n * den * 2 ^ 53 ≤ num * 2 ^ 53 + num
  lower : num * 2 ^ 53 ≤ n * den * 2 ^ 53 + num

theorem toShort_near {num den : Nat} (pos : 0 < den) (long : 2 ^ 52 ≤ num / den) :
    Near (toShort num den) num den := by
  have steps : 0 < den * lastPlace (num / den) := Nat.mul_pos pos (lastPlace_pos _)
  have up := halfEven_error_le num steps
  have down := le_halfEven_error num steps
  have small := step_le long
  rw [← toShort_mul] at up down
  refine ⟨?_, ?_⟩
  · linarith
  · linarith

theorem Near.pos {n num den : Nat} (h : Near n num den) (positive : 0 < num) : 0 < n := by
  by_contra none
  have lower := h.lower
  rw [Nat.eq_zero_of_not_pos none] at lower
  omega

/-- A whole number is hardly made smaller, whether it is long or not. -/
theorem le_toShort_whole (n : Nat) : n * 2 ^ 53 ≤ toShort n 1 * 2 ^ 53 + n := by
  rcases Nat.lt_or_ge n (2 ^ 52) with few | long
  · have kept : toShort (n * 1) 1 = n := toShort_of_short Nat.one_pos (short_of_le (by omega))
    rw [Nat.mul_one] at kept
    rw [kept]
    exact Nat.le_add_right _ _
  · have digits : 2 ^ 52 ≤ n / 1 := by rwa [Nat.div_one]
    have down := (toShort_near Nat.one_pos digits).lower
    rwa [Nat.mul_one] at down

/-- Rounded twice: a quotient, and the reciprocal of what it is near to. -/
theorem Near.reciprocal {one num den quotient reciprocal : Nat} (pos : 0 < one)
    (first : Near quotient (num * one) den) (second : Near reciprocal (one * one) quotient) :
    reciprocal * num * 2 ^ 53 ≤ one * den * 2 ^ 53 + one * den + reciprocal * num ∧
      one * den * 2 ^ 53 ≤ reciprocal * num * 2 ^ 53 + reciprocal * num + one * den := by
  refine ⟨?_, ?_⟩
  · apply Nat.le_of_mul_le_mul_left _ pos
    have scaled := Nat.mul_le_mul_left reciprocal first.lower
    have bound := Nat.mul_le_mul_left den second.upper
    linarith
  · apply Nat.le_of_mul_le_mul_left _ pos
    have scaled := Nat.mul_le_mul_left reciprocal first.upper
    have bound := Nat.mul_le_mul_left den second.lower
    linarith

end Craftbook.Rounding
