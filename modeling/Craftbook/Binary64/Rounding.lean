/-!
Rounding a quotient of naturals to 53 significant binary digits, ties to even. Main statement:
whatever the quotient, what comes out has at most 53 significant digits.
-/
namespace Craftbook.Rounding

/-- The nearest whole number to `num / den`; a tie goes to the even neighbour. -/
def halfEven (num den : Nat) : Nat :=
  let whole := num / den
  let twice := 2 * (num % den)
  if twice < den then whole else if den < twice then whole + 1 else whole + whole % 2

/-- The weight of the last of the 53 leading binary digits of `n`. -/
def lastPlace (n : Nat) : Nat := Nat.pow 2 (n.log2 - 52)

/-- At most 53 significant binary digits. -/
def Short (n : Nat) : Prop := lastPlace n ∣ n

instance (n : Nat) : Decidable (Short n) := inferInstanceAs (Decidable (_ ∣ _))

/-- `num / den` rounded to 53 significant binary digits. Quotients below 2 ^ 53 are rounded to
whole numbers, which makes the unit of the result the spacing of the smallest numbers. -/
def toShort (num den : Nat) : Nat :=
  let step := lastPlace (num / den)
  halfEven num (den * step) * step

theorem halfEven_le (num den : Nat) : halfEven num den ≤ num / den + 1 := by
  unfold halfEven
  dsimp only
  split
  · omega
  · split <;> omega

theorem short_mul_two_pow {m : Nat} (h : m ≤ Nat.pow 2 53) (k : Nat) :
    Short (m * Nat.pow 2 k) := by
  unfold Short lastPlace
  simp only [Nat.pow_eq] at h ⊢
  rcases Nat.lt_or_eq_of_le h with h | rfl
  · by_cases hm : m = 0
    · simp [hm]
    · have hpos : m * 2 ^ k ≠ 0 := Nat.mul_ne_zero hm (Nat.pos_iff_ne_zero.1 (Nat.two_pow_pos k))
      have hlt : m * 2 ^ k < 2 ^ (53 + k) := by
        rw [Nat.pow_add]
        exact Nat.mul_lt_mul_of_pos_right h (Nat.two_pow_pos k)
      have hlog : (m * 2 ^ k).log2 < 53 + k := (Nat.log2_lt hpos).2 hlt
      exact Nat.dvd_trans (Nat.pow_dvd_pow 2 (by omega)) (Nat.dvd_mul_left _ _)
  · rw [← Nat.pow_add, Nat.log2_two_pow]
    exact Nat.pow_dvd_pow 2 (by omega)

theorem lt_lastPlace_mul (n : Nat) : n < lastPlace n * Nat.pow 2 53 := by
  unfold lastPlace
  simp only [Nat.pow_eq]
  rw [← Nat.pow_add]
  exact Nat.lt_of_lt_of_le Nat.lt_log2_self (Nat.pow_le_pow_right (by decide) (by omega))

theorem toShort_short (num den : Nat) : Short (toShort num den) := by
  unfold toShort
  refine short_mul_two_pow ?_ _
  refine Nat.le_trans (halfEven_le _ _) ?_
  rw [← Nat.div_div_eq_div_mul]
  exact Nat.div_lt_of_lt_mul (lt_lastPlace_mul _)

end Craftbook.Rounding
