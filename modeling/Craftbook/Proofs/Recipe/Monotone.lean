import Craftbook.Proofs.Recipe.Duration

/-!
The order of durations and of their tick counts. Main statement: a longer duration never has fewer
ticks, whichever forms the two are given and whether or not their numbers were cut to a word.
-/
namespace Craftbook
open Binary64 Rounding

namespace Binary64
variable {m n : Nat} {hm : Representable m} {hn : Representable n}

theorem toWord_mono (le : m ≤ n) :
    (finite false m hm).toWord.toNat ≤ (finite false n hn).toWord.toNat := by
  rw [toWord_finite, toWord_finite]
  exact min_le_min_right _ (nearestWhole_mono le)

theorem toWord_reciprocal_antitone (nonzero : 0 < m) (le : m ≤ n) :
    (1 / finite false n hn).toWord.toNat ≤ (1 / finite false m hm).toWord.toNat := by
  have nonzero' := Nat.lt_of_lt_of_le nonzero le
  rw [toWord_reciprocal nonzero, toWord_reciprocal nonzero']
  apply min_le_min_right
  apply nearestWhole_mono
  exact toShort_mono nonzero' nonzero (Nat.mul_le_mul_left (oneUnits * oneUnits) le)

end Binary64

namespace CraftTime
variable {rate : UInt32} {m n : Nat} {hm : Representable m} {hn : Representable n}

/-- The ticks of a duration's form, of which a word may not hold all. -/
def count (rate : UInt32) (seconds : Binary64) : Nat :=
  if seconds < 1 then rate.toNat / (1 / seconds).toWord.toNat
  else rate.toNat * seconds.toWord.toNat

theorem count_below (below : m < oneUnits) : count rate (finite false m hm) =
    rate.toNat / (1 / finite false m hm).toWord.toNat :=
  if_pos (lt_one_iff.2 below)

theorem count_above (above : oneUnits ≤ m) : count rate (finite false m hm) =
    rate.toNat * (finite false m hm).toWord.toNat :=
  if_neg (mt lt_one_iff.1 (Nat.not_lt.2 above))

theorem ticks?_eq_some_iff_count {seconds : Binary64} {time : CraftTime}
    (nearest : nearest? seconds = some time) {ticks : UInt32} :
    time.ticks? rate = some ticks ↔ ticks.toNat = count rate seconds := by
  obtain ⟨m, h, rfl, nonzero⟩ := positive_of_nearest? nearest
  rcases Nat.lt_or_ge m oneUnits with below | above
  · rw [nearest?_below nonzero below, Option.some_inj] at nearest
    subst nearest
    rw [count_below below, ticks?_divided_iff (reciprocal_word_pos nonzero below)]
  · obtain ⟨_, same, counts⟩ := nearest?_second above (h := h)
    rw [same, Option.some_inj] at nearest
    subst nearest
    rw [count_above above, counts]

/-- A greater divisor leaves less, a greater multiplier makes more, and between the two lie the ticks
of one second. -/
theorem count_mono (nonzero : 0 < m) (le : m ≤ n) :
    count rate (finite false m hm) ≤ count rate (finite false n hn) := by
  rcases Nat.lt_or_ge n oneUnits with below | above
  · rw [count_below below, count_below (Nat.lt_of_le_of_lt le below)]
    apply Nat.div_le_div_left (toWord_reciprocal_antitone nonzero le)
    exact reciprocal_word_pos (Nat.lt_of_lt_of_le nonzero le) below
  · rcases Nat.lt_or_ge m oneUnits with below | above'
    · rw [count_below below, count_above above]
      calc rate.toNat / (1 / finite false m hm).toWord.toNat ≤ rate.toNat := Nat.div_le_self _ _
        _ ≤ rate.toNat * (finite false n hn).toWord.toNat :=
            Nat.le_mul_of_pos_right _ (word_pos above)
    · rw [count_above above, count_above above']
      exact Nat.mul_le_mul_left _ (toWord_mono le)

/-- If a word holds the ticks of a duration, it holds those of every shorter one, and they are not
more. -/
theorem ticks?_mono {seconds seconds' : Binary64} (order : seconds ≤ seconds')
    {time time' : CraftTime} (first : nearest? seconds = some time)
    (second : nearest? seconds' = some time') {ticks' : UInt32}
    (counted : time'.ticks? rate = some ticks') :
    ∃ ticks, time.ticks? rate = some ticks ∧ ticks ≤ ticks' := by
  have fewer : count rate seconds ≤ ticks'.toNat := by
    rw [(ticks?_eq_some_iff_count second).1 counted]
    obtain ⟨m, hm, rfl, nonzero⟩ := positive_of_nearest? first
    obtain ⟨n, hn, rfl, -⟩ := positive_of_nearest? second
    exact count_mono nonzero (le_iff.1 order)
  have word : (UInt32.ofNat (count rate seconds)).toNat = count rate seconds :=
    UInt32.toNat_ofNat_of_lt (Nat.lt_of_le_of_lt fewer ticks'.toNat_lt)
  refine ⟨_, (ticks?_eq_some_iff_count first).2 word, ?_⟩
  rwa [UInt32.le_iff_toNat_le, word]

end CraftTime

namespace Quantizer
variable {q : Quantizer} {shorter longer : Binary64}

theorem ticks_le_of_le (order : shorter ≤ longer) {recipe recipe' : String}
    {time time' : CraftTime} {ticks ticks' : UInt32}
    (accepted : q.quantize recipe shorter = .ok (time, ticks))
    (accepted' : q.quantize recipe' longer = .ok (time', ticks')) : ticks ≤ ticks' := by
  obtain ⟨first, counted, -⟩ := quantize_eq_ok_iff.1 accepted
  obtain ⟨second, counted', -⟩ := quantize_eq_ok_iff.1 accepted'
  obtain ⟨fewer, same, le⟩ := CraftTime.ticks?_mono order first second counted'
  obtain rfl : fewer = ticks := Option.some.inj (same.symm.trans counted)
  exact le

/-- Both durations have forms. If a word holds the ticks of the longer one, it holds those of the
shorter one too, and they are not more; so accepted recipes are never the other way round. -/
theorem ticks_monotone (q : Quantizer) (valid : shorter.isFinite ∧ 0 < shorter)
    (valid' : longer.isFinite ∧ 0 < longer) (order : shorter ≤ longer) :
    (∃ time time', CraftTime.nearest? shorter = some time ∧
      CraftTime.nearest? longer = some time' ∧
      ∀ ticks', time'.ticks? q.rate = some ticks' →
        ∃ ticks, time.ticks? q.rate = some ticks ∧ ticks ≤ ticks') ∧
    ∀ recipe recipe' time time' ticks ticks',
      q.quantize recipe shorter = .ok (time, ticks) →
        q.quantize recipe' longer = .ok (time', ticks') → ticks ≤ ticks' := by
  refine ⟨?_, fun _ _ _ _ _ _ accepted accepted' => ticks_le_of_le order accepted accepted'⟩
  obtain ⟨time, first⟩ := CraftTime.exists_nearest?_iff.2 valid
  obtain ⟨time', second⟩ := CraftTime.exists_nearest?_iff.2 valid'
  exact ⟨time, time', first, second,
    fun _ counted => CraftTime.ticks?_mono order first second counted⟩

/-- A duration whose divisor is cut to the greatest word, and one second. -/
theorem ticks_monotone_saturated :
    let brief := Decimal.toBinary64 false ⟨1, -10⟩
    (brief.isFinite ∧ 0 < brief) ∧ ((1 : Binary64).isFinite ∧ (0 : Binary64) < 1) ∧ brief ≤ 1 ∧
      quantize ⟨4294967295, Config.tolerance {}⟩ "Brick" brief = .ok (.divided 4294967295, 1) ∧
      quantize ⟨4294967295, Config.tolerance {}⟩ "Pane" 1 = .ok (.base, 4294967295) ∧
      (∃ time time', CraftTime.nearest? brief = some time ∧ CraftTime.nearest? 1 = some time' ∧
        ∀ ticks', time'.ticks? 4294967295 = some ticks' →
          ∃ ticks, time.ticks? 4294967295 = some ticks ∧ ticks ≤ ticks') ∧
      (1 : UInt32) ≤ 4294967295 := by
  intro brief
  have valid : brief.isFinite ∧ 0 < brief := by decide +kernel
  have valid' : (1 : Binary64).isFinite ∧ (0 : Binary64) < 1 := by decide +kernel
  have order : brief ≤ 1 := by decide +kernel
  have accepted : quantize ⟨4294967295, Config.tolerance {}⟩ "Brick" brief =
      .ok (.divided 4294967295, 1) := by decide +kernel
  have accepted' : quantize ⟨4294967295, Config.tolerance {}⟩ "Pane" 1 =
      .ok (.base, 4294967295) := by decide +kernel
  obtain ⟨forms, ordered⟩ :=
    ticks_monotone ⟨4294967295, Config.tolerance {}⟩ valid valid' order
  exact ⟨valid, valid', order, accepted, accepted', forms, ordered _ _ _ _ _ _ accepted accepted'⟩

end Quantizer

end Craftbook
