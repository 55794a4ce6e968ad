/-!
Words: texts with a given first character that go on with ASCII letters, digits or underscores.
-/
namespace Craftbook.Text

def IsLetter (c : Char) : Prop := ('A' ≤ c ∧ c ≤ 'Z') ∨ ('a' ≤ c ∧ c ≤ 'z')

instance : DecidablePred IsLetter := fun c =>
  inferInstanceAs (Decidable (('A' ≤ c ∧ c ≤ 'Z') ∨ ('a' ≤ c ∧ c ≤ 'z')))

def IsWordChar (c : Char) : Prop := IsLetter c ∨ ('0' ≤ c ∧ c ≤ '9') ∨ c = '_'

def Word (start : Char → Prop) (text : String) : Prop :=
  ∃ first rest, text.toList = first :: rest ∧ start first ∧ ∀ c ∈ rest, IsWordChar c

theorem isAlpha_iff {c : Char} : c.isAlpha ↔ IsLetter c := by
  have upper : c.isUpper ↔ 'A' ≤ c ∧ c ≤ 'Z' :=
    decide_eq_true_iff (p := c.val ≥ 'A'.val ∧ c.val ≤ 'Z'.val)
  have lower : c.isLower ↔ 'a' ≤ c ∧ c ≤ 'z' := by
    have bounds : c.isLower = (decide ('a' ≤ c) && decide (c ≤ 'z')) := rfl
    rw [bounds, Bool.and_eq_true, decide_eq_true_iff, decide_eq_true_iff]
  have either : c.isAlpha = (c.isUpper || c.isLower) := rfl
  rw [either, Bool.or_eq_true, upper, lower, IsLetter]

theorem isAlphanum_or_underscore_iff {c : Char} :
    (c.isAlphanum || c = '_') ↔ IsWordChar c := by
  simp [Char.isAlphanum, Char.isDigit, IsWordChar, ← isAlpha_iff, Char.le_def, or_assoc]

end Craftbook.Text
