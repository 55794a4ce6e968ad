import Craftbook.Text.Blank
import Mathlib.Data.List.DropRight

/-!
White space at the ends of a text. Main statement: two texts differ in that alone exactly if what is
left of them without it is the same.
-/
namespace Craftbook.Text

/-- The text between white space, of which there may be any amount before and after. -/
def Spaced (core text : List Char) : Prop :=
  ∃ before after, (∀ c ∈ before, isBlank c) ∧ (∀ c ∈ after, isBlank c) ∧
    text = before ++ core ++ after

/-- Two texts that are the same but for white space at their ends. -/
def Respaced (s t : String) : Prop := ∃ core, Spaced core s.toList ∧ Spaced core t.toList

theorem trim_eq (s : List Char) : trim s = (s.dropWhile isBlank).rdropWhile isBlank := rfl

theorem spaced_trim (s : List Char) : Spaced (trim s) s := by
  refine ⟨s.takeWhile isBlank, (s.dropWhile isBlank).rtakeWhile isBlank, ?_, ?_, ?_⟩
  · intro c member
    exact List.mem_takeWhile_imp member
  · intro c member
    exact List.mem_rtakeWhile_imp member
  · rw [trim_eq, List.append_assoc, List.rdropWhile_append_rtakeWhile,
      List.takeWhile_append_dropWhile]

theorem Spaced.trim_eq {core text : List Char} (h : Spaced core text) : trim text = trim core := by
  obtain ⟨before, after, blankBefore, blankAfter, rfl⟩ := h
  have late : (after.reverse).dropWhile isBlank = [] := by
    rw [List.dropWhile_eq_nil_iff]
    intro c member
    exact blankAfter c (List.mem_reverse.1 member)
  rw [trim, trim, List.append_assoc, List.dropWhile_append_of_pos blankBefore,
    List.dropWhile_append]
  split
  · rename_i blank
    rw [List.isEmpty_iff] at blank
    have gone : after.dropWhile isBlank = [] := List.dropWhile_eq_nil_iff.2 blankAfter
    rw [blank, gone]
  · rw [List.reverse_append, List.dropWhile_append, late]
    rfl

theorem respaced_iff {s t : String} : Respaced s t ↔ trim s.toList = trim t.toList := by
  constructor
  · rintro ⟨core, spaced, spaced'⟩
    exact spaced.trim_eq.trans spaced'.trim_eq.symm
  · intro same
    refine ⟨trim s.toList, spaced_trim s.toList, ?_⟩
    rw [same]
    exact spaced_trim t.toList

instance (s t : String) : Decidable (Respaced s t) := decidable_of_iff' _ respaced_iff

theorem Respaced.refl (s : String) : Respaced s s := respaced_iff.2 rfl

theorem Respaced.symm {s t : String} (h : Respaced s t) : Respaced t s :=
  respaced_iff.2 (respaced_iff.1 h).symm

end Craftbook.Text
