import Craftbook.Proofs.Source.Reading

/-!
Reading declarations back. Main statement: a declaration is determined by its lines.
-/
namespace Craftbook

open Text

/-- A role whose kind, if it has one, has a well-formed name. -/
def SlotRole.Named : SlotRole → Prop
  | .input filter => filter.Named
  | .output => True

namespace LayoutArm

theorem slotLine_toList (slot : Slot) :
    (slotLine slot).toList =
      "                SlotMeta::new(".toList ++ ((toString slot.capacity).toList ++
        (", ".toList ++ (slot.role.expression.toList ++ "),".toList))) := by
  have expanded : slotLine slot =
    "                SlotMeta::new(" ++ toString slot.capacity ++ ", " ++ slot.role.expression ++
      ")," := rfl
  simp only [expanded, String.toList_append, List.append_assoc]

def Named (arm : LayoutArm) : Prop := ∀ slot ∈ arm.slots, slot.role.Named

theorem textOf_lines (arm : LayoutArm) :
    textOf arm.lines =
      "        ".toList ++ ((toString arm.index).toList ++ (r" => {".toList ++
        '\n' :: ("            const SLOTS: &[SlotMeta] = &[".toList ++
          '\n' :: (textOf (arm.slots.map slotLine) ++ ("            ];".toList ++
            '\n' :: ("            SLOTS".toList ++ '\n' :: (r"        }".toList ++ ['\n']))))))) := by
  have expanded : arm.lines =
    ["        " ++ toString arm.index ++ r" => {",
      "            const SLOTS: &[SlotMeta] = &["] ++ arm.slots.map slotLine ++
      ["            ];", "            SLOTS", r"        }"] := rfl
  rw [expanded, textOf_append, textOf_append]
  simp only [textOf_cons, String.toList_append, List.append_assoc, List.cons_append]
  rfl

end LayoutArm

namespace IndexArm

theorem line_toList (arm : IndexArm) :
    arm.line.toList =
      "        ".toList ++ (arm.pattern.path.toList ++
        (" => Some(".toList ++ ((toString arm.index).toList ++ "),".toList))) := by
  have expanded : arm.line =
    "        " ++ arm.pattern.path ++ " => Some(" ++ toString arm.index ++ ")," := rfl
  simp only [expanded, String.toList_append, List.append_assoc]

theorem line_cancels :
    Cancels (fun arm => arm.pattern.Named) (fun _ => True)
      fun arm : IndexArm => arm.line.toList ++ ['\n'] := by
  have arrow : ∀ s, ItemKind.EndsKind (" => Some(".toList ++ s) := fun _ => ends_cons rfl
  have bracket : ∀ s, Ends Char.isDigit ("),".toList ++ s) := fun _ => ends_cons rfl
  rintro ⟨pattern, index⟩ ⟨pattern', index'⟩ r s named named' _ _ h
  simp only [line_toList, List.append_assoc, List.append_right_inj] at h
  obtain ⟨rfl, numbers⟩ := ItemKind.path_cancels named named' (arrow _) (arrow _) h
  rw [List.append_right_inj] at numbers
  obtain ⟨rfl, rest⟩ := number_cancels trivial trivial (bracket _) (bracket _) numbers
  simp only [List.append_right_inj] at rest
  exact ⟨rfl, rest⟩

/-- Arms one after the other, up to the arm for all other kinds. -/
theorem lines_cancel :
    Cancels (fun arms : List IndexArm => ∀ arm ∈ arms, arm.pattern.Named)
      (fun s => ∃ t, s = "        _".toList ++ t)
      fun arms : List IndexArm => textOf (arms.map line) := by
  have apart : ∀ {arm : IndexArm} {r s : List Char}, arm.pattern.Named →
      (∃ t, s = "        _".toList ++ t) → arm.line.toList ++ ['\n'] ++ r ≠ s := by
    rintro arm r s - ⟨t, rfl⟩ h
    rw [line_toList, ItemKind.path_toList] at h
    cases h
  intro a b r s named named' ended ended' h
  simp only [textOf, List.flatMap_map] at h
  exact line_cancels.blocks apart named named' ended ended' h

end IndexArm

namespace Declaration

/-- A declaration whose kinds have well-formed names. -/
def Named : Declaration → Prop
  | .table _ entries => ∀ entry ∈ entries, entry.Named
  | .layoutLookup _ arms => ∀ arm ∈ arms, arm.Named
  | .indexLookup _ arms => ∀ arm ∈ arms, arm.pattern.Named

end Declaration

end Craftbook
