import Craftbook.Proofs.Item.Path
import Craftbook.Source.Render

/-!
Reading generated source from left to right. Main statement: imports and the entries of a table can
be read off the front of a text.
-/
namespace Craftbook

open Text

/-- The text of some lines, each with its end. -/
def textOf (lines : List String) : List Char := lines.flatMap fun line => line.toList ++ ['\n']

theorem textOf_cons (line : String) (lines : List String) :
    textOf (line :: lines) = line.toList ++ '\n' :: textOf lines := by
  rw [textOf, List.flatMap_cons, List.append_assoc]
  rfl

theorem textOf_append (first second : List String) :
    textOf (first ++ second) = textOf first ++ textOf second :=
  List.flatMap_append

theorem textOf_flatMap (xs : List α) (lines : α → List String) :
    textOf (xs.flatMap lines) = xs.flatMap fun x => textOf (lines x) :=
  List.flatMap_assoc

theorem SourceFile.render_toList (file : SourceFile) : file.render.toList = textOf file.lines := by
  rw [render, String.toList_join, List.flatMap_map, textOf]
  simp only [String.toList_append]
  rfl

theorem line_cancels :
    Cancels (fun line => '\n' ∉ line.toList) (fun _ => True)
      fun line : String => line.toList ++ ['\n'] := by
  intro a b r s whole whole' _ _ h
  have run : ∀ {line : String}, '\n' ∉ line.toList → ∀ c ∈ line.toList, (c ≠ '\n' : Bool) := by
    intro line whole c member
    exact decide_eq_true fun same => whole (same ▸ member)
  simp only [List.append_assoc] at h
  obtain ⟨same, rest⟩ := cancel_run (run whole) (run whole') (ends_cons rfl) (ends_cons rfl) h
  exact ⟨String.toList_injective same, (List.cons.inj rest).2⟩

/-- Lines that all begin in the same way, up to a text that does not. -/
theorem lines_cancel (first : Char) :
    Cancels (fun lines => ∀ line ∈ lines, line.toList.head? = some first ∧ '\n' ∉ line.toList)
      (Ends (· = first)) textOf := by
  apply Cancels.blocksFrom
  · intro a b r s valid valid' _ _ h
    exact line_cancels valid.2 valid'.2 trivial trivial h
  · intro line valid
    rw [List.head?_append, valid.1, Option.some_or]

theorem ItemStack.expression_toList (stack : ItemStack) :
    stack.expression.toList =
      "Item::new(".toList ++ (stack.kind.path.toList ++
        (", ".toList ++ ((toString stack.amount).toList ++ ")".toList))) := by
  have expanded : stack.expression =
    "Item::new(" ++ stack.kind.path ++ ", " ++ toString stack.amount ++ ")" := rfl
  simp only [expanded, String.toList_append, List.append_assoc]

theorem stack_cancels :
    Cancels (fun stack => stack.kind.Named) (fun _ => True)
      fun stack : ItemStack => stack.expression.toList := by
  rintro ⟨kind, amount⟩ ⟨kind', amount'⟩ r s named named' _ _ h
  have comma : ∀ s, ItemKind.EndsKind (", ".toList ++ s) := fun _ => ends_cons rfl
  have bracket : ∀ s, Ends Char.isDigit (")".toList ++ s) := fun _ => ends_cons rfl
  simp only [ItemStack.expression_toList, List.append_assoc, List.append_right_inj] at h
  obtain ⟨rfl, amounts⟩ := ItemKind.path_cancels named named' (comma _) (comma _) h
  rw [List.append_right_inj] at amounts
  obtain ⟨rfl, rest⟩ := word_cancels trivial trivial (bracket _) (bracket _) amounts
  exact ⟨rfl, List.append_cancel_left rest⟩

/-- Ingredients up to the end of their list. -/
def stacksText (ingredients : List ItemStack) : List Char :=
  (", ".intercalate (ingredients.map (·.expression))).toList ++ "],".toList

theorem stacksText_nil : stacksText [] = "],".toList := rfl

theorem stacksText_cons (stack : ItemStack) (rest : List ItemStack) :
    stacksText (stack :: rest) =
      stack.expression.toList ++
        ((rest.flatMap fun next => ", ".toList ++ next.expression.toList) ++ "],".toList) := by
  unfold stacksText
  rw [← List.append_assoc, List.append_left_inj]
  induction rest generalizing stack with
  | nil => simp
  | cons next rest ih =>
    rw [List.map_cons, List.map_cons, String.intercalate_cons_cons, ← List.map_cons,
      String.toList_append, String.toList_append, ih, List.flatMap_cons]
    simp only [List.append_assoc]

theorem nextStack_cancels :
    Cancels (fun stack => stack.kind.Named) (fun _ => True)
      fun stack : ItemStack => ", ".toList ++ stack.expression.toList := by
  intro a b r s named named' _ _ h
  simp only [List.append_assoc] at h
  exact stack_cancels named named' trivial trivial (List.append_cancel_left h)

theorem stacks_cancel :
    Cancels (fun ingredients => ∀ stack ∈ ingredients, stack.kind.Named) (fun _ => True) stacksText := by
  have apart : ∀ {stack : ItemStack} {rest : List ItemStack} {r s : List Char},
      stacksText (stack :: rest) ++ r ≠ stacksText [] ++ s := by
    intro stack rest r s h
    rw [stacksText_nil, stacksText_cons, ItemStack.expression_toList] at h
    cases h
  have comma : ∀ s, Ends (· = ',') ("],".toList ++ s) := fun _ => ends_cons rfl
  intro a b r s named named' _ _ h
  cases a with
  | nil =>
    cases b with
    | nil => exact ⟨rfl, List.append_cancel_left h⟩
    | cons y ys => exact absurd h.symm apart
  | cons x xs =>
    cases b with
    | nil => exact absurd h apart
    | cons y ys =>
      simp only [stacksText_cons, List.append_assoc] at h
      obtain ⟨rfl, later⟩ := stack_cancels (named x (by simp)) (named' y (by simp)) trivial trivial h
      obtain ⟨rfl, rest⟩ := nextStack_cancels.blocksFrom
        (fun _ _ => rfl)
        (fun x member => named x (by simp [member])) (fun y member => named' y (by simp [member]))
        (comma _) (comma _) later
      exact ⟨rfl, List.append_cancel_left rest⟩

/-- What a time says of the tick rate. -/
def CraftTime.factor : CraftTime → List Char
  | .base => []
  | .divided divisor => " / ".toList ++ (toString divisor).toList
  | .multiplied multiplier => " * ".toList ++ (toString multiplier).toList

theorem CraftTime.expression_toList (constant : String) (time : CraftTime) :
    (time.expression constant).toList = constant.toList ++ time.factor := by
  cases time with
  | base => exact (List.append_nil _).symm
  | divided divisor =>
    have expanded : (divided divisor).expression constant =
      constant ++ " / " ++ toString divisor := rfl
    rw [expanded, factor, String.toList_append, String.toList_append, List.append_assoc]
  | multiplied multiplier =>
    have expanded : (multiplied multiplier).expression constant =
      constant ++ " * " ++ toString multiplier := rfl
    rw [expanded, factor, String.toList_append, String.toList_append, List.append_assoc]

def timeText (constant : String) (time : CraftTime) : List Char :=
  (time.expression constant).toList ++ ",".toList

theorem time_cancels (constant : String) :
    Cancels (fun _ => True) (fun _ => True) (timeText constant) := by
  have comma : ∀ s, Ends Char.isDigit (",".toList ++ s) := fun _ => ends_cons rfl
  intro a b r s _ _ _ _ h
  simp only [timeText, CraftTime.expression_toList, List.append_assoc, List.append_right_inj] at h
  cases a <;> cases b <;> simp only [CraftTime.factor, List.append_assoc] at h
  case base.base => exact ⟨rfl, List.append_cancel_left h⟩
  case divided.divided =>
    rw [List.append_right_inj] at h
    obtain ⟨rfl, rest⟩ := word_cancels trivial trivial (comma _) (comma _) h
    exact ⟨rfl, List.append_cancel_left rest⟩
  case multiplied.multiplied =>
    rw [List.append_right_inj] at h
    obtain ⟨rfl, rest⟩ := word_cancels trivial trivial (comma _) (comma _) h
    exact ⟨rfl, List.append_cancel_left rest⟩
  -- Different forms differ in one of the two characters after the constant.
  all_goals cases h

def TableEntry.Named (entry : TableEntry) : Prop :=
  (∀ stack ∈ entry.requirements, stack.kind.Named) ∧ entry.result.kind.Named

theorem TableEntry.textOf_lines (constant : String) (entry : TableEntry) :
    textOf (entry.lines constant) =
      r"    Recipe {".toList ++ '\n' :: ("        requirements: &[".toList ++
        (stacksText entry.requirements ++ '\n' :: ("        result: ".toList ++
          (entry.result.expression.toList ++ (",".toList ++ '\n' :: ("        time: ".toList ++
            (timeText constant entry.time ++ '\n' :: (r"    },".toList ++ ['\n'])))))))) := by
  have expanded : entry.lines constant =
    [r"    Recipe {",
      "        requirements: &[" ++ ", ".intercalate (entry.requirements.map (·.expression)) ++ "],",
      "        result: " ++ entry.result.expression ++ ",",
      "        time: " ++ entry.time.expression constant ++ ",",
      r"    },"] := rfl
  rw [expanded, stacksText, timeText]
  simp only [textOf_cons, String.toList_append, List.append_assoc]
  rfl

theorem entry_cancels (constant : String) :
    Cancels TableEntry.Named (fun _ => True) fun entry => textOf (entry.lines constant) := by
  rintro ⟨requirements, result, time⟩ ⟨requirements', result', time'⟩ r s named named' _ _ h
  simp only [TableEntry.textOf_lines, List.append_assoc, List.cons_append, List.append_right_inj,
    List.cons.injEq, true_and] at h
  obtain ⟨rfl, results⟩ := stacks_cancel named.1 named'.1 trivial trivial h
  simp only [List.cons.injEq, true_and, List.append_right_inj] at results
  obtain ⟨rfl, times⟩ := stack_cancels named.2 named'.2 trivial trivial results
  simp only [List.append_right_inj, List.cons.injEq, true_and] at times
  obtain ⟨rfl, rest⟩ := time_cancels constant trivial trivial trivial trivial times
  simp only [List.cons.injEq, true_and, List.append_right_inj] at rest
  exact ⟨rfl, rest⟩

/-- Entries one after the other, up to a text that is not indented. -/
theorem entries_cancel (constant : String) :
    Cancels (fun entries => ∀ entry ∈ entries, TableEntry.Named entry) (Ends (· = ' '))
      fun entries : List TableEntry => entries.flatMap fun entry => textOf (entry.lines constant) := by
  apply Cancels.blocksFrom (entry_cancels constant)
  intro entry _
  simp only [TableEntry.textOf_lines]
  rfl

end Craftbook
