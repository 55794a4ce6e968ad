import Mathlib.Data.List.Forall2

/-!
Texts read from left to right. Main statements: runs of characters, numbers and lists of blocks can
be cancelled at the front of two equal texts, whatever follows them.
-/
namespace Craftbook.Text

/-- No run of such characters goes on here. -/
def Ends (p : Char → Bool) (s : List Char) : Prop := ∀ c ∈ s.head?, p c = false

theorem ends_cons {p : Char → Bool} {c : Char} {s : List Char} (h : p c = false) :
    Ends p (c :: s) := by
  intro d member
  rw [List.head?_cons, Option.mem_some_iff] at member
  rw [← member, h]

theorem cancel_run {p : Char → Bool} {a b r s : List Char} (ha : ∀ c ∈ a, p c) (hb : ∀ c ∈ b, p c)
    (hr : Ends p r) (hs : Ends p s) (h : a ++ r = b ++ s) : a = b ∧ r = s := by
  induction a generalizing b with
  | nil =>
    cases b with
    | nil => exact ⟨rfl, h⟩
    | cons c b =>
      have ended : p c = false := hr c (by rw [show r = c :: (b ++ s) from h]; rfl)
      have runs : p c := hb c (by simp)
      rw [ended] at runs
      cases runs
  | cons c a ih =>
    cases b with
    | nil =>
      have ended : p c = false := hs c (by rw [← show c :: (a ++ r) = s from h]; rfl)
      have runs : p c := ha c (by simp)
      rw [ended] at runs
      cases runs
    | cons d b =>
      obtain ⟨rfl, tails⟩ := List.cons.inj h
      obtain ⟨rfl, rest⟩ := ih (fun c member => ha c (by simp [member]))
        (fun c member => hb c (by simp [member])) tails
      exact ⟨rfl, rest⟩

/-- Writings that can be told from what comes after them: if two texts begin with a writing and are
equal, the writings and the remaining texts are. -/
def Cancels (valid : α → Prop) (after : List Char → Prop) (write : α → List Char) : Prop :=
  ∀ {a b r s}, valid a → valid b → after r → after s → write a ++ r = write b ++ s → a = b ∧ r = s

theorem number_toList (n : Nat) : (toString n).toList = Nat.toDigits 10 n := by
  rw [Nat.toString_eq_repr, Nat.toList_repr]

theorem number_isDigit (n : Nat) : ∀ c ∈ (toString n).toList, c.isDigit := by
  intro c member
  rw [number_toList] at member
  exact Nat.isDigit_of_mem_toDigits (by decide) (by decide) member

theorem number_cancels :
    Cancels (fun _ => True) (Ends Char.isDigit) fun n : Nat => (toString n).toList := by
  intro m n r s _ _ hr hs h
  obtain ⟨same, rest⟩ := cancel_run (number_isDigit m) (number_isDigit n) hr hs h
  rw [number_toList, number_toList] at same
  refine ⟨?_, rest⟩
  rw [← @Nat.ofDigitChars_ten_toDigits m, same, Nat.ofDigitChars_ten_toDigits]

theorem word_cancels :
    Cancels (fun _ => True) (Ends Char.isDigit) fun n : UInt32 => (toString n).toList := by
  intro m n r s _ _ hr hs h
  obtain ⟨same, rest⟩ := number_cancels (a := m.toNat) (b := n.toNat) trivial trivial hr hs h
  exact ⟨UInt32.toNat_inj.1 same, rest⟩

theorem number_begins (n : Nat) :
    ∃ first rest, (toString n).toList = first :: rest ∧ first.isDigit := by
  cases written : (toString n).toList with
  | nil => exact absurd ((number_toList n).symm.trans written) Nat.toDigits_ne_nil
  | cons first rest =>
    refine ⟨first, rest, rfl, number_isDigit n first ?_⟩
    rw [written]
    exact List.mem_cons_self

/-- Blocks one after the other, up to a text that no block begins. -/
theorem Cancels.blocks {valid : α → Prop} {after : List Char → Prop} {write : α → List Char}
    (block : Cancels valid (fun _ => True) write)
    (apart : ∀ {a r s}, valid a → after s → write a ++ r ≠ s) :
    Cancels (fun xs : List α => ∀ x ∈ xs, valid x) after fun xs => xs.flatMap write := by
  intro xs ys r s hx hy hr hs h
  induction xs generalizing ys with
  | nil =>
    cases ys with
    | nil => exact ⟨rfl, h⟩
    | cons y ys =>
      simp only [List.flatMap_cons, List.append_assoc] at h
      exact absurd h.symm (apart (hy y (by simp)) hr)
  | cons x xs ih =>
    cases ys with
    | nil =>
      simp only [List.flatMap_cons, List.append_assoc] at h
      exact absurd h (apart (hx x (by simp)) hs)
    | cons y ys =>
      simp only [List.flatMap_cons, List.append_assoc] at h
      obtain ⟨rfl, tails⟩ := block (hx x (by simp)) (hy y (by simp)) trivial trivial h
      obtain ⟨rfl, rest⟩ := ih (fun x member => hx x (by simp [member]))
        (fun y member => hy y (by simp [member])) tails
      exact ⟨rfl, rest⟩

/-- Blocks that all begin with one character, up to a text that does not. -/
theorem Cancels.blocksFrom {valid : α → Prop} {write : α → List Char} {first : Char}
    (block : Cancels valid (fun _ => True) write)
    (begins : ∀ a, valid a → (write a).head? = some first) :
    Cancels (fun xs : List α => ∀ x ∈ xs, valid x) (Ends (· = first))
      fun xs => xs.flatMap write := by
  apply block.blocks
  intro a r s valid ended h
  obtain ⟨later, written⟩ := List.head?_eq_some_iff.1 (begins a valid)
  rw [written] at h
  have more := ended first (by rw [← h]; rfl)
  simp at more

end Craftbook.Text
