import Craftbook.Proofs.Aligned

/-!
Chains of checks that end at the first problem: when a chain succeeds, and which of its problems it
reports. Main statement: a chain over a list reports the first of the problems of its elements.
-/
namespace Craftbook

theorem bind_eq_ok_iff {x : Except ε α} {f : α → Except ε β} {b : β} :
    (x >>= f) = .ok b ↔ ∃ a, x = .ok a ∧ f a = .ok b := by
  cases x <;> simp [bind, Except.bind]

theorem bind_eq_error_iff {x : Except ε α} {f : α → Except ε β} {e : ε} :
    (x >>= f) = .error e ↔ x = .error e ∨ ∃ a, x = .ok a ∧ f a = .error e := by
  cases x <;> simp [bind, Except.bind]

theorem bind_ok_eq_error_iff {x : Except ε α} {f : α → β} {e : ε} :
    (x >>= fun a => .ok (f a)) = .error e ↔ x = .error e := by
  cases x <;> simp [bind, Except.bind]

theorem mapError_eq_ok_iff {x : Except ε α} {f : ε → δ} {a : α} :
    x.mapError f = .ok a ↔ x = .ok a := by
  cases x <;> simp [Except.mapError]

theorem mapError_eq_error_iff {x : Except ε α} {f : ε → δ} {d : δ} :
    x.mapError f = .error d ↔ ∃ e, x = .error e ∧ f e = d := by
  cases x <;> simp [Except.mapError]

theorem toOption_eq_some_iff {x : Except ε α} {a : α} : x.toOption = some a ↔ x = .ok a := by
  cases x <;> simp [Except.toOption]

theorem mapM_eq_ok_iff {f : α → Except ε β} {xs : List α} {ys : List β} :
    xs.mapM f = .ok ys ↔ List.Forall₂ (fun x y => f x = .ok y) xs ys := by
  induction xs generalizing ys with
  | nil => cases ys <;> simp [pure, Except.pure]
  | cons x xs ih =>
    simp only [List.mapM_cons, bind_eq_ok_iff, List.forall₂_cons_left_iff]
    refine ⟨?_, ?_⟩
    · rintro ⟨y, hy, rest, hrest, h⟩
      exact ⟨y, rest, hy, ih.1 hrest, (Except.ok.inj h).symm⟩
    · rintro ⟨y, rest, hy, hrest, rfl⟩
      exact ⟨y, hy, rest, ih.2 hrest, rfl⟩

/-- The first element that fails is the one whose error is reported. -/
theorem mapM_eq_error_iff {f : α → Except ε β} {xs : List α} {e : ε} :
    xs.mapM f = .error e ↔ ∃ before x after, xs = before ++ x :: after ∧
      (∀ y ∈ before, ∃ b, f y = .ok b) ∧ f x = .error e := by
  induction xs with
  | nil => simp [pure, Except.pure]
  | cons x xs ih =>
    rw [List.mapM_cons, bind_eq_error_iff]
    constructor
    · rintro (fails | ⟨y, passes, later⟩)
      · exact ⟨[], x, xs, rfl, by simp, fails⟩
      · rcases bind_eq_error_iff.1 later with fails | ⟨_, _, impossible⟩
        · obtain ⟨before, z, after, rfl, sound, failed⟩ := ih.1 fails
          exact ⟨x :: before, z, after, rfl, List.forall_mem_cons.2 ⟨⟨y, passes⟩, sound⟩, failed⟩
        · cases impossible
    · rintro ⟨before, z, after, split, sound, fails⟩
      cases before with
      | nil =>
        cases split
        exact .inl fails
      | cons x' before =>
        cases split
        rw [List.forall_mem_cons] at sound
        obtain ⟨y, passes⟩ := sound.1
        refine .inr ⟨y, passes, bind_eq_error_iff.2 (.inl ?_)⟩
        exact ih.2 ⟨before, z, after, rfl, sound.2, fails⟩

theorem mapM_congr {f g : α → Except ε β} {xs : List α} (same : ∀ x ∈ xs, f x = g x) :
    xs.mapM f = xs.mapM g := by
  induction xs with
  | nil => rfl
  | cons x xs ih =>
    rw [List.forall_mem_cons] at same
    rw [List.mapM_cons, List.mapM_cons, same.1, ih same.2]

/-- Success if there are no faults, and else failure with the first of them. -/
def StopsAtFirst (faults : List ε) (x : Except ε α) : Prop :=
  ∀ e, x = .error e ↔ faults.head? = some e

namespace StopsAtFirst

theorem ok (a : α) : StopsAtFirst (ε := ε) [] (.ok a) := by
  intro e
  simp

theorem error (e : ε) (later : List ε) : StopsAtFirst (α := α) (e :: later) (.error e) := by
  intro e'
  simp

theorem eq_nil {faults : List ε} {a : α} (h : StopsAtFirst faults (.ok a)) : faults = [] := by
  cases faults with
  | nil => rfl
  | cons e _ => simpa using h e

theorem eq_cons {faults : List ε} {e : ε} (h : StopsAtFirst (α := α) faults (.error e)) :
    ∃ later, faults = e :: later :=
  List.head?_eq_some_iff.1 ((h e).1 rfl)

theorem faults_eq_nil_iff {faults : List ε} {x : Except ε α} (h : StopsAtFirst faults x) :
    faults = [] ↔ ∃ a, x = .ok a := by
  cases x with
  | ok a => simp [h.eq_nil]
  | error e =>
    obtain ⟨later, rfl⟩ := h.eq_cons
    simp

theorem bind {faults more : List ε} {x : Except ε α} {f : α → Except ε β}
    (first : StopsAtFirst faults x) (next : ∀ a, x = .ok a → StopsAtFirst more (f a)) :
    StopsAtFirst (faults ++ more) (x >>= f) := by
  cases x with
  | ok a =>
    rw [first.eq_nil]
    exact next a rfl
  | error e =>
    obtain ⟨later, rfl⟩ := first.eq_cons
    exact StopsAtFirst.error e (later ++ more)

theorem bind_ok {faults : List ε} {x : Except ε α} {f : α → β} (h : StopsAtFirst faults x) :
    StopsAtFirst faults (x >>= fun a => .ok (f a)) := by
  have never : ∀ a, x = .ok a → StopsAtFirst (ε := ε) [] (.ok (f a)) :=
    fun a _ => StopsAtFirst.ok (f a)
  simpa using h.bind never

theorem mapError {faults : List ε} {x : Except ε α} (h : StopsAtFirst faults x) (f : ε → δ) :
    StopsAtFirst (faults.map f) (x.mapError f) := by
  cases x with
  | ok a =>
    rw [h.eq_nil]
    exact StopsAtFirst.ok a
  | error e =>
    obtain ⟨later, rfl⟩ := h.eq_cons
    exact StopsAtFirst.error (f e) (later.map f)

theorem mapM {faults : α → List ε} {f : α → Except ε β} {xs : List α}
    (each : ∀ x ∈ xs, StopsAtFirst (faults x) (f x)) :
    StopsAtFirst (xs.flatMap faults) (xs.mapM f) := by
  induction xs with
  | nil => exact StopsAtFirst.ok []
  | cons x xs ih =>
    rw [List.mapM_cons, List.flatMap_cons]
    refine (each x (by simp)).bind fun y _ => ?_
    exact (ih fun x hx => each x (by simp [hx])).bind_ok

end StopsAtFirst

end Craftbook
