import Craftbook.Proofs.Check

/-!
Two runs of a chain of checks that end alike: with the same result, or with errors that correspond.
Main statement: chains whose checks run alike one by one run alike as a whole.
-/
namespace Craftbook

/-- Two runs end alike. A run that ends with an excused error may be followed by any other. -/
inductive Alike (excused : ε → Prop) (related : ε → ε → Prop) : Except ε α → Except ε α → Prop
  | ok (a : α) : Alike excused related (.ok a) (.ok a)
  | error {e e' : ε} (h : related e e') : Alike excused related (.error e) (.error e')
  | excused {e : ε} (h : excused e) (y : Except ε α) : Alike excused related (.error e) y

namespace Alike

variable {excused : ε → Prop} {related : ε → ε → Prop}

theorem of_ok {a : α} {y : Except ε α} (h : Alike excused related (.ok a) y) : y = .ok a := by
  cases h
  rfl

theorem of_error {e : ε} {y : Except ε α} (h : Alike excused related (.error e) y)
    (refused : ¬ excused e) : ∃ e', related e e' ∧ y = .error e' := by
  cases h with
  | error h => exact ⟨_, h, rfl⟩
  | excused h => exact absurd h refused

theorem refl (same : ∀ e, related e e) (x : Except ε α) : Alike excused related x x := by
  cases x with
  | ok a => exact .ok a
  | error e => exact .error (same e)

theorem bind {x y : Except ε α} {f g : α → Except ε β} (first : Alike excused related x y)
    (next : ∀ a, x = .ok a → Alike excused related (f a) (g a)) :
    Alike excused related (x >>= f) (y >>= g) := by
  cases first with
  | ok a => exact next a rfl
  | error h => exact .error h
  | excused h y => exact .excused h (y >>= g)

theorem mapM {f : α → Except ε γ} {g : β → Except ε γ} {xs : List α} {ys : List β}
    (each : List.Forall₂ (fun x y => Alike excused related (f x) (g y)) xs ys) :
    Alike excused related (xs.mapM f) (ys.mapM g) := by
  induction each with
  | nil => exact .ok []
  | cons first _ ih =>
    rw [List.mapM_cons, List.mapM_cons]
    apply first.bind
    intro c _
    apply ih.bind
    intro cs _
    exact .ok (c :: cs)

theorem mapError {excused' : δ → Prop} {related' : δ → δ → Prop} {x y : Except ε α}
    (h : Alike excused related x y) {f : ε → δ} (excuses : ∀ e, excused e → excused' (f e))
    (relates : ∀ e e', related e e' → related' (f e) (f e')) :
    Alike excused' related' (x.mapError f) (y.mapError f) := by
  cases h with
  | ok a => exact .ok a
  | error h => exact .error (relates _ _ h)
  | excused h y => exact .excused (excuses _ h) (y.mapError f)

end Alike

end Craftbook
