import Mathlib.Data.List.Forall2

/-!
Lists that run side by side, and the places of their elements.
-/
namespace Craftbook

theorem flatMap_eq_of_forall₂ {R : α → β → Prop} {f : α → List γ} {g : β → List γ} {xs : List α}
    {ys : List β} (related : List.Forall₂ R xs ys) (same : ∀ x y, R x y → f x = g y) :
    xs.flatMap f = ys.flatMap g := by
  induction related with
  | nil => rfl
  | cons first _ ih => rw [List.flatMap_cons, List.flatMap_cons, same _ _ first, ih]

/-- Two lists that run along the same one run along each other. -/
theorem forall₂_of_left {R : α → β → Prop} {S : α → γ → Prop} {T : β → γ → Prop} {xs : List α}
    {ys : List β} {zs : List γ} (along : List.Forall₂ R xs ys) (along' : List.Forall₂ S xs zs)
    (join : ∀ x y z, R x y → S x z → T y z) : List.Forall₂ T ys zs := by
  induction along generalizing zs with
  | nil =>
    cases along'
    exact .nil
  | cons first _ ih =>
    cases along' with
    | cons first' rest' => exact .cons (join _ _ _ first first') (ih rest')

theorem forall₂_congr_left {R S : α → β → Prop} {xs : List α} {ys : List β}
    (same : ∀ x ∈ xs, ∀ y, R x y ↔ S x y) : List.Forall₂ R xs ys ↔ List.Forall₂ S xs ys := by
  induction xs generalizing ys with
  | nil => simp
  | cons x xs ih =>
    rw [List.forall_mem_cons] at same
    simp only [List.forall₂_cons_left_iff, same.1, ih same.2]

/-- A list that runs along another splits where that one does. -/
theorem exists_split_right {R : α → β → Prop} {before after : List α} {x : α} {ys : List β}
    (related : List.Forall₂ R (before ++ x :: after) ys) :
    ∃ before' y after', ys = before' ++ y :: after' ∧ List.Forall₂ R before before' ∧ R x y := by
  induction before generalizing ys with
  | nil =>
    cases related with
    | cons first _ => exact ⟨[], _, _, rfl, .nil, first⟩
  | cons z before ih =>
    cases related with
    | cons first rest =>
      obtain ⟨before', y, after', rfl, along, there⟩ := ih rest
      exact ⟨_ :: before', y, after', rfl, .cons first along, there⟩

theorem exists_forall₂_iff {R : α → β → Prop} {xs : List α} :
    (∃ ys, List.Forall₂ R xs ys) ↔ ∀ x ∈ xs, ∃ y, R x y := by
  induction xs with
  | nil => simp
  | cons x xs ih =>
    rw [List.forall_mem_cons, ← ih]
    simp only [List.forall₂_cons_left_iff]
    grind

theorem exists_of_mem_right {R : α → β → Prop} {xs : List α} {ys : List β}
    (related : List.Forall₂ R xs ys) {y : β} (member : y ∈ ys) : ∃ x ∈ xs, R x y := by
  induction related with
  | nil => cases member
  | cons first _ ih =>
    rcases List.mem_cons.1 member with rfl | member
    · exact ⟨_, List.mem_cons_self, first⟩
    · obtain ⟨x, there, holds⟩ := ih member
      exact ⟨x, List.mem_cons_of_mem _ there, holds⟩

/-- Some element on one side has a property exactly if one on the other side has what corresponds. -/
theorem exists_mem_iff_of_forall₂ {R : α → β → Prop} {P : α → Prop} {Q : β → Prop} {xs : List α}
    {ys : List β} (related : List.Forall₂ R xs ys) (same : ∀ x y, R x y → (P x ↔ Q y)) :
    (∃ x ∈ xs, P x) ↔ ∃ y ∈ ys, Q y := by
  induction related with
  | nil => simp
  | cons first _ ih => rw [List.exists_mem_cons_iff, List.exists_mem_cons_iff, same _ _ first, ih]

theorem exists_getElem?_left {R : α → β → Prop} {xs : List α} {ys : List β}
    (related : List.Forall₂ R xs ys) {i : Nat} {y : β} (there : ys[i]? = some y) :
    ∃ x, xs[i]? = some x ∧ R x y := by
  induction related generalizing i with
  | nil => cases there
  | cons first _ ih =>
    cases i with
    | zero =>
      cases there
      exact ⟨_, rfl, first⟩
    | succ i => exact ih there

theorem place_unique {f : α → β} {xs : List α} (distinct : (xs.map f).Nodup) {i j : Nat} {x y : α}
    (hi : xs[i]? = some x) (hj : xs[j]? = some y) (same : f x = f y) : i = j := by
  have bound : i < (xs.map f).length := by
    rw [List.length_map]
    exact (List.getElem?_eq_some_iff.1 hi).1
  apply (List.getElem?_inj bound distinct).1
  rw [List.getElem?_map, List.getElem?_map, hi, hj, Option.map_some, Option.map_some, same]

/-- Two ways to split a list at an element are at the same place if neither goes past the other. -/
theorem length_eq_of_splits {before before' after after' : List α} {x x' : α}
    (same : before ++ x :: after = before' ++ x' :: after')
    (first : ∀ mid, before' ≠ before ++ x :: mid)
    (first' : ∀ mid, before ≠ before' ++ x' :: mid) : before.length = before'.length := by
  rcases List.append_eq_append_iff.1 same with ⟨mid, longer, rest⟩ | ⟨mid, longer, rest⟩
  · cases mid with
    | nil => simp [longer]
    | cons y mid =>
      cases rest
      exact absurd longer (first mid)
  · cases mid with
    | nil => simp [longer]
    | cons y mid =>
      cases rest
      exact absurd longer (first' mid)

end Craftbook
