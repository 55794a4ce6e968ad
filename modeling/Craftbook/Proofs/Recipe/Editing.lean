import Craftbook.Proofs.Recipe.Acceptance
import Mathlib.Data.List.FinRange

/-!
Sets after an edit of their definitions. Main statements: definitions added at the end leave the
records and layouts before them as they are, and moved definitions take theirs along.
-/
namespace Craftbook

/-- The elements of a list in another order: each place has what stood where the permutation says. -/
def permuted (xs : List α) (p : Equiv.Perm (Fin xs.length)) : List α := List.ofFn (xs.get ∘ p)

/-- As `permuted`, for lists that run along the permuted one. -/
structure Rearranged (p : Equiv.Perm (Fin n)) (xs ys : List α) : Prop where
  before : xs.length = n
  after : ys.length = n
  places : ∀ i : Fin n, ys[i.val]? = xs[(p i).val]?

theorem permuted_rearranged (xs : List α) (p : Equiv.Perm (Fin xs.length)) :
    Rearranged p xs (permuted xs p) where
  before := rfl
  after := by simp [permuted]
  places i := by simp [permuted]

namespace Rearranged

theorem eq_permuted {xs ys : List α} {p : Equiv.Perm (Fin xs.length)} (h : Rearranged p xs ys) :
    ys = permuted xs p := by
  apply List.ext_getElem?
  intro i
  by_cases inside : i < xs.length
  · exact (h.places ⟨i, inside⟩).trans ((permuted_rearranged xs p).places ⟨i, inside⟩).symm
  · simp [permuted, inside, h.after]

theorem perm {p : Equiv.Perm (Fin n)} {xs ys : List α} (h : Rearranged p xs ys) : ys.Perm xs := by
  obtain rfl := h.before
  rw [h.eq_permuted]
  conv_rhs => rw [← List.ofFn_get xs]
  exact p.ofFn_comp_perm xs.get

theorem map {p : Equiv.Perm (Fin n)} {xs ys : List α} (h : Rearranged p xs ys) (f : α → β) :
    Rearranged p (xs.map f) (ys.map f) where
  before := by rw [List.length_map, h.before]
  after := by rw [List.length_map, h.after]
  places i := by rw [List.getElem?_map, List.getElem?_map, h.places i]

/-- What is made of each element by itself is moved as the elements are. -/
theorem forall₂ {p : Equiv.Perm (Fin n)} {R : α → β → Prop} {xs xs' : List α} {ys ys' : List β}
    (h : Rearranged p xs xs') (functional : ∀ x y y', R x y → R x y' → y = y')
    (made : List.Forall₂ R xs ys) (made' : List.Forall₂ R xs' ys') : Rearranged p ys ys' := by
  refine ⟨by rw [← made.length_eq, h.before], by rw [← made'.length_eq, h.after], ?_⟩
  intro i
  have inside : i.val < ys'.length := by
    rw [← made'.length_eq, h.after]
    exact i.isLt
  obtain ⟨x, there, holds⟩ := exists_getElem?_left made' (List.getElem?_eq_getElem inside)
  have inside' : (p i).val < ys.length := by
    rw [← made.length_eq, h.before]
    exact (p i).isLt
  obtain ⟨x', there', holds'⟩ := exists_getElem?_left made (List.getElem?_eq_getElem inside')
  rw [h.places i, there', Option.some_inj] at there
  subst there
  rw [List.getElem?_eq_getElem inside, List.getElem?_eq_getElem inside',
    functional _ _ _ holds holds']

end Rearranged

namespace Compiler

theorem accepts_perm {c : Compiler} {set : SetConfig} {recipes recipes' : List Definition}
    (h : recipes'.Perm recipes) : c.Accepts set recipes' ↔ c.Accepts set recipes := by
  have symmetric : ∀ {d e : Definition}, c.names.resolve? d.name ≠ c.names.resolve? e.name →
      c.names.resolve? e.name ≠ c.names.resolve? d.name := Ne.symm
  refine ⟨fun ⟨each, distinct⟩ => ⟨?_, (h.pairwise_iff symmetric).1 distinct⟩,
    fun ⟨each, distinct⟩ => ⟨?_, (h.pairwise_iff symmetric).2 distinct⟩⟩
  · exact fun d member => each d (h.mem_iff.2 member)
  · exact fun d member => each d (h.mem_iff.1 member)

end Compiler

namespace CompiledSet

/-- A set as far as its first so many recipes go. -/
def firstPart (count : Nat) (set : CompiledSet) : CompiledSet :=
  ⟨set.config, set.records.take count, set.layouts.map fun table => ⟨table.entries.take count⟩⟩

end CompiledSet

theorem Compiler.LayoutsOf.take {set : SetConfig} {records : List Record}
    {layouts : Option SlotTable} (h : LayoutsOf set records layouts) (count : Nat) :
    LayoutsOf set (records.take count) (layouts.map fun table => ⟨table.entries.take count⟩) := by
  unfold LayoutsOf at h ⊢
  by_cases laidOut : set.policy.layouts
  · rw [if_pos laidOut] at h ⊢
    obtain ⟨table, rfl, filled⟩ := h
    exact ⟨_, rfl, List.forall₂_take count filled⟩
  · rw [if_neg laidOut] at h ⊢
    rw [h, Option.map_none]

/-- What is compiled for the first definitions is the first part of what is compiled for all. -/
theorem Compiler.SetOf.firstPart {c : Compiler} {set : SetConfig} {recipes extra : List Definition}
    {compiled : CompiledSet} (h : c.SetOf set (recipes ++ extra) compiled) :
    c.SetOf set recipes (compiled.firstPart recipes.length) where
  config := h.config
  records := by
    have shorter := List.forall₂_take recipes.length h.records
    rwa [List.take_left] at shorter
  distinct := by
    rw [CompiledSet.firstPart, List.map_take]
    exact h.distinct.sublist (List.take_sublist _ _)
  layouts := h.layouts.take recipes.length

end Craftbook
