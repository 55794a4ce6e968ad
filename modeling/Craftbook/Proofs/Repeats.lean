import Mathlib.Data.Finset.Card
import Mathlib.Data.List.Induction

/-!
Lists in which elements stand more than once: which of them are there for the first time, and which
again.
-/
namespace Craftbook

variable {α : Type*} [DecidableEq α]

/-- For each element whether it stands in the list for the first time. -/
def firstTimes (xs : List α) : List Bool := xs.zipIdx.map fun (x, i) => x ∉ xs.take i

/-- The elements that do not stand in the list for the first time, as often as they do so. -/
def repeats (xs : List α) : List α := (xs.zipIdx.filter fun (x, i) => x ∈ xs.take i).map (·.1)

omit [DecidableEq α] in
/-- What stands before an element is the same in a longer list. -/
theorem take_of_mem_zipIdx {xs : List α} (more : List α) {x : α} {i : Nat}
    (member : (x, i) ∈ xs.zipIdx) : (xs ++ more).take i = xs.take i := by
  have bound := List.snd_lt_of_mem_zipIdx member
  rw [List.take_append_of_le_length (by simpa using bound.le)]

theorem firstTimes_concat (xs : List α) (x : α) :
    firstTimes (xs ++ [x]) = firstTimes xs ++ [decide (x ∉ xs)] := by
  rw [firstTimes, List.zipIdx_append, List.map_append]
  congr 1
  · apply List.map_congr_left
    rintro ⟨y, i⟩ member
    simp only [take_of_mem_zipIdx [x] member]
  · simp

theorem repeats_concat (xs : List α) (x : α) :
    repeats (xs ++ [x]) = repeats xs ++ if x ∈ xs then [x] else [] := by
  rw [repeats, List.zipIdx_append, List.filter_append, List.map_append]
  congr 1
  · congr 1
    apply List.filter_congr
    rintro ⟨y, i⟩ member
    simp only [take_of_mem_zipIdx [x] member]
  · by_cases seen : x ∈ xs <;> simp [seen]

theorem eraseDups_concat (xs : List α) (x : α) :
    (xs ++ [x]).eraseDups = if x ∈ xs then xs.eraseDups else xs.eraseDups ++ [x] := by
  rw [List.eraseDups_append]
  by_cases seen : x ∈ xs <;> simp [List.removeAll, List.eraseDups_cons, seen]

theorem eraseDups_nodup (xs : List α) : xs.eraseDups.Nodup := by
  induction xs using List.reverseRecOn with
  | nil => simp
  | append_singleton xs x ih =>
    rw [eraseDups_concat]
    split
    · exact ih
    · rename_i new
      rw [(List.perm_append_singleton x _).nodup_iff, List.nodup_cons, List.mem_eraseDups]
      exact ⟨new, ih⟩

theorem length_eraseDups (xs : List α) : xs.eraseDups.length = xs.toFinset.card := by
  rw [← List.toFinset_card_of_nodup (eraseDups_nodup xs)]
  congr 1
  ext x
  simp

theorem count_firstTimes (xs : List α) : (firstTimes xs).count true = xs.toFinset.card := by
  rw [← length_eraseDups]
  induction xs using List.reverseRecOn with
  | nil => rfl
  | append_singleton xs x ih =>
    rw [firstTimes_concat, eraseDups_concat, List.count_append, ih]
    by_cases seen : x ∈ xs <;> simp [seen]

theorem repeats_eq_nil {xs : List α} (distinct : xs.Nodup) : repeats xs = [] := by
  induction xs using List.reverseRecOn with
  | nil => rfl
  | append_singleton xs x ih =>
    rw [(List.perm_append_singleton x xs).nodup_iff, List.nodup_cons] at distinct
    rw [repeats_concat, ih distinct.2, if_neg distinct.1, List.append_nil]

end Craftbook
