import Craftbook.Recipe.Record

/-!
A recipe book: sets of recipes by key, in the order in which the keys were first put in.
-/
namespace Craftbook

structure Book where
  sets : List (String × List Definition)
  nodupKeys : (sets.map (·.1)).Nodup

namespace Book

def empty : Book := ⟨[], .nil⟩

def keys (book : Book) : List String := book.sets.map (·.1)

def size (book : Book) : Nat := book.sets.length

def get? (book : Book) (key : String) : Option (List Definition) := book.sets.lookup key

/-- The sets with one of them replaced where it stands. -/
def replace (key : String) (recipes : List Definition) (sets : List (String × List Definition)) :
    List (String × List Definition) :=
  sets.map fun set => if set.1 = key then (key, recipes) else set

theorem keys_replace (key : String) (recipes : List Definition)
    (sets : List (String × List Definition)) :
    (replace key recipes sets).map (·.1) = sets.map (·.1) := by
  simp only [replace, List.map_map]
  apply List.map_congr_left
  intro set _
  by_cases h : set.1 = key <;> simp [h]

theorem nodup_append {key : String} {recipes : List Definition}
    {sets : List (String × List Definition)} (h : (sets.map (·.1)).Nodup)
    (new : key ∉ sets.map (·.1)) : ((sets ++ [(key, recipes)]).map (·.1)).Nodup := by
  rw [List.map_append, List.nodup_append]
  refine ⟨h, by simp, ?_⟩
  intro a ha b hb hab
  simp only [List.map_cons, List.map_nil, List.mem_singleton] at hb
  exact new (hb ▸ hab ▸ ha)

/-- Adds a set at the end, or replaces it where it stands and reports that. -/
def insert (book : Book) (key : String) (recipes : List Definition) : Traced ε Book :=
  if h : key ∈ book.sets.map (·.1) then do
    Traced.report (.setReplaced key)
    pure ⟨replace key recipes book.sets, by rw [keys_replace]; exact book.nodupKeys⟩
  else
    pure ⟨book.sets ++ [(key, recipes)], nodup_append book.nodupKeys h⟩

def insertAll (book : Book) : List (String × List Definition) → Traced ε Book
  | [] => pure book
  | (key, recipes) :: rest => do
    let book ← book.insert key recipes
    book.insertAll rest

end Book

end Craftbook
