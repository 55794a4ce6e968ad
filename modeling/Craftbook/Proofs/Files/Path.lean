import Craftbook.Files.Path
import Mathlib.Data.List.DropRight

/-!
The directory part of a path. Main statement: what leads to it is what leads to the path, but for the
last name.
-/
namespace Craftbook.Path

theorem startsWith_slash_iff {path : String} :
    path.startsWith "/" = true ↔ ∃ rest, path.toList = '/' :: rest := by
  rw [String.startsWith_string_iff]
  constructor
  · rintro ⟨rest, same⟩
    exact ⟨rest, same.symm⟩
  · rintro ⟨rest, same⟩
    exact ⟨rest, same.symm⟩

theorem endsWith_slash_iff {path : String} :
    path.endsWith "/" = true ↔ ∃ front, path.toList = front ++ ['/'] := by
  rw [← String.endsWith_toSlice, String.Slice.endsWith_string_iff, String.copy_toSlice]
  constructor
  · rintro ⟨front, same⟩
    exact ⟨front, same.symm⟩
  · rintro ⟨front, same⟩
    exact ⟨front, same.symm⟩

/-- The names of a path that lead on: all but those that a directory has for itself. -/
def moves (path : String) : List String := (names path).filter (· ≠ ".")

section Names
variable {name : List Char}

theorem names_append_slash (front rest : List Char) :
    names (.ofList (front ++ '/' :: rest)) = names (.ofList front) ++ names (.ofList rest) := by
  simp only [names, String.toList_ofList, List.splitOn_append_cons_self, List.map_append,
    List.filter_append]

theorem names_slash (front : List Char) :
    names (.ofList (front ++ ['/'])) = names (.ofList front) := by
  rw [names_append_slash]
  exact List.append_nil _

theorem names_of_name (plain : '/' ∉ name) (named : name ≠ []) :
    names (.ofList name) = [.ofList name] := by
  have given : String.ofList name ≠ "" := fun empty => named (String.ofList_eq_empty_iff.1 empty)
  simp [names, String.toList_ofList, List.splitOn_eq_singleton plain, given]

theorem names_append_name {front : List Char}
    (ends : front = [] ∨ ∃ before, front = before ++ ['/']) (plain : '/' ∉ name)
    (named : name ≠ []) :
    names (.ofList (front ++ name)) = names (.ofList front) ++ [.ofList name] := by
  rw [← names_of_name plain named]
  obtain rfl | ⟨before, rfl⟩ := ends
  · rfl
  · rw [List.append_assoc, List.singleton_append, names_append_slash, names_slash]

theorem moves_dropTrailing (path : List Char) :
    moves (.ofList (dropTrailing path).reverse) = moves (.ofList path.reverse) := by
  induction path using dropTrailing.induct with
  | case1 => rw [dropTrailing]
  | case2 rest further ih =>
    rw [dropTrailing, ih, moves, moves, List.reverse_cons, names_slash]
    exact further
  | case3 rest ih =>
    have dot : names (.ofList ['.']) = ["."] := names_of_name (by decide) (by decide)
    have stays : ('.' :: '/' :: rest).reverse = rest.reverse ++ '/' :: ['.'] := by simp
    rw [dropTrailing, ih, moves, moves, stays, List.reverse_cons, names_slash, names_append_slash,
      dot, List.filter_append]
    exact (List.append_nil _).symm
  | case4 path => rw [dropTrailing] <;> assumption

theorem dropTrailing_suffix (path : List Char) : dropTrailing path <:+ path := by
  induction path using dropTrailing.induct with
  | case1 => simp [dropTrailing]
  | case2 rest further ih =>
    rw [dropTrailing]
    · exact ih.trans (List.suffix_cons _ _)
    · exact further
  | case3 rest ih =>
    rw [dropTrailing]
    exact ih.trans (List.suffix_cons _ _)
  | case4 path =>
    have stays : dropTrailing path = path := by rw [dropTrailing] <;> assumption
    exact stays.symm ▸ List.suffix_rfl

/-- Something is left of what is not empty, if only the root. -/
theorem dropTrailing_ne_nil {path : List Char} (named : path ≠ []) : dropTrailing path ≠ [] := by
  induction path using dropTrailing.induct with
  | case1 => simp [dropTrailing]
  | case2 rest further ih =>
    rw [dropTrailing]
    · exact ih further
    · exact further
  | case3 rest ih => rw [dropTrailing]; exact ih (List.cons_ne_nil _ _)
  | case4 path => rw [dropTrailing] <;> assumption

end Names

/-- A path that ends in a name which leads on, behind a front part that is empty or ends in a
slash. -/
structure EndsIn (path : String) (front name : List Char) : Prop where
  whole : path.toList = front ++ name
  front : front = [] ∨ ∃ before, front = before ++ ['/']
  plain : '/' ∉ name
  named : name ≠ []
  proper : name ≠ ['.']

namespace EndsIn
variable {path : String} {front name : List Char}

theorem names_eq (h : EndsIn path front name) :
    names path = names (.ofList front) ++ [.ofList name] := by
  rw [← String.ofList_toList (s := path), h.whole, names_append_name h.front h.plain h.named]

theorem dropTrailing_eq (h : EndsIn path front name) :
    dropTrailing path.toList.reverse = path.toList.reverse := by
  rw [h.whole, List.reverse_append]
  have apart : ∀ c ∈ name.reverse, c ≠ '/' := by
    rintro c member rfl
    exact h.plain (List.mem_reverse.1 member)
  have long : name.reverse ≠ ['.'] := fun dot => h.proper (List.reverse_eq_iff.1 dot)
  cases back : name.reverse with
  | nil => exact absurd (List.reverse_eq_nil_iff.1 back) h.named
  | cons last rest =>
    rw [back] at apart long
    rw [List.forall_mem_cons] at apart
    rw [List.cons_append]
    unfold dropTrailing
    split
    · rename_i slash
      exact absurd (List.cons.inj slash).1 apart.1
    · rename_i slash
      exact absurd (List.cons.inj slash).1 apart.1
    · rename_i dotted
      obtain ⟨rfl, slash⟩ := List.cons.inj dotted
      cases rest with
      | nil => exact absurd rfl long
      | cons before rest => exact absurd (List.cons.inj slash).1 (apart.2 before (by simp))
    · rfl

theorem dropWhile_eq (h : EndsIn path front name) :
    path.toList.reverse.dropWhile (· ≠ '/') = front.reverse := by
  have skipped : ∀ c ∈ name.reverse, (decide (c ≠ '/')) = true := by
    intro c member
    rw [decide_eq_true_eq]
    rintro rfl
    exact h.plain (List.mem_reverse.1 member)
  rw [h.whole, List.reverse_append, List.dropWhile_append_of_pos skipped]
  obtain rfl | ⟨before, rfl⟩ := h.front
  · rfl
  · simp

theorem parent?_eq (h : EndsIn path front name) :
    parent? path = some (.ofList (dropTrailing front.reverse).reverse) := by
  have backwards : path.toList.reverse ≠ [] ∧ path.toList.reverse ≠ ['/'] := by
    rw [h.whole]
    constructor
    · simp [h.named]
    · intro slash
      obtain ⟨-, rfl⟩ | ⟨-, rfl⟩ := List.append_eq_singleton_iff.1 (List.reverse_eq_iff.1 slash)
      · exact h.plain (List.mem_singleton_self _)
      · exact h.named rfl
  rw [parent?, h.dropTrailing_eq]
  split
  · rename_i none
    exact absurd none backwards.1
  · rename_i root
    exact absurd root backwards.2
  · rw [h.dropWhile_eq]

/-- The directory part stands at the front of the path, if there is one. -/
theorem directoryOf_cases (h : EndsIn path front name) :
    (front = [] ∧ directoryOf path = ".") ∨
      (directoryOf path ≠ "" ∧ directoryOf path = .ofList (dropTrailing front.reverse).reverse) := by
  rw [directoryOf, h.parent?_eq]
  by_cases bare : front = []
  · left
    simp [bare, dropTrailing]
  · right
    have kept : String.ofList (dropTrailing front.reverse).reverse ≠ "" := by
      rw [ne_eq, String.ofList_eq_empty_iff, List.reverse_eq_nil_iff]
      exact dropTrailing_ne_nil (by simpa using bare)
    split
    · rename_i absent
      cases absent
    · rename_i empty
      exact absurd (Option.some.inj empty) kept
    · rename_i same
      cases same
      exact ⟨kept, rfl⟩

theorem moves_directoryOf (h : EndsIn path front name) :
    moves (directoryOf path) = moves (.ofList front) := by
  obtain ⟨rfl, beside⟩ | ⟨-, same⟩ := h.directoryOf_cases
  · rw [beside]
    decide +kernel
  · rw [same, moves_dropTrailing, List.reverse_reverse]

/-- The directory part is the path's own beginning, unless it is the working directory. -/
theorem directoryOf_prefix (h : EndsIn path front name) :
    (path.startsWith "/" = false ∧ directoryOf path = ".") ∨
      (directoryOf path ≠ "" ∧ (directoryOf path).toList <+: path.toList) := by
  obtain ⟨rfl, beside⟩ | ⟨kept, same⟩ := h.directoryOf_cases
  · refine .inl ⟨?_, beside⟩
    rw [← Bool.not_eq_true, startsWith_slash_iff]
    rintro ⟨rest, rooted⟩
    apply h.plain
    rw [← List.nil_append name, ← h.whole, rooted]
    exact List.mem_cons_self
  · have part := List.reverse_prefix.2 (dropTrailing_suffix front.reverse)
    rw [List.reverse_reverse] at part
    refine .inr ⟨kept, ?_⟩
    rw [same, String.toList_ofList, h.whole]
    exact part.trans (List.prefix_append _ _)

end EndsIn

theorem exists_endsIn {path : String} (plain : path.endsWith "/" = false)
    (proper : isDots (lastName path) = false) : ∃ front name, EndsIn path front name := by
  let name := path.toList.rtakeWhile (· ≠ '/')
  let front := path.toList.rdropWhile (· ≠ '/')
  have whole : path.toList = front ++ name := (List.rdropWhile_append_rtakeWhile).symm
  have apart : '/' ∉ name := fun member => by
    simpa using List.mem_rtakeWhile_imp member
  have ends : front = [] ∨ ∃ before, front = before ++ ['/'] := by
    refine or_iff_not_imp_left.2 fun some => ⟨front.dropLast, ?_⟩
    have last : front.getLast some = '/' := by
      have stopped := List.rdropWhile_last_not (· ≠ '/') path.toList some
      rwa [decide_eq_true_eq, not_not] at stopped
    rw [← last, List.dropLast_append_getLast]
  have named : name ≠ [] := by
    intro none
    rw [none, List.append_nil] at whole
    obtain empty | ⟨before, slash⟩ := ends
    · rw [empty, String.toList_eq_nil_iff] at whole
      subst whole
      simp [lastName, names, isDots] at proper
    · have slashed := endsWith_slash_iff.2 ⟨before, whole.trans slash⟩
      rw [plain] at slashed
      cases slashed
  refine ⟨front, name, whole, ends, apart, named, ?_⟩
  intro dot
  have last := names_append_name ends apart named
  rw [← whole, String.ofList_toList] at last
  rw [lastName, last, List.getLastD_concat, dot] at proper
  simp [isDots] at proper

end Craftbook.Path
