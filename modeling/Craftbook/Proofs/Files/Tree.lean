import Craftbook.Files.System
import Craftbook.Proofs.Keyed

/-!
Trees of directories and files. Main statement: a file that is put into a directory is seen at its
own place and nowhere else.
-/
namespace Craftbook

/-- What stands at a place, without what lies below it. -/
inductive Node where
  | file (bytes : ByteArray)
  | directory

namespace FileTree

section Entries
variable {name other : String} {tree tree' : FileTree} {entries : Entries}

@[simp] theorem lookup_put_self : (put name tree entries).lookup name = some tree := by
  induction entries with
  | nil => simp [put]
  | cons entry rest ih =>
    rw [put]
    split
    · simp
    · rename_i different
      rwa [List.lookup_cons, beq_false_of_ne (Ne.symm different)]

theorem lookup_put_of_ne (different : other ≠ name) :
    (put name tree entries).lookup other = entries.lookup other := by
  induction entries with
  | nil => simp [put, List.lookup_cons, beq_false_of_ne different]
  | cons entry rest ih =>
    rw [put]
    split
    · rename_i same
      rw [List.lookup_cons, List.lookup_cons, same, beq_false_of_ne different]
    · rw [List.lookup_cons, List.lookup_cons, ih]

@[simp] theorem put_put : put name tree (put name tree' entries) = put name tree entries := by
  induction entries with
  | nil => simp [put]
  | cons entry rest ih =>
    rw [put, put]
    split
    · simp [put]
    · rename_i different
      rw [put, if_neg different, ih]

theorem put_of_lookup (found : entries.lookup name = some tree) :
    put name tree entries = entries := by
  induction entries with
  | nil => cases found
  | cons entry rest ih =>
    rw [List.lookup_cons] at found
    rw [put]
    split
    · rename_i same
      simp only [← same, beq_self_eq_true, Option.some.injEq] at found
      rw [← same, ← found]
    · rename_i different
      rw [beq_false_of_ne (Ne.symm different)] at found
      rw [ih found]

theorem put_of_absent (absent : name ∉ entries.map (·.1)) :
    put name tree entries = entries ++ [(name, tree)] := by
  induction entries with
  | nil => rfl
  | cons entry rest ih =>
    simp only [List.map_cons, List.mem_cons, not_or] at absent
    rw [put, if_neg (Ne.symm absent.1), ih absent.2, List.cons_append]

theorem erase_put_of_absent (absent : name ∉ entries.map (·.1)) :
    erase name (put name tree entries) = entries := by
  have kept : entries.filter (·.1 ≠ name) = entries := by
    rw [List.filter_eq_self]
    intro entry member
    rw [decide_eq_true_eq]
    rintro rfl
    exact absent (List.mem_map_of_mem member)
  rw [put_of_absent absent, erase, List.filter_append, kept]
  simp

end Entries

section Change
variable {f g : Entries → Entries} {names : List String} {tree : FileTree} {entries : Entries}

theorem find?_append (here below : List String) (tree : FileTree) :
    find? (here ++ below) tree = (find? here tree).bind (find? below) := by
  induction here generalizing tree with
  | nil => rfl
  | cons name rest ih =>
    cases tree with
    | file => rfl
    | directory entries =>
      rw [List.cons_append, find?, find?, Option.bind_assoc]
      exact congrArg _ (funext ih)

/-- A place below the root is reached through a directory at the root. -/
theorem find?_cons_eq_some {name : String} {found : FileTree}
    (h : find? (name :: names) tree = some found) :
    ∃ entries below, tree = .directory entries ∧ entries.lookup name = some below ∧
      find? names below = some found := by
  cases tree with
  | file => cases h
  | directory entries =>
    obtain ⟨below, present, later⟩ := Option.bind_eq_some_iff.1 h
    exact ⟨entries, below, rfl, present, later⟩

theorem change_directory (f : Entries → Entries) (names : List String) (entries : Entries) :
    ∃ entries', change f names (.directory entries) = .directory entries' := by
  cases names with
  | nil => exact ⟨f entries, rfl⟩
  | cons name rest =>
    rw [change]
    split
    · exact ⟨_, rfl⟩
    · exact ⟨entries, rfl⟩

theorem change_change (f g : Entries → Entries) (names : List String) (tree : FileTree) :
    change g names (change f names tree) = change (fun entries => g (f entries)) names tree := by
  induction names generalizing tree with
  | nil => cases tree <;> rfl
  | cons name rest ih =>
    cases tree with
    | file => rfl
    | directory entries =>
      cases present : entries.lookup name with
      | none => simp [change, present]
      | some below => simp [change, present, ih]

theorem find?_change (found : find? names tree = some (.directory entries)) :
    find? names (change f names tree) = some (.directory (f entries)) := by
  induction names generalizing tree with
  | nil =>
    cases found
    rfl
  | cons name rest ih =>
    obtain ⟨_, below, rfl, present, reached⟩ := find?_cons_eq_some found
    simp [change, present, find?, ih reached]

/-- A change only depends on what it makes of the entries that are there. -/
theorem change_congr (found : find? names tree = some (.directory entries))
    (same : f entries = g entries) : change f names tree = change g names tree := by
  induction names generalizing tree with
  | nil =>
    cases found
    rw [change, change, same]
  | cons name rest ih =>
    obtain ⟨_, below, rfl, present, reached⟩ := find?_cons_eq_some found
    simp [change, present, ih reached]

theorem change_self (names : List String) (tree : FileTree) :
    change (fun entries => entries) names tree = tree := by
  induction names generalizing tree with
  | nil => cases tree <;> rfl
  | cons name rest ih =>
    cases tree with
    | file => rfl
    | directory entries =>
      cases present : entries.lookup name with
      | none => simp [change, present]
      | some below => simp [change, present, ih, put_of_lookup present]

end Change

/-- What is seen of a tree without going into it. -/
def node : FileTree → Node
  | .file bytes => .file bytes
  | .directory _ => .directory

/-- What names lead to. -/
def look (names : List String) (tree : FileTree) : Option Node := (find? names tree).map node

@[simp] theorem look_nil (tree : FileTree) : look [] tree = some tree.node := rfl

@[simp] theorem look_cons (name : String) (rest : List String) (entries : Entries) :
    look (name :: rest) (.directory entries) = (entries.lookup name).bind (look rest) := by
  rw [look, find?, Option.map_bind]
  rfl

theorem look_cons_file (name : String) (rest : List String) (bytes : ByteArray) :
    look (name :: rest) (.file bytes) = none := rfl

/-- Nothing lies below what is not a directory. -/
theorem bind_look_of_not_directory {below : Option FileTree}
    (free : ∀ entries, below ≠ some (.directory entries)) (name : String) (rest : List String) :
    below.bind (look (name :: rest)) = none := by
  cases below with
  | none => rfl
  | some tree =>
    cases tree with
    | file bytes => exact look_cons_file name rest bytes
    | directory entries => exact absurd rfl (free entries)

/-- A file that takes no directory's place is seen at its own place and nowhere else. -/
theorem look_change_put {names : List String} {tree : FileTree} {entries : Entries} {name : String}
    (found : find? names tree = some (.directory entries))
    (free : ∀ below, entries.lookup name ≠ some (.directory below)) (bytes : ByteArray)
    (place : List String) :
    look place (change (put name (.file bytes)) names tree) =
      if place = names ++ [name] then some (.file bytes) else look place tree := by
  -- One step towards the directory at a time, on the path that is looked at and on the tree.
  induction names generalizing tree place with
  | nil =>
    cases found
    cases place with
    | nil => simp [change, node]
    | cons first later =>
      by_cases same : first = name
      · subst same
        cases later with
        | nil => simp [change, node]
        | cons second later => simp [change, look_cons_file, bind_look_of_not_directory free]
      · simp [change, lookup_put_of_ne same, same]
  | cons step names ih =>
    obtain ⟨_, below, rfl, present, reached⟩ := find?_cons_eq_some found
    cases place with
    | nil => simp [change, present, node]
    | cons first later =>
      by_cases same : first = step
      · subst same
        simp [change, present, ih reached]
      · simp [change, present, lookup_put_of_ne same, same]

end FileTree

end Craftbook
