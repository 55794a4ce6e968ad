import Craftbook.Proofs.Check
import Craftbook.Proofs.Files.Tree

/-!
File systems seen by their places. Following and reading a path depend on what stands at places
only; so where one file has been replaced, every other file is read as before.
-/
namespace Craftbook

theorem Place.step_of_name {name : String} (named : Path.isDots name = false) (here : Place) :
    here.step name = here.child name := by
  simp only [Path.isDots, Bool.or_eq_false_iff, decide_eq_false_iff_not] at named
  rw [step, if_neg named.1, if_neg named.2]

theorem Place.child_eq_ok_iff {name : String} {here place : Place} :
    here.child name = .ok place ↔
      name.utf8ByteSize ≤ longestName ∧ place = ⟨here.names ++ [name]⟩ := by
  rw [child]
  split
  · rename_i long
    simp [Nat.not_le.2 long]
  · rename_i short
    rw [Except.ok.injEq, and_iff_right (Nat.not_lt.1 short), eq_comm]

theorem Path.accept_eq_ok_iff {path : String} :
    accept path = .ok () ↔ '\x00' ∉ path.toList ∧ path.utf8ByteSize ≤ longest ∧ path ≠ "" := by
  rw [accept, String.contains_char_eq]
  split
  · simp_all
  · split
    · rename_i long
      simp [Nat.not_le.2 long]
    · split <;> simp_all

namespace FileSystem
variable {fs after : FileSystem} {here place : Place} {path text : String}

section Change
variable {f g : FileTree.Entries → FileTree.Entries} {entries : FileTree.Entries}

theorem eq_of_root (here : after.here = fs.here) (roots : after.root = fs.root) : after = fs := by
  cases fs
  cases after
  cases here
  cases roots
  rfl

theorem root_change (f : FileTree.Entries → FileTree.Entries) (place : Place) :
    (fs.change f place).root = fs.root.change f place.names := by
  obtain ⟨entries, changed⟩ := FileTree.change_directory f place.names fs.entries
  simp only [change, root, changed]

@[simp] theorem here_change (f : FileTree.Entries → FileTree.Entries) (place : Place) :
    (fs.change f place).here = fs.here := by
  rw [change]
  split <;> rfl

theorem directory_eq_ok_iff :
    fs.directory place = .ok entries ↔ fs.find? place = some (.directory entries) := by
  rw [directory]
  split <;> simp_all

theorem change_change (f g : FileTree.Entries → FileTree.Entries) (place : Place) :
    (fs.change f place).change g place = fs.change (fun entries => g (f entries)) place := by
  apply eq_of_root
  · simp
  · simp only [root_change, FileTree.change_change]

theorem change_congr (found : fs.directory place = .ok entries) (same : f entries = g entries) :
    fs.change f place = fs.change g place := by
  apply eq_of_root
  · simp
  · rw [root_change, root_change]
    exact FileTree.change_congr (directory_eq_ok_iff.1 found) same

theorem directory_change (found : fs.directory place = .ok entries) :
    (fs.change f place).directory place = .ok (f entries) := by
  rw [directory_eq_ok_iff] at found ⊢
  rw [find?, root_change]
  exact FileTree.find?_change found

theorem change_self (place : Place) : fs.change (fun entries => entries) place = fs := by
  apply eq_of_root
  · simp
  · rw [root_change, FileTree.change_self]

end Change

/-- What stands at a place. -/
def look (fs : FileSystem) (place : Place) : Option Node := (fs.find? place).map FileTree.node

theorem look_eq (place : Place) : fs.look place = fs.root.look place.names := rfl

theorem look_eq_directory_iff_find? :
    fs.look place = some .directory ↔ ∃ entries, fs.find? place = some (.directory entries) := by
  simp only [look, Option.map_eq_some_iff]
  constructor
  · rintro ⟨tree, found, seen⟩
    cases tree with
    | file bytes => cases seen
    | directory entries => exact ⟨entries, found⟩
  · rintro ⟨entries, found⟩
    exact ⟨_, found, rfl⟩

theorem look_eq_directory_iff :
    fs.look place = some .directory ↔ ∃ entries, fs.directory place = .ok entries := by
  simp only [directory_eq_ok_iff, look_eq_directory_iff_find?]

section Follow

theorem follow_cons (step : String) (rest : List String) :
    fs.follow here (step :: rest) =
      fs.directory here >>= fun _ => here.step step >>= fun next => fs.follow next rest := rfl

theorem follow_append (here : Place) (steps more : List String) :
    fs.follow here (steps ++ more) = fs.follow here steps >>= fun next => fs.follow next more := by
  induction steps generalizing here with
  | nil => rfl
  | cons step rest ih =>
    rw [List.cons_append, follow_cons, follow_cons, bind_assoc]
    congr
    funext _
    rw [bind_assoc]
    exact congrArg _ (funext ih)

/-- A path that can be followed can be followed where all directories are still there. -/
theorem follow_of_directories
    (kept : ∀ place, fs.look place = some .directory → after.look place = some .directory)
    {steps : List String} (h : fs.follow here steps = .ok place) :
    after.follow here steps = .ok place := by
  induction steps generalizing here with
  | nil => exact h
  | cons step rest ih =>
    simp only [follow_cons, bind_eq_ok_iff] at h ⊢
    obtain ⟨entries, found, next, stepped, later⟩ := h
    have still := kept here (look_eq_directory_iff.2 ⟨entries, found⟩)
    obtain ⟨entries', found'⟩ := look_eq_directory_iff.1 still
    exact ⟨entries', found', next, stepped, ih later⟩

theorem locate_eq_ok_iff :
    fs.locate path = .ok place ↔
      Path.accept path = .ok () ∧ fs.follow (fs.start path) (Path.steps path) = .ok place := by
  rw [locate, bind_eq_ok_iff]
  constructor
  · rintro ⟨_, accepted, followed⟩
    exact ⟨accepted, followed⟩
  · rintro ⟨accepted, followed⟩
    exact ⟨(), accepted, followed⟩

theorem start_congr (here : after.here = fs.here) (path : String) :
    after.start path = fs.start path := by
  rw [start, start, here]

theorem locate_of_directories (here : after.here = fs.here)
    (kept : ∀ place, fs.look place = some .directory → after.look place = some .directory)
    (h : fs.locate path = .ok place) : after.locate path = .ok place := by
  rw [locate_eq_ok_iff] at h ⊢
  rw [start_congr here]
  exact ⟨h.1, follow_of_directories kept h.2⟩

end Follow

section Read

theorem readBytes_eq_ok_iff {bytes : ByteArray} :
    fs.readBytes path = .ok bytes ↔
      ∃ place, fs.locate path = .ok place ∧ fs.look place = some (.file bytes) := by
  rw [readBytes, bind_eq_ok_iff]
  refine exists_congr fun place => and_congr_right fun _ => ?_
  rw [look]
  cases fs.find? place with
  | none => simp [throw, throwThe, MonadExceptOf.throw]
  | some tree =>
    cases tree <;> simp [FileTree.node, pure, Except.pure, throw, throwThe, MonadExceptOf.throw]

theorem fromUTF8?_eq_some_iff {bytes : ByteArray} :
    String.fromUTF8? bytes = some text ↔ bytes = text.toUTF8 := by
  rw [String.fromUTF8?]
  constructor
  · intro h
    split at h
    · cases h
      rfl
    · cases h
  · rintro rfl
    exact dif_pos text.isValidUTF8

theorem read_eq_ok_iff : fs.read path = .ok text ↔ fs.readBytes path = .ok text.toUTF8 := by
  rw [read, bind_eq_ok_iff]
  constructor
  · rintro ⟨bytes, held, shown⟩
    split at shown
    · rename_i decoded
      cases shown
      rw [held, fromUTF8?_eq_some_iff.1 decoded]
    · cases shown
  · intro held
    refine ⟨_, held, ?_⟩
    rw [fromUTF8?_eq_some_iff.2 rfl]
    rfl

theorem read_eq_notFound_iff :
    fs.read path = .error .notFound ↔ fs.readBytes path = .error .notFound := by
  rw [read, bind_eq_error_iff]
  constructor
  · rintro (missing | ⟨bytes, -, shown⟩)
    · exact missing
    · split at shown <;> cases shown
  · exact .inl

end Read

/-- A file has been put at a place where no directory was, and nothing else has changed. -/
structure Replaced (fs after : FileSystem) (place : Place) (bytes : ByteArray) : Prop where
  working : after.here = fs.here
  free : fs.look place ≠ some .directory
  here : after.look place = some (.file bytes)
  elsewhere : ∀ other, other ≠ place → after.look other = fs.look other

theorem look_child {entries : FileTree.Entries} (found : fs.directory here = .ok entries)
    (name : String) :
    fs.look ⟨here.names ++ [name]⟩ = (entries.lookup name).map FileTree.node := by
  have reached : fs.root.find? here.names = some (.directory entries) := directory_eq_ok_iff.1 found
  rw [look_eq, FileTree.look, FileTree.find?_append, reached]
  simp [FileTree.find?]

theorem replaced_put {entries : FileTree.Entries} {name : String}
    (found : fs.directory here = .ok entries)
    (free : fs.look ⟨here.names ++ [name]⟩ ≠ some .directory) (bytes : ByteArray) :
    Replaced fs (fs.change (FileTree.put name (.file bytes)) here) ⟨here.names ++ [name]⟩ bytes := by
  have clear : ∀ below, entries.lookup name ≠ some (.directory below) := by
    intro below present
    apply free
    rw [look_child found, present]
    rfl
  have seen := FileTree.look_change_put (directory_eq_ok_iff.1 found) clear bytes
  refine ⟨here_change _ _, free, ?_, ?_⟩
  · rw [look_eq, root_change, seen, if_pos rfl]
  · intro other different
    rw [look_eq, root_change, seen, if_neg fun same => different (congrArg Place.mk same), look_eq]

namespace Replaced
variable {bytes : ByteArray} (replaced : Replaced fs after place bytes)
include replaced

theorem directory_iff (other : Place) :
    after.look other = some .directory ↔ fs.look other = some .directory := by
  by_cases same : other = place
  · subst same
    simp [replaced.here, replaced.free]
  · rw [replaced.elsewhere other same]

theorem locate_iff {path : String} {other : Place} :
    after.locate path = .ok other ↔ fs.locate path = .ok other :=
  ⟨locate_of_directories replaced.working.symm fun place => (replaced.directory_iff place).1,
    locate_of_directories replaced.working fun place => (replaced.directory_iff place).2⟩

theorem readBytes_here {path : String} (located : fs.locate path = .ok place) :
    after.readBytes path = .ok bytes :=
  readBytes_eq_ok_iff.2 ⟨place, replaced.locate_iff.2 located, replaced.here⟩

theorem readBytes_elsewhere {path : String} {bytes' : ByteArray}
    (apart : fs.locate path ≠ .ok place) :
    after.readBytes path = .ok bytes' ↔ fs.readBytes path = .ok bytes' := by
  simp only [readBytes_eq_ok_iff, replaced.locate_iff]
  refine exists_congr fun other => and_congr_right fun located => ?_
  rw [replaced.elsewhere other fun same => apart (same ▸ located)]

theorem read_elsewhere {path text : String} (apart : fs.locate path ≠ .ok place)
    (h : fs.read path = .ok text) : after.read path = .ok text := by
  rw [read_eq_ok_iff] at h ⊢
  exact (replaced.readBytes_elsewhere apart).2 h

end Replaced

end FileSystem

end Craftbook
