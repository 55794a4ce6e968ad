import Craftbook.Files.Atomic
import Craftbook.Proofs.Files.System

/-!
Writing a file at one stroke, under whatever the system does with the temporary file. Main statements:
a write that fails leaves the file system as it was, and one that succeeds has replaced the file at
its path by its text, and nothing else.
-/
namespace Craftbook

namespace FileSystem
variable {fs after : FileSystem} {here place : Place} {path name : String}

/-- A path at which a file may be put: its directory is there, its last name may stand for a file,
and no directory is in the way. -/
structure Fits (fs : FileSystem) (path : String) (target : Target) (place : Place) : Prop where
  found : fs.target path = .ok target
  named : Path.isDots target.name = false
  plain : target.slashed = false
  child : target.directory.child target.name = .ok place
  free : fs.look place ≠ some .directory

theorem target_eq_ok_iff {target : Target} :
    fs.target path = .ok target ↔
      ∃ here entries, Path.accept path = .ok () ∧
        fs.follow (fs.start path) (Path.names path).dropLast = .ok here ∧
        fs.directory here = .ok entries ∧
        target = ⟨here, Path.lastName path, path.endsWith "/"⟩ := by
  simp only [FileSystem.target, bind_eq_ok_iff, pure, Except.pure, Except.ok.injEq]
  constructor
  · rintro ⟨_, accepted, here, followed, entries, found, rfl⟩
    exact ⟨here, entries, accepted, followed, found, rfl⟩
  · rintro ⟨here, entries, accepted, followed, found, rfl⟩
    exact ⟨(), accepted, here, followed, entries, found, rfl⟩

namespace Fits
variable {target : Target}

theorem locate (fits : fs.Fits path target place) : fs.locate path = .ok place := by
  obtain ⟨here, entries, accepted, followed, found, rfl⟩ := target_eq_ok_iff.1 fits.found
  have named : Path.names path ≠ [] := by
    intro none
    have dots := fits.named
    simp [Path.lastName, none, Path.isDots] at dots
  have steps : Path.steps path = (Path.names path).dropLast ++ [Path.lastName path] := by
    have plain : path.endsWith "/" = false := fits.plain
    rw [Path.steps, plain, Path.lastName, List.getLastD_eq_getLast?,
      List.getLast?_eq_some_getLast named, Option.getD_some, List.dropLast_append_getLast named]
    simp
  have stepped : here.step (Path.lastName path) = .ok place :=
    (Place.step_of_name fits.named here).trans fits.child
  refine locate_eq_ok_iff.2 ⟨accepted, ?_⟩
  rw [steps, follow_append, bind_eq_ok_iff]
  refine ⟨here, followed, ?_⟩
  simp only [follow_cons, bind_eq_ok_iff]
  exact ⟨entries, found, place, stepped, rfl⟩

/-- The file that is put there is all that changes. -/
theorem replaced (fits : fs.Fits path target place) (bytes : ByteArray) :
    Replaced fs (fs.change (FileTree.put target.name (.file bytes)) target.directory) place
      bytes := by
  obtain ⟨here, entries, _, _, found, rfl⟩ := target_eq_ok_iff.1 fits.found
  obtain ⟨-, rfl⟩ := Place.child_eq_ok_iff.1 fits.child
  exact replaced_put found fits.free bytes

theorem of_directories (fits : fs.Fits path target place) (working : after.here = fs.here)
    (kept : ∀ place, fs.look place = some .directory → after.look place = some .directory)
    (free : after.look place ≠ some .directory) : after.Fits path target place := by
  obtain ⟨here, entries, accepted, followed, found, rfl⟩ := target_eq_ok_iff.1 fits.found
  have still := kept here (look_eq_directory_iff.2 ⟨entries, found⟩)
  obtain ⟨entries', found'⟩ := look_eq_directory_iff.1 still
  rw [← start_congr working] at followed
  have target := target_eq_ok_iff.2
    ⟨here, entries', accepted, follow_of_directories kept followed, found', rfl⟩
  exact ⟨target, fits.named, fits.plain, fits.child, free⟩

end Fits

theorem Replaced.fits_iff {other : Place} {bytes : ByteArray}
    (replaced : Replaced fs after other bytes) (path : String) (target : Target) (place : Place) :
    after.Fits path target place ↔ fs.Fits path target place := by
  have seen := replaced.directory_iff
  constructor
  · intro fits
    exact fits.of_directories replaced.working.symm (fun place => (seen place).1) fun blocked =>
      fits.free ((seen place).2 blocked)
  · intro fits
    exact fits.of_directories replaced.working (fun place => (seen place).2) fun blocked =>
      fits.free ((seen place).1 blocked)

theorem rename_eq_ok_iff :
    fs.rename here name path = .ok after ↔
      ∃ target place entries tree, fs.Fits path target place ∧
        fs.directory here = .ok entries ∧ entries.lookup name = some tree ∧
        after = (fs.change (FileTree.erase name) here).change (FileTree.put target.name tree)
          target.directory := by
  simp only [rename, bind_eq_ok_iff]
  constructor
  · rintro ⟨target, found, h⟩
    split at h
    · cases h
    · rename_i named
      obtain ⟨place, child, h⟩ := bind_eq_ok_iff.1 h
      split at h
      · cases h
      · rename_i plain
        obtain ⟨entries, held, h⟩ := bind_eq_ok_iff.1 h
        split at h
        · cases h
        · cases h
        · rename_i tree present free
          cases h
          have clear : fs.look place ≠ some .directory := by
            rw [ne_eq, look_eq_directory_iff_find?, not_exists]
            exact free
          exact ⟨target, place, entries, tree,
            ⟨found, eq_false_of_ne_true named, eq_false_of_ne_true plain, child, clear⟩, held,
            present, rfl⟩
  · rintro ⟨target, place, entries, tree, fits, held, present, rfl⟩
    refine ⟨target, fits.found, ?_⟩
    rw [fits.named, if_neg Bool.false_ne_true, bind_eq_ok_iff]
    refine ⟨place, fits.child, ?_⟩
    rw [fits.plain, if_neg Bool.false_ne_true, bind_eq_ok_iff]
    refine ⟨entries, held, ?_⟩
    rw [present]
    split
    · rename_i blocked
      exact absurd (look_eq_directory_iff_find?.2 ⟨_, blocked⟩) fits.free
    · rename_i absent _
      cases absent
    · rename_i same _
      cases same
      rfl

section Temporary
variable {entries : FileTree.Entries}

theorem change_put_put (tree tree' : FileTree) :
    (fs.change (FileTree.put name tree) here).change (FileTree.put name tree') here =
      fs.change (FileTree.put name tree') here := by
  rw [change_change]
  exact congrArg (fs.change · here) (funext fun _ => FileTree.put_put)

/-- A file by a new name can be taken away again. -/
theorem erase_put (found : fs.directory here = .ok entries) (absent : name ∉ entries.map (·.1))
    (tree : FileTree) :
    (fs.change (FileTree.put name tree) here).change (FileTree.erase name) here = fs := by
  have undone : FileTree.erase name (FileTree.put name tree entries) = entries :=
    FileTree.erase_put_of_absent absent
  rw [change_change, change_congr (g := fun entries => entries) found undone, change_self]

theorem replaced_new (found : fs.directory here = .ok entries)
    (absent : name ∉ entries.map (·.1)) (bytes : ByteArray) :
    Replaced fs (fs.change (FileTree.put name (.file bytes)) here) ⟨here.names ++ [name]⟩ bytes := by
  apply replaced_put found
  rw [look_child found, lookup_eq_none_iff_keys.2 absent]
  simp

/-- Moving a new file to a path puts it there. -/
theorem rename_put_eq_ok_iff (found : fs.directory here = .ok entries)
    (absent : name ∉ entries.map (·.1)) {bytes : ByteArray} :
    (fs.change (FileTree.put name (.file bytes)) here).rename here name path = .ok after ↔
      ∃ target place, fs.Fits path target place ∧
        after = fs.change (FileTree.put target.name (.file bytes)) target.directory := by
  have changed := directory_change (f := FileTree.put name (.file bytes)) found
  have fits := fun target place => (replaced_new found absent bytes).fits_iff path target place
  rw [rename_eq_ok_iff]
  simp only [fits, changed, erase_put found absent]
  constructor
  · rintro ⟨target, place, _, _, fits, held, present, rfl⟩
    cases held
    cases present.symm.trans FileTree.lookup_put_self
    exact ⟨target, place, fits, rfl⟩
  · rintro ⟨target, place, fits, rfl⟩
    exact ⟨target, place, _, _, fits, rfl, FileTree.lookup_put_self, rfl⟩

end Temporary

end FileSystem

namespace Conduct
open FileSystem
variable {conduct : Conduct} {fs made : FileSystem} {place : Place}
variable {path text directory name : String}

theorem allow_eq_ok_iff {fault? : Option IoFault} : allow fault? = .ok () ↔ fault? = none := by
  cases fault? <;> simp [allow]

theorem makeTemporary_eq_ok_iff :
    conduct.makeTemporary fs directory = .ok (place, name, made) ↔
      conduct.create = none ∧ Path.accept (fs.temporaryPath directory) = .ok () ∧
        fs.locate directory = .ok place ∧ ∃ entries, fs.directory place = .ok entries ∧
          name = conduct.temporary entries ∧
          made = fs.change (FileTree.put name (.file .empty)) place := by
  simp only [makeTemporary, bind_eq_ok_iff, pure, Except.pure, Except.ok.injEq, Prod.mk.injEq]
  constructor
  · rintro ⟨_, accepted, here, located, entries, found, _, allowed, rfl, rfl, rfl⟩
    exact ⟨allow_eq_ok_iff.1 allowed, accepted, located, entries, found, rfl, rfl⟩
  · rintro ⟨allowed, accepted, located, entries, found, rfl, rfl⟩
    exact ⟨(), accepted, place, located, entries, found, (), allow_eq_ok_iff.2 allowed, rfl, rfl,
      rfl⟩

/-- Nothing is refused, and the temporary file's path from the root is one that the system takes. -/
structure Allows (conduct : Conduct) (fs : FileSystem) (path : String) : Prop where
  create : conduct.create = none
  write : conduct.write = none
  rename : conduct.rename = none
  temporary : Path.accept (fs.temporaryPath (Path.directoryOf path)) = .ok ()

/-- All that a write can do: nothing, or the file at its path is replaced. -/
theorem writeAtomic_cases (conduct : Conduct) (fs : FileSystem) (path text : String) :
    (∃ e, (conduct.writeAtomic fs path text).2.outcome = .error e ∧
      (conduct.writeAtomic fs path text).1 = fs) ∨
    ∃ target place, conduct.Allows fs path ∧ fs.Fits path target place ∧
      (conduct.writeAtomic fs path text).2.outcome = .ok () ∧
      (conduct.writeAtomic fs path text).1 =
        fs.change (FileTree.put target.name (.file text.toUTF8)) target.directory := by
  rw [writeAtomic]
  cases temporary : conduct.makeTemporary fs (Path.directoryOf path) with
  | error fault => exact .inl ⟨_, rfl, rfl⟩
  | ok made =>
    obtain ⟨here, name, made⟩ := made
    obtain ⟨create, accepted, -, entries, found, rfl, rfl⟩ := makeTemporary_eq_ok_iff.1 temporary
    have absent := conduct.fresh entries
    simp only [change_put_put]
    cases write : conduct.write with
    | some refused => exact .inl ⟨_, rfl, erase_put found absent _⟩
    | none =>
      simp only
      split
      · exact .inl ⟨_, rfl, erase_put found absent _⟩
      · rename_i moved
        obtain ⟨_, rename, renamed⟩ := bind_eq_ok_iff.1 moved
        obtain ⟨target, place, fits, rfl⟩ := (rename_put_eq_ok_iff found absent).1 renamed
        exact .inr ⟨target, place, ⟨create, write, allow_eq_ok_iff.1 rename, accepted⟩, fits, rfl,
          rfl⟩

theorem writeAtomic_error {e : LoadError}
    (h : (conduct.writeAtomic fs path text).2.outcome = .error e) :
    (conduct.writeAtomic fs path text).1 = fs := by
  rcases conduct.writeAtomic_cases fs path text with ⟨_, _, same⟩ | ⟨_, _, _, _, done, _⟩
  · exact same
  · cases h.symm.trans done

theorem writeAtomic_ok (h : (conduct.writeAtomic fs path text).2.outcome = .ok ()) :
    ∃ target place, conduct.Allows fs path ∧ fs.Fits path target place ∧
      (conduct.writeAtomic fs path text).1 =
        fs.change (FileTree.put target.name (.file text.toUTF8)) target.directory := by
  rcases conduct.writeAtomic_cases fs path text with
    ⟨_, failed, _⟩ | ⟨target, place, allows, fits, _, same⟩
  · cases h.symm.trans failed
  · exact ⟨target, place, allows, fits, same⟩

end Conduct

namespace FileView
open FileSystem
variable {fs : FileSystem} {path text : String}

theorem isUpToDate_eq_true_iff :
    isUpToDate fs.read path text = .ok true ↔ fs.readBytes path = .ok text.toUTF8 := by
  rw [← read_eq_ok_iff, isUpToDate]
  split <;> simp_all

theorem isUpToDate_eq_false_iff :
    isUpToDate fs.read path text = .ok false ↔
      fs.readBytes path = .error .notFound ∨
        ∃ other, other ≠ text ∧ fs.readBytes path = .ok other.toUTF8 := by
  simp only [← read_eq_ok_iff, ← read_eq_notFound_iff, isUpToDate]
  split <;> simp_all

end FileView

end Craftbook
