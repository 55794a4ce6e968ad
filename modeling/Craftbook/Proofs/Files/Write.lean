import Craftbook.Proofs.Files.Atomic
import Craftbook.Proofs.Files.Missing
import Craftbook.Proofs.Files.Path

/-!
Writing as it is seen from outside. Main statement: a write leaves either everything as it was or the
whole text at its path, with no temporary file beside it; and a file is up to date exactly if it holds
the text.
-/
namespace Craftbook

theorem FileTree.keys_put (name : String) (tree : FileTree) (entries : Entries) :
    ((put name tree entries).map (·.1)).Perm ((entries.map (·.1)).insert name) := by
  by_cases present : name ∈ entries.map (·.1)
  · have same : (put name tree entries).map (·.1) = entries.map (·.1) := by
      induction entries with
      | nil => cases present
      | cons entry rest ih =>
        rw [put]
        split
        · rename_i here
          simp [here]
        · rename_i different
          have later := (List.mem_cons.1 present).resolve_left (Ne.symm different)
          rw [List.map_cons, List.map_cons, ih later]
    rw [same, List.insert_of_mem present]
  · rw [put_of_absent present, List.insert_of_not_mem present, List.map_append]
    exact List.perm_append_singleton name _

namespace FileSystem
variable {fs after : FileSystem} {here place : Place} {path text : String}

section Moves
variable {steps : List String}

theorem follow_moves (followed : fs.follow here steps = .ok place) :
    fs.follow here (steps.filter (· ≠ ".")) = .ok place := by
  induction steps generalizing here with
  | nil => exact followed
  | cons step rest ih =>
    simp only [follow_cons, bind_eq_ok_iff] at followed
    obtain ⟨entries, found, next, stepped, later⟩ := followed
    by_cases stays : step = "."
    · cases stays
      cases stepped
      simpa using ih later
    · rw [List.filter_cons_of_pos (by simpa using stays)]
      simp only [follow_cons, bind_eq_ok_iff]
      exact ⟨entries, found, next, stepped, ih later⟩

theorem look_of_follow (stands : fs.look place = some .directory)
    (followed : fs.follow here steps = .ok place) : fs.look here = some .directory := by
  cases steps with
  | nil =>
    cases followed
    exact stands
  | cons step rest =>
    rw [follow_cons, bind_eq_ok_iff] at followed
    obtain ⟨entries, found, -⟩ := followed
    exact look_eq_directory_iff.2 ⟨entries, found⟩

/-- Steps that stay in place may be taken anywhere on the way to a directory. -/
theorem follow_of_moves (stands : fs.look place = some .directory)
    (followed : fs.follow here (steps.filter (· ≠ ".")) = .ok place) :
    fs.follow here steps = .ok place := by
  induction steps generalizing here with
  | nil => exact followed
  | cons step rest ih =>
    by_cases stays : step = "."
    · cases stays
      rw [List.filter_cons_of_neg (by simp)] at followed
      obtain ⟨entries, found⟩ := look_eq_directory_iff.1 (look_of_follow stands followed)
      simp only [follow_cons, bind_eq_ok_iff]
      exact ⟨entries, found, here, rfl, ih followed⟩
    · rw [List.filter_cons_of_pos (by simpa using stays)] at followed
      simp only [follow_cons, bind_eq_ok_iff] at followed ⊢
      obtain ⟨entries, found, next, stepped, later⟩ := followed
      exact ⟨entries, found, next, stepped, ih later⟩

theorem filter_steps (path : String) : (Path.steps path).filter (· ≠ ".") = Path.moves path := by
  rw [Path.steps, List.filter_append, Path.moves]
  split
  · exact List.append_nil _
  · exact List.append_nil _

end Moves

/-- The directory part of a path is taken by the system if the path is. -/
theorem accept_directoryOf {front name : List Char} (ends : Path.EndsIn path front name)
    (accepted : Path.accept path = .ok ()) : Path.accept (Path.directoryOf path) = .ok () := by
  obtain ⟨plain, short, -⟩ := Path.accept_eq_ok_iff.1 accepted
  obtain ⟨-, beside⟩ | ⟨named, rest, split⟩ := ends.directoryOf_prefix
  · rw [beside, Path.accept_eq_ok_iff]
    exact ⟨by decide +kernel, by decide +kernel, by decide⟩
  · have whole : path = Path.directoryOf path ++ .ofList rest := by
      rw [← String.toList_inj, String.toList_append, String.toList_ofList, split]
    rw [Path.accept_eq_ok_iff]
    refine ⟨?_, ?_, named⟩
    · intro member
      apply plain
      rw [← split]
      exact List.mem_append_left _ member
    · rw [whole, String.utf8ByteSize_append] at short
      omega

theorem start_directoryOf {front name : List Char} (ends : Path.EndsIn path front name) :
    fs.start (Path.directoryOf path) = fs.start path := by
  have same : (Path.directoryOf path).startsWith "/" = path.startsWith "/" := by
    obtain ⟨relative, beside⟩ | ⟨named, rest, split⟩ := ends.directoryOf_prefix
    · rw [beside, relative]
      decide +kernel
    · rw [Bool.eq_iff_iff, Path.startsWith_slash_iff, Path.startsWith_slash_iff, ← split]
      cases front : (Path.directoryOf path).toList with
      | nil => exact absurd (String.toList_eq_nil_iff.1 front) named
      | cons first _ => simp
  rw [start, start, same]

namespace Fits
variable {target : Target}

/-- A file lies in the directory that its path's directory part leads to. -/
theorem locate_directoryOf (fits : fs.Fits path target place) :
    fs.locate (Path.directoryOf path) = .ok target.directory := by
  obtain ⟨here, entries, accepted, followed, found, rfl⟩ := target_eq_ok_iff.1 fits.found
  obtain ⟨front, name, ends⟩ := Path.exists_endsIn fits.plain fits.named
  rw [ends.names_eq, List.dropLast_concat] at followed
  refine locate_eq_ok_iff.2 ⟨accept_directoryOf ends accepted, ?_⟩
  apply follow_of_moves (look_eq_directory_iff.2 ⟨entries, found⟩)
  rw [filter_steps, ends.moves_directoryOf, start_directoryOf ends]
  exact follow_moves followed

end Fits

theorem list_eq_ok_iff {names : List String} :
    fs.list path = .ok names ↔
      ∃ place entries, fs.locate path = .ok place ∧ fs.directory place = .ok entries ∧
        names = (entries.map (·.1)).mergeSort := by
  simp only [list, bind_eq_ok_iff, pure, Except.pure, Except.ok.injEq]
  constructor
  · rintro ⟨place, located, entries, found, rfl⟩
    exact ⟨place, entries, located, found, rfl⟩
  · rintro ⟨place, entries, located, found, rfl⟩
    exact ⟨place, located, entries, found, rfl⟩

/-- A file system after a text was written to a path: the file at the path holds the text, by
whatever path it is read, its directory has one more name at most, which is the path's, and all else
is as it was. -/
structure Written (fs after : FileSystem) (path text : String) : Prop where
  replaced : ∃ place, fs.locate path = .ok place ∧ Replaced fs after place text.toUTF8
  held : ∀ other, fs.locate other = fs.locate path → after.readBytes other = .ok text.toUTF8
  listed : ∃ names names', fs.list (Path.directoryOf path) = .ok names ∧
    after.list (Path.directoryOf path) = .ok names' ∧ names'.Perm (names.insert (Path.lastName path))
  others : ∀ other bytes, fs.locate other ≠ fs.locate path →
    (after.readBytes other = .ok bytes ↔ fs.readBytes other = .ok bytes)

theorem Fits.written {target : Target} (fits : fs.Fits path target place) (text : String) :
    Written fs (fs.change (FileTree.put target.name (.file text.toUTF8)) target.directory) path
      text := by
  have replaced := fits.replaced text.toUTF8
  have beside := fits.locate_directoryOf
  obtain ⟨here, entries, _, _, found, rfl⟩ := target_eq_ok_iff.1 fits.found
  refine ⟨⟨_, fits.locate, replaced⟩, ?_, ?_, ?_⟩
  · intro other same
    exact replaced.readBytes_here (same.trans fits.locate)
  · refine ⟨_, _, list_eq_ok_iff.2 ⟨_, _, beside, found, rfl⟩,
      list_eq_ok_iff.2 ⟨_, _, replaced.locate_iff.2 beside, directory_change found, rfl⟩, ?_⟩
    exact ((List.mergeSort_perm _ _).trans (FileTree.keys_put _ _ _)).trans
      ((List.mergeSort_perm _ _).symm.insert _)
  · intro other bytes apart
    rw [fits.locate] at apart
    exact replaced.readBytes_elsewhere apart

end FileSystem

namespace Conduct
open FileSystem
variable {conduct : Conduct} {fs : FileSystem} {path text : String}

/-- A write succeeds exactly if nothing is refused and the path is one at which a file may be put. -/
theorem writeAtomic_eq_ok_iff :
    (conduct.writeAtomic fs path text).2.outcome = .ok () ↔
      conduct.Allows fs path ∧ ∃ target place, fs.Fits path target place := by
  constructor
  · intro h
    obtain ⟨target, place, allows, fits, -⟩ := writeAtomic_ok h
    exact ⟨allows, target, place, fits⟩
  · rintro ⟨allows, target, place, fits⟩
    obtain ⟨here, entries, _, _, found, rfl⟩ := target_eq_ok_iff.1 fits.found
    have temporary := makeTemporary_eq_ok_iff.2
      ⟨allows.create, allows.temporary, fits.locate_directoryOf, entries, found, rfl, rfl⟩
    have moved : (fs.change (FileTree.put (conduct.temporary entries) (.file text.toUTF8))
        here).rename here (conduct.temporary entries) path = .ok _ :=
      (rename_put_eq_ok_iff found (conduct.fresh entries)).2 ⟨_, _, fits, rfl⟩
    rw [writeAtomic, temporary, allows.write, allows.rename]
    simp only [change_put_put, allow, bind, Except.bind, moved]
    rfl

theorem writeAtomic_written (h : (conduct.writeAtomic fs path text).2.outcome = .ok ()) :
    Written fs (conduct.writeAtomic fs path text).1 path text := by
  obtain ⟨target, place, -, fits, same⟩ := writeAtomic_ok h
  rw [same]
  exact fits.written text

end Conduct

namespace FileView
variable {view : FileView} {path text : String}

theorem isUpToDate_eq_error {e : LoadError} (h : view.isUpToDate path text = .error e) :
    ∃ fault, e = .io path fault none := by
  unfold isUpToDate at h
  split at h
  · cases h
  · cases h
  · rename_i fault _ _
    cases h
    exact ⟨fault, rfl⟩

end FileView

namespace FileSystem
open FileView (isUpToDate isUpToDate_eq_true_iff isUpToDate_eq_false_iff)

/-- Writing is all or nothing, whatever the system does with the temporary file: with success the path
holds the whole text, its directory lists no other new name and every other file is as it was, and
with an error nothing has changed. Success is had exactly where a file may be put and nothing is
refused. A file is up to date if it holds exactly the text, as it does after writing it, and not up to
date if it is missing or holds another text; in every other case the file system's fault is the
answer. -/
theorem writing_all_or_nothing (fs : FileSystem) (path text : String) :
    (∀ conduct : Conduct,
      ((conduct.writeAtomic fs path text).2.outcome = .ok () ↔
        conduct.Allows fs path ∧ ∃ target place, fs.Fits path target place) ∧
      ((conduct.writeAtomic fs path text).2.outcome = .ok () →
        Written fs (conduct.writeAtomic fs path text).1 path text ∧
        isUpToDate (conduct.writeAtomic fs path text).1.read path text = .ok true) ∧
      ∀ e, (conduct.writeAtomic fs path text).2.outcome = .error e →
        (conduct.writeAtomic fs path text).1 = fs) ∧
    (isUpToDate fs.read path text = .ok true ↔ fs.readBytes path = .ok text.toUTF8) ∧
    (isUpToDate fs.read path text = .ok false ↔
      fs.Missing path ∨ ∃ other, other ≠ text ∧ fs.readBytes path = .ok other.toUTF8) ∧
    ∀ e, isUpToDate fs.read path text = .error e → ∃ fault, e = .io path fault none := by
  refine ⟨fun conduct => ?_, isUpToDate_eq_true_iff, ?_, fun e => FileView.isUpToDate_eq_error⟩
  · refine ⟨Conduct.writeAtomic_eq_ok_iff, fun done => ?_, fun e => Conduct.writeAtomic_error⟩
    have written := Conduct.writeAtomic_written done
    exact ⟨written, isUpToDate_eq_true_iff.2 (written.held path rfl)⟩
  · rw [isUpToDate_eq_false_iff, readBytes_eq_notFound_iff]

namespace Sample

/-- A working directory with the file of an earlier run. -/
def desk : FileSystem := ⟨⟨["desk"]⟩, [("desk", .directory [("data.rs", .file "// old\n".toUTF8)])]⟩

theorem accept_desk : Path.accept "/desk/data.rs" = .ok () :=
  Path.accept_eq_ok_iff.2 ⟨by decide +kernel, by decide +kernel, by decide⟩

theorem desk_fits :
    desk.Fits "/desk/data.rs" ⟨⟨["desk"]⟩, "data.rs", false⟩ ⟨["desk", "data.rs"]⟩ := by
  refine ⟨?_, by decide, rfl, by decide, ?_⟩
  · rw [target_eq_ok_iff]
    exact ⟨⟨["desk"]⟩, [("data.rs", .file "// old\n".toUTF8)], accept_desk, by decide +kernel, rfl,
      by decide +kernel⟩
  · intro blocked
    cases blocked

theorem desk_allows : Conduct.usual.Allows desk "/desk/data.rs" := by
  refine ⟨rfl, rfl, rfl, ?_⟩
  have above : Path.directoryOf "/desk/data.rs" = "/desk" := by
    simp [Path.directoryOf, Path.parent?, Path.dropTrailing]
  have whole : desk.temporaryPath "/desk" = "/desk/.tmp000000" := by decide +kernel
  rw [above, whole, Path.accept_eq_ok_iff]
  exact ⟨by decide +kernel, by decide +kernel, by decide⟩

/-- The same file, by a path that leads through the parent directory. -/
theorem locate_above : desk.locate "../desk/data.rs" = .ok ⟨["desk", "data.rs"]⟩ := by
  rw [locate_eq_ok_iff, Path.accept_eq_ok_iff]
  exact ⟨⟨by decide +kernel, by decide +kernel, by decide⟩, by decide +kernel⟩

/-- The disk is full after three bytes. -/
def full : Conduct := { Conduct.usual with write := some (3, .other "No space left on device") }

end Sample

open Sample in
theorem writing_all_or_nothing_desk :
    Written desk (Conduct.usual.writeAtomic desk "/desk/data.rs" "// new\n").1 "/desk/data.rs"
      "// new\n" ∧
    (Conduct.usual.writeAtomic desk "/desk/data.rs" "// new\n").1.readBytes "../desk/data.rs" =
      .ok "// new\n".toUTF8 ∧
    isUpToDate (Conduct.usual.writeAtomic desk "/desk/data.rs" "// new\n").1.read "/desk/data.rs"
      "// new\n" = .ok true ∧
    (full.writeAtomic desk "/desk/data.rs" "// new\n").1 = desk := by
  obtain ⟨all, -⟩ := writing_all_or_nothing desk "/desk/data.rs" "// new\n"
  have done := (all Conduct.usual).1.2 ⟨desk_allows, _, _, desk_fits⟩
  obtain ⟨written, current⟩ := (all Conduct.usual).2.1 done
  refine ⟨written, written.held _ (locate_above.trans desk_fits.locate.symm), current, ?_⟩
  obtain ⟨succeeds, -, undone⟩ := all full
  cases tried : (full.writeAtomic desk "/desk/data.rs" "// new\n").2.outcome with
  | error e => exact undone e tried
  | ok =>
    cases (succeeds.1 tried).1.write

end FileSystem

end Craftbook
