import Craftbook.Files.System
import Craftbook.Log.Traced

/-!
Replacing a file at one stroke: the text goes to a temporary file beside it, which then takes its
place. Whatever fails, the temporary file is gone and the file is as it was.
-/
namespace Craftbook

/-- What reading a path as text gives. -/
abbrev FileView := String → Except IoFault String

/-- What the system is free in when a file is written: the temporary file's name, as long as its
directory does not have it, and to refuse an operation that nothing stands in the way of. -/
structure Conduct where
  temporary : FileTree.Entries → String
  fresh : ∀ entries, temporary entries ∉ entries.map (·.1)
  create : Option IoFault
  /-- With the number of bytes that are still taken. -/
  write : Option (Nat × IoFault)
  rename : Option IoFault

namespace FileSystem

/-- A name that a directory does not have: a mark longer than any of its names. -/
def freshName (entries : FileTree.Entries) : String :=
  let longest := entries.foldl (fun n entry => max n entry.1.length) 0
  ".tmp".pushn '0' longest

theorem length_le_longest (entries : FileTree.Entries) (start : Nat) :
    start ≤ entries.foldl (fun n entry => max n entry.1.length) start ∧
      ∀ entry ∈ entries,
        entry.1.length ≤ entries.foldl (fun n entry => max n entry.1.length) start := by
  induction entries generalizing start with
  | nil => simp
  | cons first rest ih =>
    have later := ih (max start first.1.length)
    rw [List.foldl_cons]
    refine ⟨by omega, List.forall_mem_cons.2 ⟨by omega, later.2⟩⟩

theorem freshName_absent (entries : FileTree.Entries) : freshName entries ∉ entries.map (·.1) := by
  intro member
  obtain ⟨entry, present, same⟩ := List.mem_map.1 member
  have short := (length_le_longest entries 0).2 entry present
  rw [same, freshName, String.length_pushn] at short
  have mark : ".tmp".length = 4 := rfl
  omega

/-- The path from the root of a file in a directory. -/
def pathIn (fs : FileSystem) (directory name : String) : String :=
  Path.join (Path.absolute fs.here.path directory) name

/-- The path from the root of a temporary file in a directory, by a name of the usual length. -/
def temporaryPath (fs : FileSystem) (directory : String) : String := fs.pathIn directory ".tmp000000"

end FileSystem

namespace Conduct
open FileSystem

/-- Nothing is refused without need. -/
def usual : Conduct := ⟨freshName, freshName_absent, none, none, none⟩

def allow : Option IoFault → Except IoFault Unit
  | some fault => .error fault
  | none => .ok ()

/-- Makes an empty file of a fresh name in a directory. The system has to take its path from the
root, whether the directory is there or not. -/
def makeTemporary (conduct : Conduct) (fs : FileSystem) (directory : String) :
    Except IoFault (Place × String × FileSystem) := do
  Path.accept (fs.temporaryPath directory)
  let place ← fs.locate directory
  let entries ← fs.directory place
  allow conduct.create
  let name := conduct.temporary entries
  return (place, name, fs.change (FileTree.put name (.file .empty)) place)

/-- Writing at one stroke. A fault of the text itself names the temporary file, by its path from the
root. -/
def writeAtomic (conduct : Conduct) (fs : FileSystem) (path text : String) :
    FileSystem × Traced LoadError Unit :=
  let directory := Path.directoryOf path
  match conduct.makeTemporary fs directory with
  | .error fault =>
    (fs, .ofExcept (.error (.io directory fault (some (fs.temporaryPath directory)))))
  | .ok (place, name, made) =>
    match conduct.write with
    | some (taken, fault) =>
      let part := made.change (FileTree.put name (.file (text.toUTF8.extract 0 taken))) place
      let temporary := fs.pathIn directory name
      (part.change (FileTree.erase name) place,
        .ofExcept (.error (.io temporary fault (some temporary))))
    | none =>
      let written := made.change (FileTree.put name (.file text.toUTF8)) place
      match allow conduct.rename >>= fun _ => written.rename place name path with
      | .error fault =>
        (written.change (FileTree.erase name) place, .ofExcept (.error (.io path fault none)))
      | .ok renamed => (renamed, .report (.fileWritten text.utf8ByteSize path))

end Conduct

namespace FileView

/-- Whether a file holds exactly a text. A file that is not there does not. -/
def isUpToDate (view : FileView) (path text : String) : Except LoadError Bool :=
  match view path with
  | .ok existing => .ok (existing = text)
  | .error .notFound => .ok false
  | .error fault => .error (.io path fault none)

end FileView

end Craftbook
