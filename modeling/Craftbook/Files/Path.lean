/-!
Paths as texts: names between slashes. A path is shown as it was given, so nothing is normalised.
-/
namespace Craftbook.Path

def join (directory name : String) : String :=
  if directory = "" || directory.endsWith "/" then directory ++ name
  else directory ++ "/" ++ name

/-- A path as seen from a working directory. One that starts at the root stands for itself. -/
def absolute (workingPath path : String) : String :=
  if path.startsWith "/" then path else join workingPath path

/-- Drops slashes and current-directory names from the front of a reversed path, but not its root. -/
def dropTrailing : List Char → List Char
  | ['/'] => ['/']
  | '/' :: rest => dropTrailing rest
  | '.' :: rest@('/' :: _) => dropTrailing rest
  | s => s

/-- The directory part: empty for a bare name, absent for the root and the empty path. -/
def parent? (path : String) : Option String :=
  match dropTrailing path.toList.reverse with
  | [] | ['/'] => none
  | s => some (String.ofList (dropTrailing (s.dropWhile (· ≠ '/'))).reverse)

/-- The directory that a file of this path lies in. -/
def directoryOf (path : String) : String :=
  match parent? path with
  | none | some "" => "."
  | some directory => directory

/-- The names of a path. -/
def names (path : String) : List String :=
  ((path.toList.splitOn '/').map String.ofList).filter (· ≠ "")

/-- The steps of a path. A slash at the end is one more step that stays in place. -/
def steps (path : String) : List String := names path ++ if path.endsWith "/" then ["."] else []

/-- A name that every directory has: for itself or for its parent. -/
def isDots (name : String) : Bool := name = "." || name = ".."

/-- The last name of a path; the root stands for itself. -/
def lastName (path : String) : String := (names path).getLastD "."

end Craftbook.Path
