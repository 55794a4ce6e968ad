import Craftbook.Error.Load
import Craftbook.Files.Path

/-!
A file system: a tree of directories and files, and a working directory in it. Paths are followed as
the system follows them, from the root or from the working directory, one step at a time and through
directories only.
-/
namespace Craftbook

inductive FileTree where
  | file (bytes : ByteArray)
  | directory (entries : List (String × FileTree))

namespace FileTree

abbrev Entries := List (String × FileTree)

/-- Directories that lie one in the other. -/
def chain : List String → Entries
  | [] => []
  | name :: rest => [(name, .directory (chain rest))]

/-- The tree that names lead to, if all but the last are directories. -/
def find? : List String → FileTree → Option FileTree
  | [], tree => some tree
  | name :: rest, .directory entries => (entries.lookup name).bind (find? rest)
  | _ :: _, .file _ => none

/-- The entries with a name's tree replaced where it stands, or added at the end. -/
def put (name : String) (tree : FileTree) : Entries → Entries
  | [] => [(name, tree)]
  | entry :: rest => if entry.1 = name then (name, tree) :: rest else entry :: put name tree rest

def erase (name : String) (entries : Entries) : Entries := entries.filter (·.1 ≠ name)

/-- Changes the entries of the directory that names lead to; without it nothing changes. -/
def change (f : Entries → Entries) : List String → FileTree → FileTree
  | [], .directory entries => .directory (f entries)
  | name :: rest, .directory entries =>
    match entries.lookup name with
    | some tree => .directory (put name (change f rest tree) entries)
    | none => .directory entries
  | _, .file bytes => .file bytes

end FileTree

/-- Where a path leads: the names on the way from the root. -/
structure Place where
  names : List String
  deriving DecidableEq

namespace Place

def root : Place := ⟨[]⟩

/-- The path from the root. -/
def path (here : Place) : String := "/" ++ "/".intercalate here.names

/-- The longest name that a directory can have, in bytes. -/
def longestName : Nat := 255

/-- The directory that a place lies in; the root lies in itself. -/
def parent (here : Place) : Place := ⟨here.names.dropLast⟩

/-- The place by a name of a directory. -/
def child (name : String) (here : Place) : Except IoFault Place :=
  if longestName < name.utf8ByteSize then .error .nameTooLong else .ok ⟨here.names ++ [name]⟩

/-- One step from a directory. -/
def step (name : String) (here : Place) : Except IoFault Place :=
  if name = "." then .ok here else if name = ".." then .ok here.parent else here.child name

end Place

namespace Path

/-- The longest path, in bytes. -/
def longest : Nat := 4095

/-- Refuses a text that the system takes for no path. -/
def accept (path : String) : Except IoFault Unit :=
  if path.contains '\x00' then .error .nullCharacter
  else if longest < path.utf8ByteSize then .error .nameTooLong
  else if path = "" then .error .notFound
  else .ok ()

end Path

/-- The working directory, and what the root holds. -/
structure FileSystem where
  here : Place
  entries : FileTree.Entries

/-- A file that may be made or replaced: the place of its directory, its name, and whether the path
goes on with a slash. -/
structure Target where
  directory : Place
  name : String
  slashed : Bool
  deriving DecidableEq

namespace FileSystem

/-- A working directory by its path from the root, with nothing in it or beside it. -/
def empty (path : String) : FileSystem := ⟨⟨Path.names path⟩, FileTree.chain (Path.names path)⟩

def root (fs : FileSystem) : FileTree := .directory fs.entries

def find? (fs : FileSystem) (place : Place) : Option FileTree := fs.root.find? place.names

def change (fs : FileSystem) (f : FileTree.Entries → FileTree.Entries) (place : Place) : FileSystem :=
  match fs.root.change f place.names with
  | .directory entries => { fs with entries }
  | .file _ => fs

def directory (fs : FileSystem) (place : Place) : Except IoFault FileTree.Entries :=
  match fs.find? place with
  | some (.directory entries) => .ok entries
  | some (.file _) => .error .notDirectory
  | none => .error .notFound

/-- Follows steps from a place. Every place but the last has to be a directory. -/
def follow (fs : FileSystem) (here : Place) : List String → Except IoFault Place
  | [] => .ok here
  | step :: rest => do
    let _ ← fs.directory here
    fs.follow (← here.step step) rest

/-- Where following a path starts. -/
def start (fs : FileSystem) (path : String) : Place :=
  if path.startsWith "/" then .root else fs.here

def locate (fs : FileSystem) (path : String) : Except IoFault Place := do
  Path.accept path
  fs.follow (fs.start path) (Path.steps path)

def readBytes (fs : FileSystem) (path : String) : Except IoFault ByteArray := do
  match fs.find? (← fs.locate path) with
  | some (.file bytes) => return bytes
  | some (.directory _) => throw .isDirectory
  | none => throw .notFound

def read (fs : FileSystem) (path : String) : Except IoFault String := do
  match String.fromUTF8? (← fs.readBytes path) with
  | some text => return text
  | none => throw .invalidText

/-- The names in a directory, in order. -/
def list (fs : FileSystem) (path : String) : Except IoFault (List String) := do
  let entries ← fs.directory (← fs.locate path)
  return (entries.map (·.1)).mergeSort

/-- The target that a path names; its directory has to be there. -/
def target (fs : FileSystem) (path : String) : Except IoFault Target := do
  Path.accept path
  let directory ← fs.follow (fs.start path) (Path.names path).dropLast
  let _ ← fs.directory directory
  return ⟨directory, Path.lastName path, path.endsWith "/"⟩

def write (fs : FileSystem) (path : String) (bytes : ByteArray) : Except IoFault FileSystem := do
  let target ← fs.target path
  if Path.isDots target.name || target.slashed then throw .isDirectory
  match fs.find? (← target.directory.child target.name) with
  | some (.directory _) => throw .isDirectory
  | _ => return fs.change (FileTree.put target.name (.file bytes)) target.directory

/-- Makes the directories that steps lead through, as far as they are missing. -/
def makeDirectories (fs : FileSystem) (here : Place) : List String → Except IoFault FileSystem
  | [] => .ok fs
  | step :: rest => do
    let entries ← fs.directory here
    let next ← here.step step
    let fs :=
      if Path.isDots step || (entries.lookup step).isSome then fs
      else fs.change (FileTree.put step (.directory [])) here
    let _ ← fs.directory next
    fs.makeDirectories next rest

/-- The empty path asks for no directory. -/
def makeDirectory (fs : FileSystem) (path : String) : Except IoFault FileSystem := do
  if path = "" then return fs
  Path.accept path
  fs.makeDirectories (fs.start path) (Path.steps path)

/-- Moves a file, at one stroke, to a path that names no directory. Names that every directory has
are refused before a slash at the end, and that before a directory in the way. -/
def rename (fs : FileSystem) (directory : Place) (name : String) (path : String) :
    Except IoFault FileSystem := do
  let target ← fs.target path
  if Path.isDots target.name then throw .busy
  let place ← target.directory.child target.name
  if target.slashed then throw .notDirectory
  match fs.find? place, (← fs.directory directory).lookup name with
  | some (.directory _), _ => throw .isDirectory
  | _, none => throw .notFound
  | _, some tree =>
    return (fs.change (FileTree.erase name) directory).change (FileTree.put target.name tree)
      target.directory

end FileSystem

end Craftbook
