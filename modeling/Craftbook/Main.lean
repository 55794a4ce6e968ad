import Craftbook.Command.Run

/-!
The command itself: reads the files that a run may ask for, and does what its plan leaves to do.
-/
namespace Craftbook.Main
open Craftbook

def fault : IO.Error → IoFault
  | .noFileOrDirectory .. => .notFound
  | .inappropriateType _ 20 _ => .notDirectory
  | .inappropriateType _ 21 _ => .isDirectory
  | .invalidArgument _ 36 _ => .nameTooLong
  | .resourceBusy .. => .busy
  | e => .other (toString e)

/-- Runs an action and tells what went wrong. -/
def attempt (action : IO α) : IO (Except IoFault α) := do
  try
    return .ok (← action)
  catch e => return .error (fault e)

def read (path : String) : IO (Except IoFault String) := do
  match ← attempt (IO.FS.readBinFile path) with
  | .error e => return .error e
  | .ok bytes => return (String.fromUTF8? bytes).elim (.error .invalidText) .ok

/-- The paths that a run with the options may read. -/
def paths (options : Command.Options) : List String :=
  options.config.toList ++
    [Path.join options.data itemsFile, Path.join options.data recipesFile] ++
    match options.target with
    | .check path => [path]
    | _ => []

def view (paths : List String) : IO FileView := do
  let texts ← paths.mapM fun path => return (path, ← read path)
  return fun path => (texts.lookup path).getD (.error .notFound)

/-- Writes a text to a new file and gives it the place of another. -/
def replace (temporary path text : String) (handle : IO.FS.Handle) : IO (Except LoadError Unit) := do
  if let .error e ← attempt (do handle.putStr text; handle.flush) then
    return .error (.io temporary e (some temporary))
  if let .error e ← attempt (IO.FS.rename temporary path) then
    return .error (.io path e none)
  return .ok ()

/-- Replaces a file through a temporary one beside it, which is removed if that fails. -/
def writeAtomic (path text : String) : IO (Except LoadError Unit) := do
  let directory := Path.directoryOf path
  let number ← IO.rand 100000 999999
  let .ok workingPath ← IO.currentDir.toBaseIO
    | return .error (.io directory .notFound none)
  let temporary := Path.join (Path.absolute workingPath.toString directory) s!".tmp{number}"
  match ← attempt (IO.FS.Handle.mk temporary .writeNew) with
  | .error e => return .error (.io directory e (some temporary))
  | .ok handle =>
    let replaced ← replace temporary path text handle
    if replaced matches .error _ then
      let _ ← attempt (IO.FS.removeFile temporary)
    return replaced

def log (event : Event) : IO Unit := do
  unless event.level = .debug do IO.eprintln s!"{event.level.label} {Text.forTerminal event.message}"

def report (result : Command.Result) : IO UInt32 := do
  IO.print result.output
  if let .upToDate path := result then IO.eprintln s!"INFO {Text.quoted path} is up to date"
  if let some complaint := result.complaint? then IO.eprintln s!"ERROR {complaint}"
  return result.exitCode

def execute (options : Command.Options) : IO UInt32 := do
  let view ← view (paths options)
  (Command.source view options).events.forM log
  match Command.plan view options with
  | .finish result => report result
  | .write path text =>
    let written ← writeAtomic path text
    if written matches .ok () then log (.fileWritten text.utf8ByteSize path)
    report (.ofWrite path written)

def usage : String :=
  "Arguments: [-d DATA] [-c CONFIG] (--stdout | -o OUT [--check])"

end Craftbook.Main

def main (arguments : List String) : IO UInt32 := do
  match Craftbook.Command.Options.ofArguments? arguments with
  | some options => Craftbook.Main.execute options
  | none =>
    IO.eprintln Craftbook.Main.usage
    return 2
