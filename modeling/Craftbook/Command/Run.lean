import Craftbook.Command.Options
import Craftbook.Load.Directory
import Craftbook.Text.Terminal

/-!
One run of the command: everything is read and compiled first, and at most one file is written.
-/
namespace Craftbook.Command

/-- What a run was doing when it failed. -/
inductive Activity where
  | loadingConfig
  | compiling (data : String)
  | writing (out : String)
  | checking
  deriving DecidableEq

structure Failure where
  activity : Activity
  error : LoadError
  deriving DecidableEq

inductive Result where
  | printed (source : String)
  | written
  | upToDate (path : String)
  | stale (path : String)
  | failed (failure : Failure)
  deriving DecidableEq

namespace Failure

def message (failure : Failure) : String :=
  let chain := failure.error.chain
  match failure.activity with
  | .loadingConfig => s!"Failed to load codegen config: {chain}"
  | .compiling data => s!"Failed to compile recipes from {Text.quoted data}: {chain}"
  | .writing out => s!"Failed to write {Text.quoted out}: {chain}"
  | .checking => chain

end Failure

namespace Result

def exitCode : Result → UInt32
  | .printed _ | .written | .upToDate _ => 0
  | .stale _ | .failed _ => 1

def output : Result → String
  | .printed source => source
  | _ => ""

/-- Why the exit code is not zero, as it is shown on a terminal. -/
def complaint? : Result → Option String
  | .stale path =>
    some <| Text.forTerminal s!"{Text.quoted path} is stale, run recipe-codegen to regenerate it"
  | .failed failure => some (Text.forTerminal failure.message)
  | _ => none

end Result

/-- The source for the options, with the activity that failed. -/
def source (view : FileView) (options : Options) : Traced Failure String := do
  let config ← (view.config options.config).mapError fun e => ⟨.loadingConfig, e⟩
  (view.generate options.data config).mapError fun e => ⟨.compiling options.data, e⟩

def compare (view : FileView) (path text : String) : Result :=
  match view.isUpToDate path text with
  | .ok true => .upToDate path
  | .ok false => .stale path
  | .error e => .failed ⟨.checking, e⟩

/-- What is left to do once everything has been read. -/
inductive Plan where
  | finish (result : Result)
  | write (path text : String)
  deriving DecidableEq

def plan (view : FileView) (options : Options) : Plan :=
  match (source view options).outcome with
  | .error failure => .finish (.failed failure)
  | .ok text =>
    match options.target with
    | .print => .finish (.printed text)
    | .check path => .finish (compare view path text)
    | .write path => .write path text

def Result.ofWrite (path : String) : Except LoadError Unit → Result
  | .ok () => .written
  | .error e => .failed ⟨.writing path, e⟩

def run (conduct : Conduct) (fs : FileSystem) (options : Options) : FileSystem × Result :=
  match plan fs.read options with
  | .finish result => (fs, result)
  | .write path text =>
    let (after, written) := conduct.writeAtomic fs path text
    (after, .ofWrite path written.outcome)

end Craftbook.Command
