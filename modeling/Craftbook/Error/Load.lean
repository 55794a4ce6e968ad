import Craftbook.Config.Basic
import Craftbook.Error.Compile
import Craftbook.Schema.Mismatch

/-!
Why files cannot be loaded, compiled or written.
-/
namespace Craftbook

/-- Why a pass over loaded inputs fails. -/
inductive PassError where
  | config (fault : ConfigFault)
  | compile (error : CompileError)
  deriving DecidableEq

inductive ParseFault where
  /-- The text is not TOML at all. -/
  | malformed
  | mismatch (mismatch : Schema.Mismatch)
  deriving DecidableEq

/-- What a file system answers instead of doing what it was asked. -/
inductive IoFault where
  | notFound
  | isDirectory
  | notDirectory
  /-- A path that ends in `.` or `..` cannot be replaced. -/
  | busy
  | nameTooLong
  /-- A path with a null character names nothing. -/
  | nullCharacter
  /-- A file that is read as text is not UTF-8. -/
  | invalidText
  | other (message : String)
  deriving DecidableEq

inductive LoadError where
  /-- With the path of the temporary file, if one could not be made. -/
  | io (path : String) (fault : IoFault) (temporary : Option String)
  | parse (path : String) (fault : ParseFault)
  | pass (error : PassError)
  deriving DecidableEq

def PassError.message : PassError → String
  | .config fault => s!"invalid configuration: {fault.message}"
  | .compile error => error.message

def IoFault.message : IoFault → String
  | .notFound => "No such file or directory (os error 2)"
  | .isDirectory => "Is a directory (os error 21)"
  | .notDirectory => "Not a directory (os error 20)"
  | .busy => "Device or resource busy (os error 16)"
  | .nameTooLong => "File name too long (os error 36)"
  | .nullCharacter => "file name contained an unexpected NUL byte"
  | .invalidText => "stream did not contain valid UTF-8"
  | .other message => message

def ParseFault.message : ParseFault → String
  | .malformed => "TOML parse error"
  | .mismatch m => s!"TOML parse error: {m.message}"

namespace LoadError

/-- What failed on which path, without the cause. -/
def summary : LoadError → String
  | .io path .. => s!"failed to read {Text.quoted path}"
  | .parse path _ => s!"failed to parse {Text.quoted path}"
  | .pass error => error.message

/-- The cause, if there is one besides the summary. -/
def cause? : LoadError → Option String
  | .io _ fault none => some fault.message
  | .io _ fault (some temporary) => some s!"{fault.message} at path {Text.quoted temporary}"
  | .parse _ fault => some fault.message
  | .pass _ => none

def message (error : LoadError) : String :=
  match error.cause? with
  | some cause => s!"{error.summary}: {cause}"
  | none => error.summary

/-- The message followed by its cause once more, as a chain of errors is reported. -/
def chain (error : LoadError) : String :=
  match error.cause? with
  | some cause => s!"{error.message}: {cause}"
  | none => error.message

end LoadError

end Craftbook
