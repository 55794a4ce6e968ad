/-!
The arguments of the command.
-/
namespace Craftbook.Command

/-- What is done with the generated source. -/
inductive Target where
  | print
  | write (path : String)
  | check (path : String)
  deriving DecidableEq

structure Options where
  data : String
  config : Option String
  target : Target
  deriving DecidableEq

/-- The options that take a value. -/
inductive Setting where
  | data
  | config
  | out
  deriving DecidableEq

/-- The arguments seen so far. -/
structure Seen where
  data : Option String := none
  config : Option String := none
  out : Option String := none
  check : Bool := false
  stdout : Bool := false

namespace Seen

/-- An option is given a value at most once, and no empty one. -/
def once (old : Option String) (value : String) : Option String :=
  if value = "" ∨ old.isSome then none else some value

def set? (seen : Seen) (setting : Setting) (value : String) : Option Seen :=
  match setting with
  | .data => return { seen with data := some (← once seen.data value) }
  | .config => return { seen with config := some (← once seen.config value) }
  | .out => return { seen with out := some (← once seen.out value) }

def switch? (seen : Seen) (name : String) : Option Seen :=
  if name = "check" ∧ seen.check = false then some { seen with check := true }
  else if name = "stdout" ∧ seen.stdout = false then some { seen with stdout := true }
  else none

/-- Printing needs no path and does not go with checking; anything else needs one. -/
def options? (seen : Seen) : Option Options :=
  if seen.stdout then
    if seen.check then none else some ⟨seen.data.getD "data", seen.config, .print⟩
  else do
    let out ← seen.out
    return ⟨seen.data.getD "data", seen.config, if seen.check then .check out else .write out⟩

end Seen

def longSetting? (name : String) : Option Setting :=
  if name = "data" then some .data
  else if name = "config" then some .config
  else if name = "out" then some .out
  else none

def shortSetting? (letter : Char) : Option Setting :=
  if letter = 'd' then some .data
  else if letter = 'c' then some .config
  else if letter = 'o' then some .out
  else none

inductive Argument where
  | setting (setting : Setting) (attached : Option String)
  | switch (name : String)
  | finish
  | other

namespace Argument

/-- A value behind a letter; an equals sign before it is not part of it. -/
def attached : List Char → Option String
  | [] => none
  | '=' :: value => some (String.ofList value)
  | value => some (String.ofList value)

def ofLong (s : List Char) : Argument :=
  let name := String.ofList (s.takeWhile (· ≠ '='))
  match longSetting? name, s.dropWhile (· ≠ '=') with
  | some option, rest => .setting option (attached rest)
  | none, [] => .switch name
  | none, _ => .other

def ofText (argument : String) : Argument :=
  match argument.toList with
  | ['-', '-'] => .finish
  | '-' :: '-' :: s => ofLong s
  | '-' :: letter :: s =>
    match shortSetting? letter with
    | some option => .setting option (attached s)
    | none => .other
  | _ => .other

end Argument

/-- Whether an argument may be the value of the option before it. -/
def isValue (argument : String) : Bool := argument = "-" || !argument.startsWith "-"

def scan? (seen : Seen) : List String → Option Seen
  | [] => some seen
  | argument :: rest =>
    match Argument.ofText argument, rest with
    | .switch name, rest => do scan? (← seen.switch? name) rest
    | .setting option (some value), rest => do scan? (← seen.set? option value) rest
    | .setting option none, value :: rest =>
      if isValue value then do scan? (← seen.set? option value) rest else none
    | .finish, [] => some seen
    | _, _ => none

/-- The options that arguments stand for, if they are right. -/
def Options.ofArguments? (arguments : List String) : Option Options := do
  (← scan? {} arguments).options?

end Craftbook.Command
