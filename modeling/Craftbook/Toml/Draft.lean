import Craftbook.Toml.Value

/-!
Tables under construction. How a table came to be decides what may still be added to it.
-/
namespace Craftbook.Toml

inductive Origin where
  /-- By a header of its own. -/
  | header
  /-- As a table above one that has a header. -/
  | supertable
  /-- By a dotted key. -/
  | dotted
  deriving DecidableEq

inductive Draft where
  | leaf (value : Value)
  | table (origin : Origin) (entries : List (String × Draft))
  /-- An array of tables, one per header. -/
  | tables (elements : List (List (String × Draft)))

/-- A dotted key: the tables it leads through and the name at its end. -/
structure Key where
  parents : List String
  last : String
  deriving DecidableEq

namespace Draft

abbrev Entries := List (String × Draft)

mutual
def toValue : Draft → Value
  | .leaf value => value
  | .table _ entries => .table (entriesValue entries)
  | .tables elements => .array (elementsValue elements)

def entriesValue : List (String × Draft) → List (String × Value)
  | [] => []
  | (key, draft) :: rest => (key, draft.toValue) :: entriesValue rest

def elementsValue : List (List (String × Draft)) → List Value
  | [] => []
  | entries :: rest => .table (entriesValue entries) :: elementsValue rest
end

def set (key : String) (draft : Draft) (entries : Entries) : Entries :=
  entries.map fun entry => if entry.1 = key then (key, draft) else entry

/-- Changes the entries of the table that a path leads to. Tables that the path names first are made
with the given origin, at the end of their parent; an array stands for its last table. A dotted key
does not enter a table that has a header. -/
def descend (origin : Origin) (change : Origin → Entries → Option Entries) :
    (path : List String) → Origin → Entries → Option Entries
  | [], here, entries => change here entries
  | key :: path, _, entries =>
    match entries.lookup key with
    | none => do
      let made ← descend origin change path origin []
      return entries ++ [(key, .table origin made)]
    | some (.leaf _) => none
    | some (.table there sub) =>
      if origin = .dotted ∧ there = .header then none
      else do
        let changed ← descend origin change path there sub
        return set key (.table there changed) entries
    | some (.tables elements) => do
      let changed ← descend origin change path .header (← elements.getLast?)
      return set key (.tables (elements.dropLast ++ [changed])) entries

/-- Adds a value under a name that is new. A table that no dotted key made is not the end of one. -/
def addLeaf (key : Key) (value : Value) (here : Origin) (entries : Entries) : Option Entries :=
  if (here = .dotted ↔ key.parents = []) ∨ (entries.lookup key.last).isSome then none
  else some (entries ++ [(key.last, .leaf value)])

def addPairs (entries : Entries) : List (Key × Value) → Option Entries
  | [] => some entries
  | (key, value) :: rest => do
    addPairs (← descend .dotted (addLeaf key value) key.parents .header entries) rest

/-- Completes a table under a header. A table that was only implied takes its own entries along, and
its place, to the end of the parent. -/
def addTable (name : String) (pairs : List (Key × Value)) (_ : Origin) (entries : Entries) :
    Option Entries :=
  match entries.lookup name with
  | none => do return entries ++ [(name, .table .header (← addPairs [] pairs))]
  | some (.table .supertable sub) => do
    let complete ← addPairs sub pairs
    return entries.filter (·.1 ≠ name) ++ [(name, .table .header complete)]
  | some _ => none

/-- Completes a table at the end of an array of tables. The array keeps its place in the parent. -/
def addElement (name : String) (pairs : List (Key × Value)) (_ : Origin) (entries : Entries) :
    Option Entries :=
  match entries.lookup name with
  | none => do return entries ++ [(name, .tables [← addPairs [] pairs])]
  | some (.tables elements) => do
    return set name (.tables (elements ++ [← addPairs [] pairs])) entries
  | some _ => none

end Draft

end Craftbook.Toml
