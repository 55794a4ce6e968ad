import Craftbook.Recipe.Record
import Craftbook.Schema.Reading

/-!
The recipe file: tables of recipes by their names, one table per set.
-/
namespace Craftbook.Schema
open Toml (Value)

/-- A requirement's count in a table; it may be left out. -/
def requirementCount? : Option Value → Option Int
  | none => some 1
  | some (.integer n) => some n.toInt
  | some _ => none

/-- A pair of an item and a count, or a table with an item; the table's other entries are not looked
at. -/
def requirement? : Value → Option Requirement
  | .array [.text item, .integer n] => some ⟨item, n.toInt⟩
  | .table entries =>
    match entries.lookup "item" with
    | some (.text item) => (requirementCount? (entries.lookup "count")).map (⟨item, ·⟩)
    | _ => none
  | _ => none

def requirement (value : Value) : Except Mismatch Requirement :=
  match requirement? value with
  | some r => .ok r
  | none => .error .noRequirement

structure RecipeDraft where
  requirements : List Requirement := []
  amount : Int := 1
  time : Option Binary64 := none

/-- A recipe but for its name. -/
structure RecipeBody where
  requirements : List Requirement
  amount : Int
  time : Binary64

def recipeBody : Reader RecipeDraft RecipeBody where
  fields :=
    [ .of "requirements" (sequence requirement) fun draft list => { draft with requirements := list },
      .of "amount" quantity fun draft n => { draft with amount := n },
      .of "time" float fun draft x => { draft with time := some x } ]
  blank := {}
  finish missing draft := do
    return ⟨draft.requirements, draft.amount, ← required (missing 2 "time") draft.time⟩

/-- White space around a recipe's name is not part of it. -/
def definition (name : String) (value : Value) : Except Mismatch Definition := do
  let body ← recipeBody.ofValue .recipe value
  return ⟨String.ofList (Text.trim name.toList), body.requirements, body.amount, body.time⟩

def definitions (value : Value) : Except Mismatch (List Definition) :=
  match entries? value with
  | some entries => entries.mapM fun (name, value) => definition name value
  | none => wrongType .table value

def recipeSets (entries : List (String × Value)) : Except Mismatch (List (String × List Definition)) :=
  entries.mapM fun (key, value) => do return (key, ← definitions value)

end Craftbook.Schema
