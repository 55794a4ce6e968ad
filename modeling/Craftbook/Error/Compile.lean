import Craftbook.Binary64.Decimal

/-!
What can be wrong with an authored recipe, and how it is reported.
-/
namespace Craftbook

inductive CompileError where
  | unknownKind (recipe : String) (name : String)
  | invalidQuantity (recipe : String) (item : String) (quantity : Int)
  | invalidTime (recipe : String) (seconds : Binary64)
  | ambiguousTime (recipe : String) (seconds : Binary64) (ticks : UInt32) (rate : UInt32)
  | slotIndexOutOfRange (index : Nat) (count : Nat)
  | duplicateRecipe (set : String) (name : String)
  deriving DecidableEq

namespace CompileError

def message : CompileError → String
  | .unknownKind recipe name => s!"recipe '{recipe}': unknown item kind '{name}'"
  | .invalidQuantity recipe item quantity =>
    s!"recipe '{recipe}': invalid quantity {quantity} for '{item}'"
  | .invalidTime recipe seconds =>
    s!"recipe '{recipe}': production time {seconds.text}s must be a positive, finite number"
  | .ambiguousTime recipe seconds ticks rate =>
    s!"recipe '{recipe}': {seconds.text}s cannot be expressed exactly at {rate} ticks/s " ++
      s!"(nearest candidate is {ticks} ticks)"
  | .slotIndexOutOfRange index count =>
    s!"slot layout index {index} is out of range ({count} recipes compiled)"
  | .duplicateRecipe set name => s!"recipe set '{set}': '{name}' is authored more than once"

end CompileError

end Craftbook
