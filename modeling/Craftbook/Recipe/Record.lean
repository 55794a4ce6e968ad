import Craftbook.Item.Namespace
import Craftbook.Recipe.Time

/-!
Recipes as authored, and as checked: names resolved, quantities in range, the time in ticks.
-/
namespace Craftbook

/-- An item by its authored name, and how many of it. -/
structure Requirement where
  item : String
  count : Int
  deriving DecidableEq

/-- A recipe as authored. Quantities may be any numbers here, so that a bad one is reported with its
recipe. -/
structure Definition where
  name : String
  requirements : List Requirement
  amount : Int
  time : Binary64
  deriving DecidableEq

structure ItemStack where
  kind : ItemKind
  amount : UInt32
  deriving DecidableEq

/-- A checked recipe: ingredients as authored, the time at the pass's tick rate. -/
structure Record where
  ingredients : List ItemStack
  result : ItemStack
  time : CraftTime
  ticks : UInt32
  deriving DecidableEq

/-- What recipes are checked against. -/
structure Compiler where
  names : Namespace
  quantizer : Quantizer

/-- A quantity as a word; it has to be positive. -/
def amountOfQuantity? (quantity : Int) : Option UInt32 :=
  if 0 < quantity ∧ quantity < UInt32.size then some (.ofNat quantity.toNat) else none

namespace Compiler

/-- The stack of an authored item and quantity. The item is looked up first. -/
def stack (c : Compiler) (recipe item : String) (quantity : Int) : Except CompileError ItemStack :=
  match c.names.resolve? item with
  | none => .error (.unknownKind recipe item)
  | some kind =>
    match amountOfQuantity? quantity with
    | none => .error (.invalidQuantity recipe item quantity)
    | some amount => .ok ⟨kind, amount⟩

def ingredients (c : Compiler) (recipe : String) :
    List Requirement → Except CompileError (List ItemStack)
  | [] => .ok []
  | r :: rest => do
    let first ← c.stack recipe r.item r.count
    return first :: (← c.ingredients recipe rest)

/-- The record of a definition: its result, then its requirements in order, then its time. The first
problem ends it. -/
def record (c : Compiler) (d : Definition) : Except CompileError Record := do
  let result ← c.stack d.name d.name d.amount
  let ingredients ← c.ingredients d.name d.requirements
  let (time, ticks) ← c.quantizer.quantize d.name d.time
  return ⟨ingredients, result, time, ticks⟩

/-- As `record`, reporting a record that was made. -/
def normalize (c : Compiler) (d : Definition) : Traced CompileError Record := do
  let record ← Traced.ofExcept (c.record d)
  Traced.report <| .recipeNormalized d.name record.ingredients.length record.result.kind
    record.result.amount record.ticks
  return record

end Compiler

end Craftbook
