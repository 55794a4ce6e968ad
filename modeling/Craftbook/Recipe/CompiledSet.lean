import Craftbook.Config.Basic
import Craftbook.Recipe.Slots

/-!
A whole set of recipes, compiled in authored order.
-/
namespace Craftbook

structure CompiledSet where
  config : SetConfig
  records : List Record
  /-- Present if the policy asks for layouts. -/
  layouts : Option SlotTable
  deriving DecidableEq

namespace Compiler

def ofConfig (names : Namespace) (config : Config) : Compiler :=
  ⟨names, config.rate, config.tolerance⟩

/-- The records of definitions, given the kinds made before them. A layout is also looked up by the
kind made, so a set makes each kind once. -/
def distinctRecords (c : Compiler) (set : String) (made : List ItemKind) :
    List Definition → Traced CompileError (List Record)
  | [] => pure []
  | d :: rest => do
    let record ← c.normalize d
    if record.result.kind ∈ made then
      Traced.ofExcept (.error (.duplicateRecipe set record.result.kind.authored))
    else
      return record :: (← c.distinctRecords set (record.result.kind :: made) rest)

def layoutsFor (set : SetConfig) (records : List Record) : Except CompileError (Option SlotTable) :=
  if set.policy.layouts then return some (← SlotTable.ofRecords records) else return none

/-- Compiles a set up to its first failing recipe; layouts are built once all recipes have passed. -/
def compileSet (c : Compiler) (set : SetConfig) (recipes : List Definition) :
    Traced CompileError CompiledSet := do
  let records ← c.distinctRecords set.key [] recipes
  let layouts ← Traced.ofExcept (layoutsFor set records)
  Traced.report (.setCompiled set.key records.length (layouts.map SlotTable.size))
  return ⟨set, records, layouts⟩

end Compiler

end Craftbook
