import Craftbook.Binary64.Decimal

/-!
What a pass is told: tick rate, tolerance, the sets to emit and under what names, and the paths that
the generated source imports.
-/
namespace Craftbook

structure EmissionPolicy where
  table : Bool
  layouts : Bool
  deriving DecidableEq

namespace EmissionPolicy

/-- For stations with a fixed slot scheme. -/
def tableOnly : EmissionPolicy := ⟨true, false⟩

def full : EmissionPolicy := ⟨true, true⟩

end EmissionPolicy

/-- A recipe set by its key in the recipe file, and the names of what is generated for it. -/
structure SetConfig where
  key : String
  constant : String
  policy : EmissionPolicy := .tableOnly
  layoutFunction : String := "crafting_recipe_inventory"
  indexFunction : String := "crafting_recipe_index"
  deriving DecidableEq

/-- The names that are generated for a set. -/
def SetConfig.emitted (set : SetConfig) : List String :=
  (if set.policy.table then [set.constant] else []) ++
    if set.policy.layouts then [set.layoutFunction, set.indexFunction] else []

/-- Where the generated source finds the types and the constant it refers to. -/
structure Imports where
  items : String := "crate::items::{Item, ItemKind}"
  recipe : String := "super::Recipe"
  slots : String := "crate::structures::inventory::{Filter, SlotKind, SlotMeta}"
  ticks : String := "crate::constants::TICKS_PER_SECOND"
  structureKind : String := "crate::structures::strct::StructureKind"
  voxel : String := "crate::voxel_world::voxel::Voxel"
  deriving DecidableEq

namespace Imports

/-- What follows the last double colon. -/
def lastSegment? : List Char → Option (List Char)
  | [] => none
  | c :: rest =>
    match lastSegment? rest with
    | some segment => some segment
    | none => [':', ':'].isPrefixOf? (c :: rest)

/-- The name by which the tick rate is referred to: the last segment of its path. -/
def ticksConstant (imports : Imports) : String :=
  match lastSegment? imports.ticks.toList with
  | some segment => String.ofList segment
  | none => imports.ticks

end Imports

structure Config where
  rate : UInt32 := 60
  tolerance : Binary64 := Decimal.toBinary64 false ⟨1, -6⟩
  sets : List SetConfig :=
    [ { key := "furnace", constant := "FURNACE_RECIPES" },
      { key := "recipes", constant := "RECIPES", policy := .full } ]
  imports : Imports := {}
  deriving DecidableEq

inductive ConfigFault where
  | zeroRate
  | badTolerance (tolerance : Binary64)
  | repeatedSet (key : String)
  | layoutWithoutTable (key : String)
  | repeatedName (name : String)
  deriving DecidableEq

def ConfigFault.message : ConfigFault → String
  | .zeroRate => "ticks_per_second must be positive"
  | .badTolerance tolerance =>
    s!"time_tolerance must be a non-negative number, got {tolerance.text}"
  | .repeatedSet key => s!"recipe set '{key}' is listed twice"
  | .layoutWithoutTable key =>
    s!"recipe set '{key}' emits a slot layout without its recipe table"
  | .repeatedName name => s!"generated item '{name}' is declared twice"

namespace Config

/-- Declares names on top of those that are taken, up to the first that is taken already. -/
def declare (taken : List String) : List String → Except ConfigFault (List String)
  | [] => .ok taken
  | name :: rest =>
    if name ∈ taken then .error (.repeatedName name) else declare (name :: taken) rest

/-- The first fault of the sets, given the keys and the names of the sets before them. A layout's
positions refer to the set's table, so it needs one. -/
def checkSets (keys names : List String) : List SetConfig → Except ConfigFault Unit
  | [] => .ok ()
  | set :: rest =>
    if set.key ∈ keys then .error (.repeatedSet set.key)
    else if set.policy.layouts && !set.policy.table then .error (.layoutWithoutTable set.key)
    else do checkSets (set.key :: keys) (← declare names set.emitted) rest

/-- Refuses settings under which the generated source would be broken or ambiguous. -/
def validate (config : Config) : Except ConfigFault Unit :=
  if config.rate = 0 then .error .zeroRate
  else if !config.tolerance.isFinite || config.tolerance < 0 then
    .error (.badTolerance config.tolerance)
  else checkSets [] [] config.sets

end Config

end Craftbook
