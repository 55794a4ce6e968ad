import Craftbook.Recipe.CompiledSet

/-!
The generated source as data: what it imports, and per set a recipe table and two lookups over the
table's positions.
-/
namespace Craftbook

structure TableEntry where
  requirements : List ItemStack
  result : ItemStack
  time : CraftTime
  deriving DecidableEq

/-- The slots at one position. -/
structure LayoutArm where
  index : Nat
  slots : List Slot
  deriving DecidableEq

/-- The position of one kind. -/
structure IndexArm where
  pattern : ItemKind
  index : Nat
  deriving DecidableEq

inductive Declaration where
  | table (name : String) (entries : List TableEntry)
  /-- A function from a position to its slots. -/
  | layoutLookup (name : String) (arms : List LayoutArm)
  /-- A function from a kind to the position of the recipe that makes it. -/
  | indexLookup (name : String) (arms : List IndexArm)
  deriving DecidableEq

structure SourceFile where
  imports : List String
  /-- The name by which times refer to the tick rate. -/
  ticksConstant : String
  declarations : List Declaration
  deriving DecidableEq

namespace TableEntry

def ofRecord (record : Record) : TableEntry := ⟨record.ingredients, record.result, record.time⟩

end TableEntry

namespace Declaration

def tableOf (set : CompiledSet) : Declaration :=
  .table set.config.constant (set.records.map .ofRecord)

def layoutLookupOf (set : CompiledSet) (layouts : SlotTable) : Declaration :=
  .layoutLookup set.config.layoutFunction <|
    layouts.layouts.zipIdx.map fun (layout, index) => ⟨index, layout.slots⟩

def indexLookupOf (set : CompiledSet) : Declaration :=
  .indexLookup set.config.indexFunction <|
    set.records.zipIdx.map fun (record, index) => ⟨record.result.kind, index⟩

/-- What is declared for a set: the table if the policy asks for it, the lookups if there are
layouts. -/
def ofSet (set : CompiledSet) : List Declaration :=
  (if set.config.policy.table then [tableOf set] else []) ++
    match set.layouts with
    | some layouts => [layoutLookupOf set layouts, indexLookupOf set]
    | none => []

end Declaration

namespace SourceFile

/-- Whether a recipe of the sets makes or takes an item with the tag. -/
def usesTag (tag : KindTag) (sets : List CompiledSet) : Bool :=
  sets.any fun set => set.records.any fun record =>
    record.result.kind.tag = tag || record.ingredients.any (·.kind.tag = tag)

/-- The imports, in the order in which they are written. -/
def importsFor (imports : Imports) (sets : List CompiledSet) : List String :=
  [imports.items, imports.recipe] ++
    (if sets.any (·.layouts.isSome) then [imports.slots] else []) ++
    (if usesTag .structural sets then [imports.structureKind] else []) ++
    (if usesTag .voxel sets then [imports.voxel] else []) ++
    if sets.any fun set => set.config.policy.table && !set.records.isEmpty then [imports.ticks]
    else []

def ofSets (imports : Imports) (sets : List CompiledSet) : SourceFile :=
  ⟨importsFor imports sets, imports.ticksConstant, sets.flatMap Declaration.ofSet⟩

end SourceFile

end Craftbook
