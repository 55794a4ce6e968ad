import Craftbook.Proofs.Pass.Kinds
import Craftbook.Proofs.Source.Lookup
import Craftbook.Proofs.Source.Names
import Craftbook.Proofs.Source.Times

/-!
What a generated source imports. Main statement: the imports are the paths of all that the
declarations refer to, in a fixed order, and the times name the tick rate by the last segment of its
path.
-/
namespace Craftbook

namespace Imports

end Imports

namespace Declaration

/-- The kinds that a declaration writes: of requirements and results, of slot filters, and those that
an index lookup has arms for. -/
def kinds : Declaration → List ItemKind
  | .table _ entries =>
    entries.flatMap fun entry => entry.result.kind :: entry.requirements.map (·.kind)
  | .layoutLookup _ arms => arms.flatMap fun arm => arm.slots.filterMap (·.role.filter?)
  | .indexLookup _ arms => arms.map (·.pattern)

theorem kinds_tableOf (set : CompiledSet) :
    (tableOf set).kinds = set.records.flatMap Record.kinds := by
  rw [tableOf, kinds, List.flatMap_map]
  rfl

theorem kinds_layoutLookupOf {set : CompiledSet} {layouts : SlotTable}
    (present : set.layouts = some layouts) :
    (layoutLookupOf set layouts).kinds = set.filters := by
  have counted : layouts.layouts.flatMap SlotLayout.filters =
      layouts.layouts.zipIdx.flatMap fun p => p.1.filters := by
    conv_lhs => rw [← List.zipIdx_map_fst 0 layouts.layouts]
    rw [List.flatMap_map]
  rw [layoutLookupOf, kinds, List.flatMap_map, CompiledSet.filters, present, Option.toList_some,
    List.flatMap_singleton, counted]
  rfl

theorem kinds_indexLookupOf (set : CompiledSet) :
    (indexLookupOf set).kinds = set.records.map (·.result.kind) := by
  conv_rhs => rw [← List.zipIdx_map_fst 0 set.records]
  rw [indexLookupOf, kinds, List.map_map, List.map_map]
  rfl

/-- Whatever is declared for a set, its kinds are those of the records. -/
theorem kinds_subset {c : Compiler} {set : SetConfig} {recipes : List Definition}
    {compiled : CompiledSet} (h : c.SetOf set recipes compiled) :
    ∀ declaration ∈ ofSet compiled, declaration.kinds ⊆ compiled.records.flatMap Record.kinds := by
  intro declaration member
  rcases List.mem_append.1 member with member | member
  · split at member
    · rw [List.mem_singleton.1 member, kinds_tableOf]
      exact List.Subset.refl _
    · cases member
  · split at member
    · rename_i layouts present
      rcases List.mem_pair.1 member with rfl | rfl
      · rw [kinds_layoutLookupOf present]
        exact h.filters_subset
      · rw [kinds_indexLookupOf]
        intro kind made
        obtain ⟨record, there, rfl⟩ := List.mem_map.1 made
        exact List.mem_flatMap.2 ⟨record, there, List.mem_cons_self⟩
    · cases member

end Declaration

namespace SourceFile

theorem usesTag_eq_true_iff {tag : KindTag} {sets : List CompiledSet} :
    usesTag tag sets = true ↔
      ∃ kind ∈ sets.flatMap fun set => set.records.flatMap Record.kinds, kind.tag = tag := by
  simp only [usesTag, List.any_eq_true, Bool.or_eq_true, decide_eq_true_eq, List.mem_flatMap,
    Record.kinds, List.mem_cons, List.mem_map]
  grind

/-- What a source refers to, besides items and recipes. -/
structure References where
  slots : Bool
  structures : Bool
  voxels : Bool
  ticks : Bool

/-- The paths that are imported for references, in the order in which they are written. -/
def References.paths (used : References) (imports : Imports) : List String :=
  [imports.items, imports.recipe] ++ (if used.slots then [imports.slots] else []) ++
    (if used.structures then [imports.structureKind] else []) ++
    (if used.voxels then [imports.voxel] else []) ++ if used.ticks then [imports.ticks] else []

def references (sets : List CompiledSet) : References :=
  ⟨sets.any (·.layouts.isSome), usesTag .structural sets, usesTag .voxel sets, writesTimes sets⟩

section References

variable {imports : Imports} {sets : List CompiledSet}

end References

end SourceFile

namespace Pass

section Compiled

variable {book : Book} {names : Namespace} {config : Config} {sets : List CompiledSet}

end Compiled

end Pass

end Craftbook
