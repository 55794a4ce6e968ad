import Craftbook.Proofs.Config.Validation
import Craftbook.Proofs.Pass.Outcome
import Craftbook.Proofs.Text.Word
import Craftbook.Source.Render
import Mathlib.Data.List.Nodup

/-!
The names that a generated source brings into scope. Main statement: the names it declares are the
configured ones, each once, and only the tick rate that it imports may have the name of one of them;
validation sees which names are equal, but neither that import nor how a name is spelt.
-/
namespace Craftbook

namespace Declaration

def name : Declaration → String
  | .table name _ | .layoutLookup name _ | .indexLookup name _ => name

end Declaration

theorem Compiler.SetOf.declared {c : Compiler} {set : SetConfig} {recipes : List Definition}
    {compiled : CompiledSet} (h : c.SetOf set recipes compiled) :
    (Declaration.ofSet compiled).map (·.name) = set.emitted := by
  have layouts := h.layouts
  rw [Declaration.ofSet, SetConfig.emitted, List.map_append, h.config]
  unfold LayoutsOf at layouts
  congr 1
  · split <;> simp [Declaration.tableOf, Declaration.name, h.config]
  · split at layouts
    · rename_i laidOut
      obtain ⟨table, present, -⟩ := layouts
      rw [present, if_pos laidOut]
      simp [Declaration.layoutLookupOf, Declaration.indexLookupOf, Declaration.name, h.config]
    · rename_i bare
      rw [layouts, if_neg bare]
      rfl

namespace SourceFile

/-- Whether a time is written, and so the tick rate imported. -/
def writesTimes (sets : List CompiledSet) : Bool :=
  sets.any fun set => set.config.policy.table && !set.records.isEmpty

/-- The imports of types; the tick rate is the only value. -/
def typeImports (imports : Imports) (sets : List CompiledSet) : List String :=
  [imports.items, imports.recipe] ++
    (if sets.any (·.layouts.isSome) then [imports.slots] else []) ++
    (if usesTag .structural sets then [imports.structureKind] else []) ++
    if usesTag .voxel sets then [imports.voxel] else []

theorem importsFor_eq (imports : Imports) (sets : List CompiledSet) :
    importsFor imports sets =
      typeImports imports sets ++ if writesTimes sets then [imports.ticks] else [] := rfl

/-- The names of values in the scope of a generated source: the tick rate if it is imported, and what
is declared. -/
def scope (imports : Imports) (sets : List CompiledSet) : List String :=
  (if writesTimes sets then [imports.ticksConstant] else []) ++
    (ofSets imports sets).declarations.map (·.name)

end SourceFile

namespace SetConfig

/-- A set with other names for what is generated. -/
def renamed (f : String → String) (set : SetConfig) : SetConfig :=
  { set with
    constant := f set.constant
    layoutFunction := f set.layoutFunction
    indexFunction := f set.indexFunction }

theorem emitted_renamed (f : String → String) (set : SetConfig) :
    (set.renamed f).emitted = set.emitted.map f := by
  unfold renamed emitted
  cases set.policy.table <;> cases set.policy.layouts <;> rfl

end SetConfig

namespace Config

def renamed (f : String → String) (config : Config) : Config :=
  { config with sets := config.sets.map (·.renamed f) }

theorem emitted_renamed (f : String → String) (config : Config) :
    (config.renamed f).sets.flatMap (·.emitted) = (config.sets.flatMap (·.emitted)).map f := by
  rw [renamed, List.flatMap_map, List.map_flatMap]
  congr 1
  funext set
  exact set.emitted_renamed f

/-- Validation does not see how names are spelt. -/
theorem validate_renamed_iff {f : String → String} (apart : Function.Injective f)
    (config : Config) : (config.renamed f).validate = .ok () ↔ config.validate = .ok () := by
  have keys : (config.renamed f).sets.map (·.key) = config.sets.map (·.key) := by
    rw [renamed, List.map_map]
    rfl
  have tabled : (∀ set ∈ (config.renamed f).sets, set.policy.layouts → set.policy.table) ↔
      ∀ set ∈ config.sets, set.policy.layouts → set.policy.table := List.forall_mem_map
  have names : ((config.renamed f).sets.flatMap (·.emitted)).Nodup ↔
      (config.sets.flatMap (·.emitted)).Nodup := by
    rw [emitted_renamed, List.nodup_map_iff apart]
  rw [validate_eq_ok_iff, validate_eq_ok_iff]
  refine ⟨fun sound => ?_, fun sound => ?_⟩
  · exact ⟨sound.rate, sound.tolerance, keys ▸ sound.keys, tabled.1 sound.tabled,
      names.1 sound.names⟩
  · exact ⟨sound.rate, sound.tolerance, keys.symm ▸ sound.keys, tabled.2 sound.tabled,
      names.2 sound.names⟩

end Config

namespace Pass

theorem compile_declared {book : Book} {names : Namespace} {config : Config}
    {sets : List CompiledSet} (done : (compile book names config).outcome = .ok sets) :
    (SourceFile.ofSets config.imports sets).declarations.map (·.name) =
      config.sets.flatMap (·.emitted) := by
  have compiled := (compile_eq_ok_iff.1 done).2
  rw [SourceFile.ofSets, List.map_flatMap]
  exact (flatMap_eq_of_forall₂ compiled fun _ _ ofSet => ofSet.declared.symm).symm

/-- The scope of a source that a pass writes: each declared name once, so that only the imported tick
rate can clash. Validation accepts the settings under any spelling of the names. -/
theorem declared_once (book : Book) (names : Namespace) (config : Config) :
    (∀ sets, (compile book names config).outcome = .ok sets →
      (SourceFile.ofSets config.imports sets).imports =
        SourceFile.typeImports config.imports sets ++
          (if SourceFile.writesTimes sets then [config.imports.ticks] else []) ∧
      (SourceFile.ofSets config.imports sets).declarations.map (·.name) =
        config.sets.flatMap (·.emitted) ∧
      (config.sets.flatMap (·.emitted)).Nodup ∧
      ((SourceFile.scope config.imports sets).Nodup ↔
        (SourceFile.writesTimes sets →
          config.imports.ticksConstant ∉ config.sets.flatMap (·.emitted)))) ∧
    ∀ f : String → String, Function.Injective f →
      ((config.renamed f).validate = .ok () ↔ config.validate = .ok ()) := by
  refine ⟨fun sets done => ?_, fun f apart => Config.validate_renamed_iff apart config⟩
  have declared := compile_declared done
  have distinct := (Config.validate_eq_ok_iff.1 (compile_eq_ok_iff.1 done).1).names
  refine ⟨SourceFile.importsFor_eq _ _, declared, distinct, ?_⟩
  rw [SourceFile.scope, declared]
  split
  · rename_i written
    simp [written, distinct]
  · rename_i unwritten
    simp [unwritten, distinct]

open Compiler.Sample Sample in
theorem declared_once_smelting :
    (compile (book recipes) metals settings).outcome = .ok [compiled] ∧
    ((SourceFile.scope settings.imports [compiled]).Nodup ↔
      (SourceFile.writesTimes [compiled] →
        settings.imports.ticksConstant ∉ settings.sets.flatMap (·.emitted))) ∧
    Function.Injective ("pub " ++ ·) ∧
    ((settings.renamed ("pub " ++ ·)).validate = .ok () ↔ settings.validate = .ok ()) := by
  have done : (compile (book recipes) metals settings).outcome = .ok [compiled] := by
    decide +kernel
  have apart : Function.Injective ("pub " ++ ·) := by
    intro a b same
    simpa using same
  have scope := declared_once (book recipes) metals settings
  exact ⟨done, (scope.1 _ done).2.2.2, apart, scope.2 _ apart⟩

namespace Sample

open Compiler.Sample

def tableCalled (name : String) : SetConfig :=
  { key := "smelting", constant := name, policy := .tableOnly }

end Sample

open Compiler.Sample Sample in
theorem scope_unsound :
    (¬ ∀ book names config sets, config.validate = .ok () →
      (compile book names config).outcome = .ok sets →
        (SourceFile.scope config.imports sets).Nodup) ∧
    ¬ ∀ book names config sets, config.validate = .ok () →
      (compile book names config).outcome = .ok sets →
        ∀ name ∈ SourceFile.scope config.imports sets,
          Text.Word (fun c => Text.IsLetter c ∨ c = '_') name := by
  refine ⟨fun distinct => ?_, fun spelt => ?_⟩
  · have clash := distinct (book recipes) metals { sets := [tableCalled "TICKS_PER_SECOND"] }
      [⟨tableCalled "TICKS_PER_SECOND", compiled.records, none⟩] (by decide +kernel)
      (by decide +kernel)
    exact absurd clash (by decide +kernel)
  · obtain ⟨first, rest, begins, valid, -⟩ :=
      spelt (book recipes) metals { sets := [tableCalled "9 lives"] }
        [⟨tableCalled "9 lives", compiled.records, none⟩] (by decide +kernel) (by decide +kernel)
        "9 lives" (by decide +kernel)
    have digit : first = '9' := by simpa using congrArg List.head? begins.symm
    rw [digit] at valid
    exact absurd valid (by decide)

end Pass

end Craftbook
