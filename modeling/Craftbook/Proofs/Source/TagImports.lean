import Craftbook.Proofs.Source.Imports

/-!
Which of the imported types are needed. Main statement: the types of structures and of voxels are
imported if a recipe of any configured set mentions one, and written are only the kinds of sets with
a table, so that an import is of no use exactly where sets without one alone mention its kinds.
-/
namespace Craftbook

theorem exists_mem_flatMap_iff {f : α → List β} {P : β → Prop} {xs : List α} :
    (∃ y ∈ xs.flatMap f, P y) ↔ ∃ x ∈ xs, ∃ y ∈ f x, P y := by
  simp only [List.mem_flatMap]
  grind

/-- The items that a definition names: what it makes, then what it takes. -/
def Definition.items (d : Definition) : List String := d.name :: d.requirements.map (·.item)

/-- A definition makes or takes an item whose kind has a tag. -/
def Namespace.Mentions (names : Namespace) (tag : KindTag) (d : Definition) : Prop :=
  ∃ item ∈ d.items, ∃ kind, names.resolve? item = some kind ∧ kind.tag = tag

namespace Compiler

theorem RecordOf.resolved {c : Compiler} {d : Definition} {record : Record}
    (h : c.RecordOf d record) :
    List.Forall₂ (fun item kind => c.names.resolve? item = some kind) d.items record.kinds := by
  refine .cons h.result.kind ?_
  rw [List.forall₂_map_left_iff, List.forall₂_map_right_iff]
  exact h.ingredients.imp fun _ _ ofStack => ofStack.kind

theorem RecordOf.mentions_iff {c : Compiler} {d : Definition} {record : Record}
    (h : c.RecordOf d record) {tag : KindTag} :
    c.names.Mentions tag d ↔ ∃ kind ∈ record.kinds, kind.tag = tag := by
  apply exists_mem_iff_of_forall₂ h.resolved
  intro item kind known
  simp [known]

theorem SetOf.mentions_iff {c : Compiler} {set : SetConfig} {recipes : List Definition}
    {compiled : CompiledSet} (h : c.SetOf set recipes compiled) {tag : KindTag} :
    (∃ d ∈ recipes, c.names.Mentions tag d) ↔
      ∃ kind ∈ compiled.records.flatMap Record.kinds, kind.tag = tag := by
  rw [exists_mem_iff_of_forall₂ h.records fun _ _ ofRecord => ofRecord.mentions_iff,
    exists_mem_flatMap_iff]

/-- The kinds that are written for a set with its table are those of its recipes; without a table
nothing is written. -/
theorem SetOf.writes_iff {c : Compiler} {set : SetConfig} {recipes : List Definition}
    {compiled : CompiledSet} (h : c.SetOf set recipes compiled)
    (tabled : set.policy.layouts → set.policy.table) {tag : KindTag} :
    (∃ declaration ∈ Declaration.ofSet compiled, ∃ kind ∈ declaration.kinds, kind.tag = tag) ↔
      set.policy.table ∧ ∃ d ∈ recipes, c.names.Mentions tag d := by
  rw [h.mentions_iff]
  constructor
  · rintro ⟨declaration, member, kind, there, tagged⟩
    refine ⟨?_, kind, Declaration.kinds_subset h declaration member there, tagged⟩
    by_contra untabled
    have emitted : set.emitted = [] := by simp [SetConfig.emitted, untabled, mt tabled untabled]
    have declared := h.declared
    rw [emitted, List.map_eq_nil_iff] at declared
    rw [declared] at member
    cases member
  · rintro ⟨table, kind, there, tagged⟩
    refine ⟨Declaration.tableOf compiled, ?_, kind, ?_, tagged⟩
    · rw [Declaration.ofSet, h.config, if_pos table]
      exact List.mem_append_left _ List.mem_cons_self
    · rwa [Declaration.kinds_tableOf]

end Compiler

namespace SourceFile

/-- Whether the type of a tag's kinds is imported. Plain kinds have none of their own. -/
def References.imported (used : References) : KindTag → Bool
  | .plain => false
  | .structural => used.structures
  | .voxel => used.voxels

/-- Some kind with a tag is written. -/
def Writes (file : SourceFile) (tag : KindTag) : Prop :=
  ∃ declaration ∈ file.declarations, ∃ kind ∈ declaration.kinds, kind.tag = tag

theorem imported_references {sets : List CompiledSet} {tag : KindTag} (wrapped : tag ≠ .plain) :
    (references sets).imported tag = usesTag tag sets := by
  cases tag with
  | plain => exact absurd rfl wrapped
  | structural => rfl
  | voxel => rfl

end SourceFile

namespace Pass

/-- A recipe of a configured set makes or takes an item whose kind has a tag. -/
def Mentions (book : Book) (names : Namespace) (tag : KindTag) (set : SetConfig) : Prop :=
  ∃ d ∈ recipesOf book set, names.Mentions tag d

section Compiled

variable {book : Book} {names : Namespace} {config : Config} {sets : List CompiledSet}

theorem usesTag_iff_mentions (done : (compile book names config).outcome = .ok sets)
    (tag : KindTag) :
    SourceFile.usesTag tag sets = true ↔ ∃ set ∈ config.sets, Mentions book names tag set := by
  have mentioned : (∃ set ∈ config.sets, Mentions book names tag set) ↔
      ∃ set ∈ sets, ∃ kind ∈ set.records.flatMap Record.kinds, kind.tag = tag :=
    exists_mem_iff_of_forall₂ (compile_eq_ok_iff.1 done).2 fun _ _ ofSet => ofSet.mentions_iff
  rw [mentioned, SourceFile.usesTag_eq_true_iff, exists_mem_flatMap_iff]

theorem writes_iff_mentions (done : (compile book names config).outcome = .ok sets)
    (tag : KindTag) :
    (SourceFile.ofSets config.imports sets).Writes tag ↔
      ∃ set ∈ config.sets, set.policy.table ∧ Mentions book names tag set := by
  have ⟨valid, compiled⟩ := compile_eq_ok_iff.1 done
  have tabled := (List.forall₂_and_left _ _).2 ⟨Config.validate_table valid, compiled⟩
  have written : (∃ set ∈ config.sets, set.policy.table ∧ Mentions book names tag set) ↔
      ∃ set ∈ sets, ∃ declaration ∈ Declaration.ofSet set,
        ∃ kind ∈ declaration.kinds, kind.tag = tag :=
    exists_mem_iff_of_forall₂ tabled fun _ _ ofSet => (ofSet.2.writes_iff ofSet.1).symm
  rw [written, SourceFile.Writes, SourceFile.ofSets, exists_mem_flatMap_iff]

end Compiled

/-- The type of structures and that of voxels are imported if any configured set mentions one, with
or without a table. What is written comes from sets with a table alone, so an import is of no use
exactly where no set with a table mentions its kinds. -/
theorem tags_imported (book : Book) (names : Namespace) (config : Config)
    (sets : List CompiledSet) (done : (compile book names config).outcome = .ok sets) :
    ∃ used : SourceFile.References,
      (SourceFile.ofSets config.imports sets).imports = used.paths config.imports ∧
      ∀ tag ≠ KindTag.plain,
        (used.imported tag ↔ ∃ set ∈ config.sets, Mentions book names tag set) ∧
        ((SourceFile.ofSets config.imports sets).Writes tag ↔
          ∃ set ∈ config.sets, set.policy.table ∧ Mentions book names tag set) ∧
        ((used.imported tag ∧ ¬ (SourceFile.ofSets config.imports sets).Writes tag) ↔
          (∃ set ∈ config.sets, Mentions book names tag set) ∧
            ∀ set ∈ config.sets, Mentions book names tag set → ¬ set.policy.table) := by
  refine ⟨SourceFile.references sets, rfl, fun tag wrapped => ?_⟩
  have imported := usesTag_iff_mentions done tag
  have written := writes_iff_mentions done tag
  rw [SourceFile.imported_references wrapped]
  refine ⟨imported, written, ?_⟩
  rw [imported, written]
  exact and_congr_right fun _ => by grind

namespace Sample

open Compiler.Sample

/-- Settings under which nothing is generated for a set. -/
def silent : Config :=
  { sets := [{ key := "smelting", constant := "SMELTING", policy := ⟨false, false⟩ }] }

def unwritten : CompiledSet :=
  ⟨{ key := "smelting", constant := "SMELTING", policy := ⟨false, false⟩ }, compiled.records, none⟩

theorem silent_done : (compile (book recipes) metals silent).outcome = .ok [unwritten] := by
  decide +kernel

end Sample

open Compiler.Sample Sample in
theorem tags_imported_silent :
    (compile (book recipes) metals silent).outcome = .ok [unwritten] ∧
    ∃ used : SourceFile.References,
      (SourceFile.ofSets silent.imports [unwritten]).imports = used.paths silent.imports ∧
      used.structures = true ∧
      ¬ (SourceFile.ofSets silent.imports [unwritten]).Writes .structural := by
  obtain ⟨used, block, each⟩ := tags_imported (book recipes) metals silent [unwritten] silent_done
  have mentioned : Mentions (book recipes) metals .structural unwritten.config :=
    ⟨_, List.mem_cons_of_mem _ List.mem_cons_self, _, List.mem_cons_self, furnace,
      by decide +kernel, rfl⟩
  have surplus := (each .structural (by decide)).2.2.2
    ⟨⟨_, List.mem_cons_self, mentioned⟩, by simp [silent]⟩
  exact ⟨silent_done, used, block, surplus⟩

open Compiler.Sample Sample in
/-- The set that holds a structure is not generated, and the type of structures is imported all the
same. -/
theorem import_without_use :
    silent.validate = .ok () ∧
    (source (book recipes) metals silent).outcome =
      .ok (SourceFile.ofSets silent.imports [unwritten]).render ∧
    (SourceFile.ofSets silent.imports [unwritten]).lines = SourceFile.header ++
      [ "use crate::items::{Item, ItemKind};",
        "use super::Recipe;",
        "use crate::structures::strct::StructureKind;" ] ∧
    ¬ (SourceFile.ofSets silent.imports [unwritten]).Writes .structural := by
  refine ⟨by decide +kernel, source_eq_ok_iff.2 ⟨_, silent_done, rfl⟩, by decide +kernel, ?_⟩
  rintro ⟨declaration, declared, -⟩
  cases declared

end Pass

end Craftbook
