import Craftbook.Proofs.Schema.Fields
import Craftbook.Proofs.Schema.Recipes
import Craftbook.Schema.Config

/-!
The grammar of configurations as relations between values and what they write. Main statement: a table
that names its entries once is read as a configuration exactly if it writes that configuration, and
each field that it leaves out is at a default of its own.
-/
namespace Craftbook.Schema
open Toml (Value)

def WritesText (value : Value) (s : String) : Prop := value = .text s

def WritesFlag (value : Value) (b : Bool) : Prop := value = .boolean b

/-- A whole number that 32 bits hold. -/
def WritesWord (value : Value) (n : UInt32) : Prop :=
  ∃ k : Int64, value = .integer k ∧ k.toInt = n.toNat

theorem text_iff {value : Value} {s : String} : text value = .ok s ↔ WritesText value s := by
  cases value <;> simp [text, wrongType, WritesText]

theorem boolean_iff {value : Value} {b : Bool} : boolean value = .ok b ↔ WritesFlag value b := by
  cases value <;> simp [boolean, wrongType, WritesFlag]

theorem word_iff {value : Value} {n : UInt32} : word value = .ok n ↔ WritesWord value n := by
  unfold word
  split
  · rename_i k
    simp only [WritesWord, Value.integer.injEq, exists_eq_left']
    split
    · rename_i range
      rw [Except.ok.injEq, ← UInt32.toNat_inj, UInt32.toNat_ofNat']
      have size : UInt32.size = 2 ^ 32 := rfl
      omega
    · rename_i range
      have bound := n.toNat_lt
      have size : UInt32.size = 2 ^ 32 := rfl
      constructor
      · intro h
        cases h
      · intro same
        omega
  · rename_i other
    refine ⟨fun h => (nomatch h), ?_⟩
    rintro ⟨k, rfl, -⟩
    exact absurd rfl (other k)

/-- A set's fields in the order of their places. -/
def setNames : List String :=
  ["key", "const_name", "emit_table", "emit_slot_layout", "layout_fn", "index_fn"]

structure SetFields (fields : List (String × Value)) (set : SetConfig) : Prop where
  known : ∀ name ∈ fields.map (·.1), name ∈ setNames
  key : ("key", .text set.key) ∈ fields
  constant : ("const_name", .text set.constant) ∈ fields
  table : Gives WritesFlag true fields "emit_table" set.policy.table
  layouts : Gives WritesFlag false fields "emit_slot_layout" set.policy.layouts
  layoutFunction : Gives WritesText "crafting_recipe_inventory" fields "layout_fn" set.layoutFunction
  indexFunction : Gives WritesText "crafting_recipe_index" fields "index_fn" set.indexFunction

def WritesSetConfig (value : Value) (set : SetConfig) : Prop :=
  ∃ fields, NamedFields setNames value fields ∧ SetFields fields set

/-- The fields of the imports in the order of their places. -/
def importNames : List String := ["items", "recipe", "slots", "ticks", "structure_kind", "voxel"]

structure ImportFields (fields : List (String × Value)) (imports : Imports) : Prop where
  known : ∀ name ∈ fields.map (·.1), name ∈ importNames
  items : Gives WritesText ({} : Imports).items fields "items" imports.items
  recipe : Gives WritesText ({} : Imports).recipe fields "recipe" imports.recipe
  slots : Gives WritesText ({} : Imports).slots fields "slots" imports.slots
  ticks : Gives WritesText ({} : Imports).ticks fields "ticks" imports.ticks
  structureKind :
    Gives WritesText ({} : Imports).structureKind fields "structure_kind" imports.structureKind
  voxel : Gives WritesText ({} : Imports).voxel fields "voxel" imports.voxel

def WritesImports (value : Value) (imports : Imports) : Prop :=
  ∃ fields, NamedFields importNames value fields ∧ ImportFields fields imports

def configNames : List String := ["ticks_per_second", "time_tolerance", "sets", "imports"]

structure WritesConfig (entries : List (String × Value)) (config : Config) : Prop where
  known : ∀ key ∈ entries.map (·.1), key ∈ configNames
  rate : Gives WritesWord ({} : Config).rate entries "ticks_per_second" config.rate
  tolerance : Gives WritesTime ({} : Config).tolerance entries "time_tolerance" config.tolerance
  sets : Gives (WritesList WritesSetConfig) ({} : Config).sets entries "sets" config.sets
  imports : Gives WritesImports {} entries "imports" config.imports

section Imports
variable {fields : List (String × Value)} {imports : Imports} {value : Value}

theorem importPaths_regular : importPaths.Regular where
  names := by decide
  moment := by decide
  independent := by simp [importPaths, Field.independent_of]
  finish _ _ _ _ h := h

theorem fillInOrder_imports_iff (distinct : (fields.map (·.1)).Nodup) {draft : Imports} :
    fillInOrder fields importPaths.fields draft = .ok imports ↔
      Gives WritesText draft.items fields "items" imports.items ∧
      Gives WritesText draft.recipe fields "recipe" imports.recipe ∧
      Gives WritesText draft.slots fields "slots" imports.slots ∧
      Gives WritesText draft.ticks fields "ticks" imports.ticks ∧
      Gives WritesText draft.structureKind fields "structure_kind" imports.structureKind ∧
      Gives WritesText draft.voxel fields "voxel" imports.voxel := by
  simp only [importPaths,
    fillInOrder_of_iff Imports.items (fun i s => { i with items := s }) text_iff (fun _ => rfl)
      distinct,
    fillInOrder_of_iff Imports.recipe (fun i s => { i with recipe := s }) text_iff (fun _ => rfl)
      distinct,
    fillInOrder_of_iff Imports.slots (fun i s => { i with slots := s }) text_iff (fun _ => rfl)
      distinct,
    fillInOrder_of_iff Imports.ticks (fun i s => { i with ticks := s }) text_iff (fun _ => rfl)
      distinct,
    fillInOrder_of_iff Imports.structureKind (fun i s => { i with structureKind := s }) text_iff
      (fun _ => rfl) distinct,
    fillInOrder_of_iff Imports.voxel (fun i s => { i with voxel := s }) text_iff (fun _ => rfl)
      distinct,
    fillInOrder_done]
  constructor
  · rintro ⟨_, items, _, recipe, _, slots, _, ticks, _, structureKind, _, voxel, ⟨⟩⟩
    exact ⟨items, recipe, slots, ticks, structureKind, voxel⟩
  · rintro ⟨items, recipe, slots, ticks, structureKind, voxel⟩
    exact ⟨_, items, _, recipe, _, slots, _, ticks, _, structureKind, _, voxel, rfl⟩

theorem importFields_iff (distinct : (fields.map (·.1)).Nodup) :
    importPaths.ofEntries fields = .ok imports ↔ ImportFields fields imports := by
  rw [importPaths_regular.ofEntries_eq_ok_iff distinct]
  constructor
  · rintro ⟨known, _, fills, _, ⟨⟩⟩
    obtain ⟨items, recipe, slots, ticks, structureKind, voxel⟩ :=
      (fillInOrder_imports_iff distinct).1 fills
    exact ⟨known, items, recipe, slots, ticks, structureKind, voxel⟩
  · rintro ⟨known, items, recipe, slots, ticks, structureKind, voxel⟩
    have fills := (fillInOrder_imports_iff distinct).2
      ⟨items, recipe, slots, ticks, structureKind, voxel⟩
    exact ⟨known, imports, fills, fun _ => .missingField, rfl⟩

theorem imports_iff (distinct : value.DistinctKeys) :
    importPaths.ofValue .imports value = .ok imports ↔ WritesImports value imports := by
  rw [importPaths_regular.ofValue_eq_ok_iff]
  refine exists_congr fun fields => and_congr_right fun named => importFields_iff ?_
  exact (named.distinct importPaths_regular.names distinct).1

end Imports

section Set
variable {fields : List (String × Value)} {set : SetConfig} {draft : SetDraft} {value : Value}

theorem finish_set_eq_ok_iff {missing : Nat → String → Mismatch} :
    setConfig.finish missing draft = .ok set ↔
      draft.key = some set.key ∧ draft.constant = some set.constant ∧
      set.policy.table = draft.table.getD true ∧ set.policy.layouts = draft.layouts.getD false ∧
      set.layoutFunction = draft.layoutFunction.getD "crafting_recipe_inventory" ∧
      set.indexFunction = draft.indexFunction.getD "crafting_recipe_index" := by
  obtain ⟨key, constant, table, layouts, layoutFunction, indexFunction⟩ := draft
  obtain ⟨key', constant', ⟨table', layouts'⟩, layoutFunction', indexFunction'⟩ := set
  cases key <;> cases constant <;>
    simp [setConfig, required, EmissionPolicy.tableOnly, bind, Except.bind, pure, Except.pure,
      eq_comm, and_assoc]

theorem setConfig_regular : setConfig.Regular where
  names := by decide
  moment := by decide
  independent := by simp [setConfig, Field.independent_of]
  finish _ _ _ _ h := finish_set_eq_ok_iff.2 (finish_set_eq_ok_iff.1 h)

theorem fillInOrder_set_iff (distinct : (fields.map (·.1)).Nodup) :
    fillInOrder fields setConfig.fields {} = .ok draft ↔
      Gives (Field.Known WritesText) none fields "key" draft.key ∧
      Gives (Field.Known WritesText) none fields "const_name" draft.constant ∧
      Gives (Field.Known WritesFlag) none fields "emit_table" draft.table ∧
      Gives (Field.Known WritesFlag) none fields "emit_slot_layout" draft.layouts ∧
      Gives (Field.Known WritesText) none fields "layout_fn" draft.layoutFunction ∧
      Gives (Field.Known WritesText) none fields "index_fn" draft.indexFunction := by
  simp only [setConfig,
    fillInOrder_some_iff SetDraft.key (fun d s => { d with key := s }) text_iff (fun _ => rfl)
      distinct,
    fillInOrder_some_iff SetDraft.constant (fun d s => { d with constant := s }) text_iff
      (fun _ => rfl) distinct,
    fillInOrder_some_iff SetDraft.table (fun d b => { d with table := b }) boolean_iff
      (fun _ => rfl) distinct,
    fillInOrder_some_iff SetDraft.layouts (fun d b => { d with layouts := b }) boolean_iff
      (fun _ => rfl) distinct,
    fillInOrder_some_iff SetDraft.layoutFunction (fun d s => { d with layoutFunction := s })
      text_iff (fun _ => rfl) distinct,
    fillInOrder_some_iff SetDraft.indexFunction (fun d s => { d with indexFunction := s })
      text_iff (fun _ => rfl) distinct,
    fillInOrder_done]
  constructor
  · rintro ⟨_, key, _, constant, _, table, _, layouts, _, layout, _, index, ⟨⟩⟩
    exact ⟨key, constant, table, layouts, layout, index⟩
  · rintro ⟨key, constant, table, layouts, layout, index⟩
    exact ⟨_, key, _, constant, _, table, _, layouts, _, layout, _, index, rfl⟩

theorem gives_text_iff {name s : String} :
    Gives (Field.Known WritesText) none fields name (some s) ↔ (name, .text s) ∈ fields := by
  simp [gives_known_iff, WritesText]

theorem setFields_iff (distinct : (fields.map (·.1)).Nodup) :
    setConfig.ofEntries fields = .ok set ↔ SetFields fields set := by
  rw [setConfig_regular.ofEntries_eq_ok_iff distinct]
  constructor
  · rintro ⟨known, draft, fills, _, finish⟩
    obtain ⟨key, constant, table, layouts, layout, index⟩ := (fillInOrder_set_iff distinct).1 fills
    obtain ⟨keyed, named, tabled, laid, placed, indexed⟩ := finish_set_eq_ok_iff.1 finish
    rw [keyed, gives_text_iff] at key
    rw [named, gives_text_iff] at constant
    exact ⟨known, key, constant, gives_getD_iff.1 ⟨_, table, tabled⟩,
      gives_getD_iff.1 ⟨_, layouts, laid⟩, gives_getD_iff.1 ⟨_, layout, placed⟩,
      gives_getD_iff.1 ⟨_, index, indexed⟩⟩
  · rintro ⟨known, key, constant, table, layouts, layout, index⟩
    obtain ⟨table?, table, tabled⟩ := gives_getD_iff.2 table
    obtain ⟨layouts?, layouts, laid⟩ := gives_getD_iff.2 layouts
    obtain ⟨layout?, layout, placed⟩ := gives_getD_iff.2 layout
    obtain ⟨index?, index, indexed⟩ := gives_getD_iff.2 index
    refine ⟨known, ⟨some set.key, some set.constant, table?, layouts?, layout?, index?⟩, ?_,
      fun _ => .missingField, finish_set_eq_ok_iff.2 ⟨rfl, rfl, tabled, laid, placed, indexed⟩⟩
    exact (fillInOrder_set_iff distinct).2
      ⟨gives_text_iff.2 key, gives_text_iff.2 constant, table, layouts, layout, index⟩

theorem setConfig_iff (distinct : value.DistinctKeys) :
    setConfig.ofValue .set value = .ok set ↔ WritesSetConfig value set := by
  rw [setConfig_regular.ofValue_eq_ok_iff]
  refine exists_congr fun fields => and_congr_right fun named => setFields_iff ?_
  exact (named.distinct setConfig_regular.names distinct).1

end Set

section Config
variable {entries : List (String × Value)} {config : Config} {value : Value}

theorem config_regular : Schema.config.Regular where
  names := by decide
  moment := by decide
  independent := by simp [Schema.config, Field.independent_of]
  finish _ _ _ _ h := h

theorem sets_iff (distinct : value.DistinctKeys) {sets : List SetConfig} :
    sequence (setConfig.ofValue .set) value = .ok sets ↔
      WritesList WritesSetConfig value sets := by
  rw [sequence_eq_ok_iff]
  refine exists_congr fun values => and_congr_right ?_
  rintro rfl
  exact forall₂_congr_left fun value member _ => setConfig_iff (distinct.elements value member)

theorem fillInOrder_config_iff (distinct : (Value.table entries).DistinctKeys) {draft : Config} :
    fillInOrder entries Schema.config.fields draft = .ok config ↔
      Gives WritesWord draft.rate entries "ticks_per_second" config.rate ∧
      Gives WritesTime draft.tolerance entries "time_tolerance" config.tolerance ∧
      Gives (WritesList WritesSetConfig) draft.sets entries "sets" config.sets ∧
      Gives WritesImports draft.imports entries "imports" config.imports := by
  obtain ⟨keys, each⟩ := distinct.entries
  have sets {xs : List SetConfig} :
      Gives (fun value sets => sequence (setConfig.ofValue .set) value = .ok sets)
        draft.sets entries "sets" xs ↔
      Gives (WritesList WritesSetConfig) draft.sets entries "sets" xs :=
    Gives.congr fun there _ => sets_iff (each _ there)
  have imports {paths : Imports} :
      Gives (fun value imports => importPaths.ofValue .imports value = .ok imports)
        draft.imports entries "imports" paths ↔
      Gives WritesImports draft.imports entries "imports" paths :=
    Gives.congr fun there _ => imports_iff (each _ there)
  simp only [Schema.config,
    fillInOrder_of_iff Config.rate (fun c n => { c with rate := n }) word_iff (fun _ => rfl) keys,
    fillInOrder_of_iff Config.tolerance (fun c x => { c with tolerance := x }) float_iff
      (fun _ => rfl) keys,
    fillInOrder_of_iff Config.sets (fun c sets => { c with sets := sets }) Iff.rfl (fun _ => rfl)
      keys,
    fillInOrder_of_iff Config.imports (fun c imports => { c with imports := imports }) Iff.rfl
      (fun _ => rfl) keys,
    fillInOrder_done, sets, imports]
  constructor
  · rintro ⟨_, rate, _, tolerance, _, sets, _, imports, ⟨⟩⟩
    exact ⟨rate, tolerance, sets, imports⟩
  · rintro ⟨rate, tolerance, sets, imports⟩
    exact ⟨_, rate, _, tolerance, _, sets, _, imports, rfl⟩

theorem config_iff (distinct : (Value.table entries).DistinctKeys) :
    Schema.config.ofEntries entries = .ok config ↔ WritesConfig entries config := by
  rw [config_regular.ofEntries_eq_ok_iff distinct.entries.1]
  constructor
  · rintro ⟨known, _, fills, _, ⟨⟩⟩
    obtain ⟨rate, tolerance, sets, imports⟩ := (fillInOrder_config_iff distinct).1 fills
    exact ⟨known, rate, tolerance, sets, imports⟩
  · rintro ⟨known, rate, tolerance, sets, imports⟩
    exact ⟨known, config, (fillInOrder_config_iff distinct).2 ⟨rate, tolerance, sets, imports⟩,
      fun _ => .missingField, rfl⟩

end Config

end Craftbook.Schema
