import Craftbook.Proofs.Config.Fault
import Craftbook.Proofs.Schema.Config
import Craftbook.Proofs.Toml.DocumentTree

/-!
The configuration file as a whole. Main statement: a document is accepted exactly if each of its
entries is a known one of the right shape, and the configuration then holds what is written, with a
default of its own for each field that is left out.
-/
namespace Craftbook.Schema
open Toml (Value)

/-- A field of a set: a name that has a text, or a switch. -/
inductive SetField : String × Value → Prop
  | name {field s : String} (known : field ∈ ["key", "const_name", "layout_fn", "index_fn"]) :
    SetField (field, .text s)
  | switch {field : String} {b : Bool} (known : field ∈ ["emit_table", "emit_slot_layout"]) :
    SetField (field, .boolean b)

/-- A set that can be read: known fields alone, among them the key and the constant. -/
def IsSet (value : Value) : Prop :=
  ∃ fields, NamedFields setNames value fields ∧ (∀ field ∈ fields, SetField field) ∧
    "key" ∈ fields.map (·.1) ∧ "const_name" ∈ fields.map (·.1)

/-- Imports that can be read: known fields alone, each a text. -/
def AreImports (value : Value) : Prop :=
  ∃ fields, NamedFields importNames value fields ∧
    ∀ field ∈ fields, field.1 ∈ importNames ∧ ∃ s, field.2 = .text s

/-- An entry of a configuration that can be read. -/
inductive ConfigEntry : String × Value → Prop
  | rate {n : Int64} (least : 0 ≤ n.toInt) (most : n.toInt ≤ 4294967295) :
    ConfigEntry ("ticks_per_second", .integer n)
  | tolerance (x : Binary64) : ConfigEntry ("time_tolerance", .float x)
  | wholeTolerance (n : Int64) : ConfigEntry ("time_tolerance", .integer n)
  | sets {elements : List Value} (each : ∀ value ∈ elements, IsSet value) :
    ConfigEntry ("sets", .array elements)
  | imports {value : Value} (shape : AreImports value) : ConfigEntry ("imports", value)

section Shapes
variable {fields entries : List (String × Value)} {value : Value}

theorem exists_writesWord_iff :
    (∃ n, WritesWord value n) ↔
      ∃ k : Int64, value = .integer k ∧ 0 ≤ k.toInt ∧ k.toInt ≤ 4294967295 := by
  constructor
  · rintro ⟨n, k, rfl, same⟩
    have bound := n.toNat_lt
    exact ⟨k, rfl, by omega, by omega⟩
  · rintro ⟨k, rfl, least, most⟩
    refine ⟨.ofNat k.toInt.toNat, k, rfl, ?_⟩
    rw [UInt32.toNat_ofNat']
    omega

theorem exists_writesTime_iff :
    (∃ x, WritesTime value x) ↔ (∃ x, value = .float x) ∨ ∃ n, value = .integer n := by
  constructor
  · rintro ⟨x, written⟩
    cases written with
    | float => exact .inl ⟨x, rfl⟩
    | integer => exact .inr ⟨_, rfl⟩
  · rintro (⟨x, rfl⟩ | ⟨n, rfl⟩)
    · exact ⟨x, .float x⟩
    · exact ⟨_, float_iff.1 rfl⟩

theorem SetField.known {field : String × Value} (h : SetField field) : field.1 ∈ setNames := by
  have names : ∀ name ∈ ["key", "const_name", "layout_fn", "index_fn"], name ∈ setNames := by decide
  have switches : ∀ name ∈ ["emit_table", "emit_slot_layout"], name ∈ setNames := by decide
  cases h with
  | name known => exact names _ known
  | switch known => exact switches _ known

theorem SetField.text {name : String} (h : SetField (name, value))
    (apart : name ∉ ["emit_table", "emit_slot_layout"]) : ∃ s, WritesText value s := by
  cases h with
  | name => exact ⟨_, rfl⟩
  | switch known => exact absurd known apart

theorem SetField.flag {name : String} (h : SetField (name, value))
    (apart : name ∉ ["key", "const_name", "layout_fn", "index_fn"]) : ∃ b, WritesFlag value b := by
  cases h with
  | name known => exact absurd known apart
  | switch => exact ⟨_, rfl⟩

theorem SetFields.field {set : SetConfig} (written : SetFields fields set)
    (keys : (fields.map (·.1)).Nodup) : ∀ field ∈ fields, SetField field := by
  rintro ⟨name, value⟩ member
  have known := written.known name (List.mem_map_of_mem member)
  simp only [setNames, List.mem_cons, List.not_mem_nil, or_false] at known
  obtain rfl | rfl | rfl | rfl | rfl | rfl := known
  · cases value_unique keys member written.key
    exact .name (by decide)
  · cases value_unique keys member written.constant
    exact .name (by decide)
  · cases written.table.of_mem keys member
    exact .switch (by decide)
  · cases written.layouts.of_mem keys member
    exact .switch (by decide)
  · cases written.layoutFunction.of_mem keys member
    exact .name (by decide)
  · cases written.indexFunction.of_mem keys member
    exact .name (by decide)

theorem exists_setFields_iff (keys : (fields.map (·.1)).Nodup) :
    (∃ set, SetFields fields set) ↔
      (∀ field ∈ fields, SetField field) ∧
        "key" ∈ fields.map (·.1) ∧ "const_name" ∈ fields.map (·.1) := by
  constructor
  · rintro ⟨set, written⟩
    exact ⟨written.field keys, List.mem_map_of_mem written.key, List.mem_map_of_mem written.constant⟩
  · rintro ⟨each, key, constant⟩
    have required {name : String} (there : name ∈ fields.map (·.1))
        (apart : name ∉ ["emit_table", "emit_slot_layout"]) : ∃ s, (name, .text s) ∈ fields := by
      obtain ⟨⟨_, value⟩, member, rfl⟩ := List.mem_map.1 there
      obtain ⟨s, rfl⟩ := (each _ member).text apart
      exact ⟨s, member⟩
    have flag (default : Bool) (name : String)
        (apart : name ∉ ["key", "const_name", "layout_fn", "index_fn"]) :
        ∃ b, Gives WritesFlag default fields name b :=
      (exists_gives_iff keys).2 fun _ there => (each _ there).flag apart
    have text (default name : String) (apart : name ∉ ["emit_table", "emit_slot_layout"]) :
        ∃ s, Gives WritesText default fields name s :=
      (exists_gives_iff keys).2 fun _ there => (each _ there).text apart
    obtain ⟨key, keyed⟩ := required key (by decide)
    obtain ⟨constant, named⟩ := required constant (by decide)
    obtain ⟨table, tabled⟩ := flag true "emit_table" (by decide)
    obtain ⟨layouts, laid⟩ := flag false "emit_slot_layout" (by decide)
    obtain ⟨layout, placed⟩ := text "crafting_recipe_inventory" "layout_fn" (by decide)
    obtain ⟨index, indexed⟩ := text "crafting_recipe_index" "index_fn" (by decide)
    refine ⟨⟨key, constant, ⟨table, layouts⟩, layout, index⟩, ?_, keyed, named, tabled, laid, placed,
      indexed⟩
    intro name there
    obtain ⟨field, member, rfl⟩ := List.mem_map.1 there
    exact (each field member).known

theorem exists_writesSetConfig_iff (distinct : value.DistinctKeys) :
    (∃ set, WritesSetConfig value set) ↔ IsSet value := by
  constructor
  · rintro ⟨set, fields, named, written⟩
    have keys := (named.distinct setConfig_regular.names distinct).1
    exact ⟨fields, named, (exists_setFields_iff keys).1 ⟨set, written⟩⟩
  · rintro ⟨fields, named, shape⟩
    have keys := (named.distinct setConfig_regular.names distinct).1
    obtain ⟨set, written⟩ := (exists_setFields_iff keys).2 shape
    exact ⟨set, fields, named, written⟩

theorem ImportFields.field {imports : Imports} (written : ImportFields fields imports)
    (keys : (fields.map (·.1)).Nodup) :
    ∀ field ∈ fields, field.1 ∈ importNames ∧ ∃ s, field.2 = .text s := by
  rintro ⟨name, value⟩ member
  have known := written.known name (List.mem_map_of_mem member)
  refine ⟨known, ?_⟩
  simp only [importNames, List.mem_cons, List.not_mem_nil, or_false] at known
  obtain rfl | rfl | rfl | rfl | rfl | rfl := known
  · exact ⟨_, written.items.of_mem keys member⟩
  · exact ⟨_, written.recipe.of_mem keys member⟩
  · exact ⟨_, written.slots.of_mem keys member⟩
  · exact ⟨_, written.ticks.of_mem keys member⟩
  · exact ⟨_, written.structureKind.of_mem keys member⟩
  · exact ⟨_, written.voxel.of_mem keys member⟩

theorem exists_importFields_iff (keys : (fields.map (·.1)).Nodup) :
    (∃ imports, ImportFields fields imports) ↔
      ∀ field ∈ fields, field.1 ∈ importNames ∧ ∃ s, field.2 = .text s := by
  constructor
  · rintro ⟨imports, written⟩
    exact written.field keys
  · intro each
    have given (default name : String) : ∃ s, Gives WritesText default fields name s :=
      (exists_gives_iff keys).2 fun _ there => (each _ there).2
    obtain ⟨items, items'⟩ := given ({} : Imports).items "items"
    obtain ⟨recipe, recipe'⟩ := given ({} : Imports).recipe "recipe"
    obtain ⟨slots, slots'⟩ := given ({} : Imports).slots "slots"
    obtain ⟨ticks, ticks'⟩ := given ({} : Imports).ticks "ticks"
    obtain ⟨structureKind, structureKind'⟩ := given ({} : Imports).structureKind "structure_kind"
    obtain ⟨voxel, voxel'⟩ := given ({} : Imports).voxel "voxel"
    refine ⟨⟨items, recipe, slots, ticks, structureKind, voxel⟩, ?_, items', recipe', slots', ticks',
      structureKind', voxel'⟩
    intro name there
    obtain ⟨field, member, rfl⟩ := List.mem_map.1 there
    exact (each field member).1

theorem exists_writesImports_iff (distinct : value.DistinctKeys) :
    (∃ imports, WritesImports value imports) ↔ AreImports value := by
  constructor
  · rintro ⟨imports, fields, named, written⟩
    have keys := (named.distinct importPaths_regular.names distinct).1
    exact ⟨fields, named, written.field keys⟩
  · rintro ⟨fields, named, shape⟩
    have keys := (named.distinct importPaths_regular.names distinct).1
    obtain ⟨imports, written⟩ := (exists_importFields_iff keys).2 shape
    exact ⟨imports, fields, named, written⟩

theorem WritesConfig.entry {config : Config} (distinct : (Value.table entries).DistinctKeys)
    (written : WritesConfig entries config) : ∀ entry ∈ entries, ConfigEntry entry := by
  obtain ⟨keys, each⟩ := distinct.entries
  rintro ⟨key, value⟩ member
  have known := written.known key (List.mem_map_of_mem member)
  simp only [configNames, List.mem_cons, List.not_mem_nil, or_false] at known
  obtain rfl | rfl | rfl | rfl := known
  · obtain ⟨k, rfl, least, most⟩ := exists_writesWord_iff.1 ⟨_, written.rate.of_mem keys member⟩
    exact .rate least most
  · obtain ⟨x, rfl⟩ | ⟨n, rfl⟩ := exists_writesTime_iff.1 ⟨_, written.tolerance.of_mem keys member⟩
    · exact .tolerance x
    · exact .wholeTolerance n
  · obtain ⟨elements, rfl, sets⟩ := written.sets.of_mem keys member
    refine .sets fun value there => ?_
    have shape := (each _ member).elements value there
    exact (exists_writesSetConfig_iff shape).1 (exists_forall₂_iff.1 ⟨_, sets⟩ value there)
  · exact .imports ((exists_writesImports_iff (each _ member)).1
      ⟨_, written.imports.of_mem keys member⟩)

theorem configEntry_iff {key : String} :
    ConfigEntry (key, value) ↔
      (key = "ticks_per_second" ∧
        ∃ k : Int64, value = .integer k ∧ 0 ≤ k.toInt ∧ k.toInt ≤ 4294967295) ∨
      (key = "time_tolerance" ∧ ((∃ x, value = .float x) ∨ ∃ n, value = .integer n)) ∨
      (key = "sets" ∧ ∃ elements, value = .array elements ∧ ∀ value ∈ elements, IsSet value) ∨
      (key = "imports" ∧ AreImports value) := by
  constructor
  · intro h
    cases h with
    | rate least most => exact .inl ⟨rfl, _, rfl, least, most⟩
    | tolerance x => exact .inr (.inl ⟨rfl, .inl ⟨x, rfl⟩⟩)
    | wholeTolerance n => exact .inr (.inl ⟨rfl, .inr ⟨n, rfl⟩⟩)
    | sets each => exact .inr (.inr (.inl ⟨rfl, _, rfl, each⟩))
    | imports shape => exact .inr (.inr (.inr ⟨rfl, shape⟩))
  · rintro (⟨rfl, k, rfl, least, most⟩ | ⟨rfl, ⟨x, rfl⟩ | ⟨n, rfl⟩⟩ | ⟨rfl, _, rfl, each⟩ |
      ⟨rfl, shape⟩)
    · exact .rate least most
    · exact .tolerance x
    · exact .wholeTolerance n
    · exact .sets each
    · exact .imports shape

theorem exists_writesConfig_iff (distinct : (Value.table entries).DistinctKeys) :
    (∃ config, WritesConfig entries config) ↔ ∀ entry ∈ entries, ConfigEntry entry := by
  obtain ⟨keys, below⟩ := distinct.entries
  refine ⟨fun ⟨config, written⟩ => written.entry distinct, fun each => ?_⟩
  have rate : ∃ n, Gives WritesWord ({} : Config).rate entries "ticks_per_second" n := by
    refine (exists_gives_iff keys).2 fun value there => exists_writesWord_iff.2 ?_
    simpa using configEntry_iff.1 (each _ there)
  have tolerance : ∃ x, Gives WritesTime ({} : Config).tolerance entries "time_tolerance" x := by
    refine (exists_gives_iff keys).2 fun value there => exists_writesTime_iff.2 ?_
    simpa using configEntry_iff.1 (each _ there)
  have sets : ∃ sets, Gives (WritesList WritesSetConfig) ({} : Config).sets entries "sets" sets := by
    refine (exists_gives_iff keys).2 fun value there => ?_
    obtain ⟨elements, rfl, shapes⟩ : ∃ elements, value = .array elements ∧
        ∀ value ∈ elements, IsSet value := by simpa using configEntry_iff.1 (each _ there)
    obtain ⟨sets, written⟩ := exists_forall₂_iff.2 fun value member =>
      (exists_writesSetConfig_iff ((below _ there).elements value member)).2 (shapes value member)
    exact ⟨sets, elements, rfl, written⟩
  have imports : ∃ imports, Gives WritesImports {} entries "imports" imports := by
    refine (exists_gives_iff keys).2 fun value there => ?_
    rw [exists_writesImports_iff (below _ there)]
    simpa using configEntry_iff.1 (each _ there)
  obtain ⟨rate, rated⟩ := rate
  obtain ⟨tolerance, tolerated⟩ := tolerance
  obtain ⟨sets, listed⟩ := sets
  obtain ⟨imports, imported⟩ := imports
  refine ⟨⟨rate, tolerance, sets, imports⟩, ?_, rated, tolerated, listed, imported⟩
  intro key there
  obtain ⟨⟨key, value⟩, member, rfl⟩ := List.mem_map.1 there
  have known := configEntry_iff.1 (each _ member)
  simp only [configNames, List.mem_cons, List.not_mem_nil, or_false]
  tauto

end Shapes

end Craftbook.Schema

namespace Craftbook.Config
open Toml Schema

variable {path text : String} {entries : List (String × Value)} {config : Config}

theorem parseTree_eq_ok_iff :
    Craftbook.parse path text Schema.config.ofEntries = .ok config ↔
      ∃ entries, Document.read? text = some entries ∧ WritesConfig entries config := by
  rw [parse_eq_ok_iff_read]
  refine exists_congr fun entries => and_congr_right fun read => ?_
  exact config_iff (Document.distinctKeys_of_read? read)

theorem parseTree_eq_error {e : LoadError}
    (h : Craftbook.parse path text Schema.config.ofEntries = .error e) :
    ∃ fault, e = .parse path fault := by
  rw [Craftbook.parse] at h
  split at h
  · cases h
    exact ⟨_, rfl⟩
  · obtain ⟨_, -, rfl⟩ := mapError_eq_error_iff.1 h
    exact ⟨_, rfl⟩

theorem parse_ok_iff_written :
    Config.parse path text = .ok config ↔
      ∃ entries, Document.read? text = some entries ∧ (Value.table entries).DistinctKeys ∧
        WritesConfig entries config ∧ config.validate = .ok () := by
  rw [parse_eq_ok_iff, parseTree_eq_ok_iff, ← validate_eq_ok_iff]
  constructor
  · rintro ⟨⟨entries, read, written⟩, valid⟩
    exact ⟨entries, read, Document.distinctKeys_of_read? read, written, valid⟩
  · rintro ⟨entries, read, -, written, valid⟩
    exact ⟨⟨entries, read, written⟩, valid⟩

/-- A fault of the settings is no fault of the document. -/
theorem past_parsing_iff :
    (∀ fault, Config.parse path text ≠ .error (.parse path fault)) ↔
      ∃ entries, Document.read? text = some entries ∧ ∀ entry ∈ entries, ConfigEntry entry := by
  have shape : (∃ config, Craftbook.parse path text Schema.config.ofEntries = .ok config) ↔
      ∃ entries, Document.read? text = some entries ∧ ∀ entry ∈ entries, ConfigEntry entry := by
    simp only [parseTree_eq_ok_iff]
    rw [exists_comm]
    refine exists_congr fun entries => ?_
    rw [exists_and_left]
    exact and_congr_right fun read => exists_writesConfig_iff (Document.distinctKeys_of_read? read)
  rw [← shape, Config.parse]
  constructor
  · intro past
    cases tree : Craftbook.parse path text Schema.config.ofEntries with
    | ok config => exact ⟨config, rfl⟩
    | error e =>
      obtain ⟨fault, rfl⟩ := parseTree_eq_error tree
      rw [tree] at past
      exact absurd rfl (past fault)
  · rintro ⟨config, tree⟩ fault failed
    rw [tree, bind_eq_error_iff] at failed
    obtain failed | ⟨_, ⟨⟩, failed⟩ := failed
    · cases failed
    · obtain invalid | ⟨_, -, failed⟩ := bind_eq_error_iff.1 failed
      · obtain ⟨_, -, other⟩ := mapError_eq_error_iff.1 invalid
        cases other
      · cases failed

/-- A configuration is read exactly from a table of known entries, each of its own shape, and it holds
what is written there: the sets in the order of the document, and for each field that is left out a
default that no other field has a part in. The tables of a text name each entry once. -/
theorem accepted_as_written (path : String) :
    (∀ entries : List (String × Value), (Value.table entries).DistinctKeys →
      ((∃ config, Schema.config.ofEntries entries = .ok config) ↔
        ∀ entry ∈ entries, ConfigEntry entry) ∧
      ∀ config, Schema.config.ofEntries entries = .ok config ↔ WritesConfig entries config) ∧
    ∀ text,
      ((∀ fault, Config.parse path text ≠ .error (.parse path fault)) ↔
        ∃ entries, Document.read? text = some entries ∧ ∀ entry ∈ entries, ConfigEntry entry) ∧
      ∀ config, Config.parse path text = .ok config ↔
        ∃ entries, Document.read? text = some entries ∧ (Value.table entries).DistinctKeys ∧
          WritesConfig entries config ∧ config.validate = .ok () := by
  refine ⟨fun entries distinct => ⟨?_, fun config => config_iff distinct⟩, fun text =>
    ⟨past_parsing_iff, fun config => parse_ok_iff_written⟩⟩
  simp only [config_iff distinct, exists_writesConfig_iff distinct]

/-- A set as an array that goes on with both switches, a set as a table, and one of the imports. -/
def assembler : String :=
  "ticks_per_second = 20\nsets = [[\"assembler\", \"ASSEMBLER_RECIPES\", true, true], " ++
    "\x7bkey = \"press\", const_name = \"PRESS_RECIPES\"\x7d]\n" ++
    "[imports]\nticks = \"crate::time::TPS\"\n"

theorem accepted_as_written_assembler :
    ∃ entries, Document.read? assembler = some entries ∧
      (∀ entry ∈ entries, ConfigEntry entry) ∧
      WritesConfig entries
        { rate := 20,
          sets := [{ key := "assembler", constant := "ASSEMBLER_RECIPES", policy := .full },
            { key := "press", constant := "PRESS_RECIPES" }],
          imports := { ticks := "crate::time::TPS" } } := by
  obtain ⟨trees, texts⟩ := accepted_as_written "codegen.toml"
  have loaded : (Config.parse "codegen.toml" assembler).toOption = some
        { rate := 20,
          sets := [{ key := "assembler", constant := "ASSEMBLER_RECIPES", policy := .full },
            { key := "press", constant := "PRESS_RECIPES" }],
          imports := { ticks := "crate::time::TPS" } } := by decide +kernel
  obtain ⟨entries, read, distinct, written, -⟩ :=
    ((texts assembler).2 _).1 (toOption_eq_some_iff.1 loaded)
  obtain ⟨accepted, holds⟩ := trees entries distinct
  exact ⟨entries, read, accepted.1 ⟨_, (holds _).2 written⟩, written⟩

/-- Nothing is asked for. -/
example : (Config.parse "codegen.toml" "").toOption = some {} := by decide +kernel

end Craftbook.Config
