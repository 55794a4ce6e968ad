import Craftbook.Proofs.Pass.Outcome
import Craftbook.Proofs.Recipe.Duplicates

/-!
The kinds that a pass compiles. Main statement: each has a well-formed name that the namespace knows
under its tag, and a set is refused for making a kind twice exactly if two of its names are the same
text, white space aside.
-/
namespace Craftbook

def Record.kinds (record : Record) : List ItemKind :=
  record.result.kind :: record.ingredients.map (·.kind)

def SlotRole.filter? : SlotRole → Option ItemKind
  | .input filter => some filter
  | .output => none

def SlotLayout.filters (layout : SlotLayout) : List ItemKind :=
  layout.slots.filterMap (·.role.filter?)

namespace CompiledSet

def filters (set : CompiledSet) : List ItemKind :=
  set.layouts.toList.flatMap fun table => table.layouts.flatMap SlotLayout.filters

/-- All kinds that a set mentions: results, ingredients and what its slots are for. -/
def kinds (set : CompiledSet) : List ItemKind := set.records.flatMap Record.kinds ++ set.filters

end CompiledSet

theorem SlotLayout.Fits.filters_eq {layout : SlotLayout} {requirements : List ItemStack}
    {result : ItemStack} (fits : layout.Fits requirements result) :
    layout.filters = requirements.map (·.kind) := by
  obtain ⟨inputs, output, slots, filled, holds⟩ := fits
  have last : [output].filterMap (·.role.filter?) = [] := by
    rw [List.filterMap_cons, holds.role]
    rfl
  rw [filters, slots, List.filterMap_append, last, List.append_nil]
  clear slots
  induction filled with
  | nil => rfl
  | cons first _ ih =>
    rw [List.filterMap_cons, first.role, List.map_cons, ← ih]
    rfl

namespace Compiler

theorem StackOf.known {c : Compiler} {item : String} {quantity : Int} {stack : ItemStack}
    (h : c.StackOf item quantity stack) : stack.kind.Named ∧ c.names.contains stack.kind :=
  have ⟨named, _, known⟩ := ItemKind.resolve?_eq_some_iff.1 h.kind
  ⟨named, known⟩

theorem RecordOf.known {c : Compiler} {d : Definition} {record : Record} (h : c.RecordOf d record) :
    ∀ kind ∈ record.kinds, kind.Named ∧ c.names.contains kind := by
  intro kind member
  rcases List.mem_cons.1 member with rfl | member
  · exact h.result.known
  · obtain ⟨stack, there, rfl⟩ := List.mem_map.1 member
    obtain ⟨r, -, ofStack⟩ := exists_of_mem_right h.ingredients there
    exact ofStack.known

/-- Slots are for ingredients. -/
theorem SetOf.filters_subset {c : Compiler} {set : SetConfig} {recipes : List Definition}
    {compiled : CompiledSet} (h : c.SetOf set recipes compiled) :
    compiled.filters ⊆ compiled.records.flatMap Record.kinds := by
  intro kind member
  obtain ⟨table, present, inTable⟩ := List.mem_flatMap.1 member
  obtain ⟨layout, there, filter⟩ := List.mem_flatMap.1 inTable
  obtain ⟨entry, inEntries, rfl⟩ := List.mem_map.1 there
  have layouts := h.layouts
  rw [Option.mem_toList] at present
  rw [LayoutsOf, present] at layouts
  split at layouts
  · obtain ⟨_, same, filled⟩ := layouts
    cases same
    obtain ⟨record, recorded, ofEntry⟩ := exists_of_mem_right filled inEntries
    rw [ofEntry.2.filters_eq] at filter
    exact List.mem_flatMap.2 ⟨record, recorded, List.mem_cons_of_mem _ filter⟩
  · cases layouts

theorem SetOf.known {c : Compiler} {set : SetConfig} {recipes : List Definition}
    {compiled : CompiledSet} (h : c.SetOf set recipes compiled) :
    ∀ kind ∈ compiled.kinds, kind.Named ∧ c.names.contains kind := by
  intro kind member
  have inRecords : kind ∈ compiled.records.flatMap Record.kinds :=
    (List.mem_append.1 member).elim id fun filter => h.filters_subset filter
  obtain ⟨record, there, kindOf⟩ := List.mem_flatMap.1 inRecords
  obtain ⟨d, -, ofRecord⟩ := h.recordOf record there
  exact ofRecord.known kind kindOf

end Compiler

namespace Pass

theorem compile_known {book : Book} {names : Namespace} {config : Config} {sets : List CompiledSet}
    (done : (compile book names config).outcome = .ok sets) :
    ∀ kind ∈ sets.flatMap CompiledSet.kinds, kind.Named ∧ names.contains kind := by
  intro kind member
  obtain ⟨set, there, mentioned⟩ := List.mem_flatMap.1 member
  obtain ⟨configured, -, ofSet⟩ := exists_of_mem_right (compile_eq_ok_iff.1 done).2 there
  exact ofSet.known kind mentioned

theorem compile_duplicate_iff {book : Book} {names : Namespace} {config : Config}
    {key name : String} :
    (compile book names config).outcome = .error (.compile (.duplicateRecipe key name)) ↔
      config.validate = .ok () ∧ ∃ before set after, config.sets = before ++ set :: after ∧
        (∀ s ∈ before, (Compiler.ofConfig names config).Accepts s (recipesOf book s)) ∧
        set.key = key ∧ (Compiler.ofConfig names config).RepeatsName (recipesOf book set) name := by
  have settings : .compile (.duplicateRecipe key name) ∉
      (settingsFaults config).map PassError.config := by
    simp
  have inSets : ((config.sets.flatMap fun set =>
      (Compiler.ofConfig names config).setFaults set (recipesOf book set)).map
        PassError.compile).head? = some (.compile (.duplicateRecipe key name)) ↔
      ∃ before set after, config.sets = before ++ set :: after ∧
        (∀ s ∈ before, (Compiler.ofConfig names config).Accepts s (recipesOf book s)) ∧
        set.key = key ∧
          (Compiler.ofConfig names config).RepeatsName (recipesOf book set) name := by
    simp only [List.head?_map, Option.map_eq_some_iff, PassError.compile.injEq, exists_eq_right,
      List.head?_flatMap, List.findSome?_eq_some_iff, List.head?_eq_none_iff,
      Compiler.setFaults_eq_nil_iff, Compiler.setFaults_duplicate_iff, eq_comm (a := key)]
    tauto
  rw [compile_stopsAtFirst book names config, faults, List.head?_append, Option.or_eq_some_iff,
    inSets, List.head?_eq_none_iff, List.map_eq_nil_iff, settingsFaults_eq_nil_iff]
  refine ⟨?_, Or.inr⟩
  rintro (own | late)
  · exact absurd (List.mem_of_head? own) settings
  · exact late

theorem compile_distinct {book : Book} {names : Namespace} {config : Config}
    {sets : List CompiledSet} (done : (compile book names config).outcome = .ok sets) :
    ∀ set ∈ config.sets, ((recipesOf book set).map (·.bareName)).Nodup := by
  have sound := (compile_stopsAtFirst book names config).faults_eq_nil_iff.2 ⟨sets, done⟩
  intro set member
  have accepted := (faults_eq_nil_iff.1 sound).2 set member
  exact (Compiler.nodup_bareNames_iff fun d there => (accepted.each d there).known.1).2
    accepted.distinct

/-- Every kind that a pass mentions has a well-formed name that is known under its tag, and its path
tells it from the others. Two recipes of a set are refused as the same exactly if, with nothing wrong
before, their names are the same text, white space around them aside. -/
theorem kinds_known (book : Book) (names : Namespace) (config : Config) :
    (∀ sets, (compile book names config).outcome = .ok sets →
      (∀ kind ∈ sets.flatMap CompiledSet.kinds,
        Text.Word Text.IsLetter kind.name ∧ names.contains kind) ∧
      (∀ a ∈ sets.flatMap CompiledSet.kinds, ∀ b ∈ sets.flatMap CompiledSet.kinds,
        a.path = b.path ↔ a = b) ∧
      ∀ set ∈ config.sets, ((recipesOf book set).map (·.bareName)).Nodup) ∧
    ∀ key name,
      (compile book names config).outcome = .error (.compile (.duplicateRecipe key name)) ↔
        config.validate = .ok () ∧ ∃ before set after, config.sets = before ++ set :: after ∧
          (∀ s ∈ before, (Compiler.ofConfig names config).Accepts s (recipesOf book s)) ∧
          set.key = key ∧
            (Compiler.ofConfig names config).RepeatsName (recipesOf book set) name := by
  refine ⟨fun sets done => ⟨?_, ?_, compile_distinct done⟩, fun _ _ => compile_duplicate_iff⟩
  · intro kind member
    obtain ⟨named, known⟩ := compile_known done kind member
    exact ⟨ItemKind.named_iff_word.1 named, known⟩
  · intro a ha b hb
    exact ItemKind.path_inj (compile_known done a ha).1 (compile_known done b hb).1

namespace Sample

open Compiler.Sample

/-- A namespace with a name that nothing can resolve to. -/
def scrap : Namespace := ⟨⟨.plain, "scrap metal"⟩ :: metals.kinds, by decide⟩

def platesAgain : List Definition := recipes ++ [⟨"\tIronPlate\u00a0", [], 3, 1⟩]

end Sample

open Compiler.Sample Sample in
theorem kinds_known_scrap :
    (compile (book recipes) scrap settings).outcome = .ok [compiled] ∧
    (∀ kind ∈ [compiled].flatMap CompiledSet.kinds,
      Text.Word Text.IsLetter kind.name ∧ scrap.contains kind) ∧
    (compile (book platesAgain) scrap settings).outcome =
      .error (.compile (.duplicateRecipe "smelting" "IronPlate")) ∧
    ∃ before set after, settings.sets = before ++ set :: after ∧
      (Compiler.ofConfig scrap settings).RepeatsName (recipesOf (book platesAgain) set)
        "IronPlate" := by
  have done : (compile (book recipes) scrap settings).outcome = .ok [compiled] := by
    decide +kernel
  have refused : (compile (book platesAgain) scrap settings).outcome =
      .error (.compile (.duplicateRecipe "smelting" "IronPlate")) := by
    decide +kernel
  obtain ⟨-, before, set, after, whole, -, -, again⟩ :=
    ((kinds_known (book platesAgain) scrap settings).2 "smelting" "IronPlate").1 refused
  exact ⟨done, ((kinds_known (book recipes) scrap settings).1 _ done).1, refused,
    before, set, after, whole, again⟩

end Pass

end Craftbook
