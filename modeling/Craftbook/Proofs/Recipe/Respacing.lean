import Craftbook.Proofs.Alike
import Craftbook.Proofs.Recipe.Refusal
import Craftbook.Proofs.Text.Spacing

/-!
Recipes whose names differ in the white space around them. Main statement: a set is compiled to the
same from either, or refused for the same definition with the same error but for the names in it.
-/
namespace Craftbook
open Text (Respaced)

/-- Errors that are the same but for white space around the authored names that they tell. -/
inductive CompileError.Respaced : CompileError → CompileError → Prop
  | unknownKind {recipe recipe' name name' : String} (recipes : Text.Respaced recipe recipe')
    (names : Text.Respaced name name') :
    Respaced (.unknownKind recipe name) (.unknownKind recipe' name')
  | invalidQuantity {recipe recipe' item item' : String} {quantity : Int}
    (recipes : Text.Respaced recipe recipe') (items : Text.Respaced item item') :
    Respaced (.invalidQuantity recipe item quantity) (.invalidQuantity recipe' item' quantity)
  | invalidTime {recipe recipe' : String} {seconds : Binary64}
    (recipes : Text.Respaced recipe recipe') :
    Respaced (.invalidTime recipe seconds) (.invalidTime recipe' seconds)
  | ambiguousTime {recipe recipe' : String} {seconds : Binary64} {ticks rate : UInt32}
    (recipes : Text.Respaced recipe recipe') :
    Respaced (.ambiguousTime recipe seconds ticks rate) (.ambiguousTime recipe' seconds ticks rate)
  | slotIndexOutOfRange {index count : Nat} :
    Respaced (.slotIndexOutOfRange index count) (.slotIndexOutOfRange index count)
  | duplicateRecipe {set name : String} :
    Respaced (.duplicateRecipe set name) (.duplicateRecipe set name)

structure Requirement.Respaced (r r' : Requirement) : Prop where
  item : Text.Respaced r.item r'.item
  count : r'.count = r.count

structure Definition.Respaced (d d' : Definition) : Prop where
  name : Text.Respaced d.name d'.name
  requirements : List.Forall₂ Requirement.Respaced d.requirements d'.requirements
  amount : d'.amount = d.amount
  time : d'.time = d.time

instance : DecidableRel Requirement.Respaced := fun r r' =>
  decidable_of_iff (Text.Respaced r.item r'.item ∧ r'.count = r.count)
    ⟨fun ⟨item, count⟩ => ⟨item, count⟩, fun ⟨item, count⟩ => ⟨item, count⟩⟩

instance : DecidableRel Definition.Respaced := fun d d' =>
  decidable_of_iff (Text.Respaced d.name d'.name ∧
      List.Forall₂ Requirement.Respaced d.requirements d'.requirements ∧
      d'.amount = d.amount ∧ d'.time = d.time)
    ⟨fun ⟨name, requirements, amount, time⟩ => ⟨name, requirements, amount, time⟩,
      fun ⟨name, requirements, amount, time⟩ => ⟨name, requirements, amount, time⟩⟩

theorem CompileError.Respaced.refl (e : CompileError) : e.Respaced e := by
  cases e with
  | unknownKind recipe name => exact .unknownKind (.refl recipe) (.refl name)
  | invalidQuantity recipe item quantity => exact .invalidQuantity (.refl recipe) (.refl item)
  | invalidTime recipe seconds => exact .invalidTime (.refl recipe)
  | ambiguousTime recipe seconds ticks rate => exact .ambiguousTime (.refl recipe)
  | slotIndexOutOfRange index count => exact .slotIndexOutOfRange
  | duplicateRecipe set name => exact .duplicateRecipe

theorem Requirement.Respaced.symm {r r' : Requirement} (h : r.Respaced r') : r'.Respaced r :=
  ⟨h.item.symm, h.count.symm⟩

theorem Definition.Respaced.symm {d d' : Definition} (h : d.Respaced d') : d'.Respaced d :=
  ⟨h.name.symm, (h.requirements.imp fun _ _ => Requirement.Respaced.symm).flip, h.amount.symm,
    h.time.symm⟩

theorem respaced_symm {recipes recipes' : List Definition}
    (h : List.Forall₂ Definition.Respaced recipes recipes') :
    List.Forall₂ Definition.Respaced recipes' recipes :=
  (h.imp fun _ _ => Definition.Respaced.symm).flip

/-- White space around a text is no part of the kind it names. -/
theorem Namespace.resolve?_respaced (names : Namespace) {text text' : String}
    (h : Respaced text text') : names.resolve? text = names.resolve? text' := by
  rw [Text.respaced_iff] at h
  rw [resolve?, resolve?, ItemKind.parse?, ItemKind.parse?, h]

/-- Two runs end with the same result, or with errors that are the same but for white space. -/
abbrev SameButSpacing (x y : Except CompileError α) : Prop :=
  Alike (fun _ => False) CompileError.Respaced x y

theorem Quantizer.quantize_respaced (q : Quantizer) {recipe recipe' : String}
    (h : Respaced recipe recipe') (seconds : Binary64) :
    SameButSpacing (q.quantize recipe seconds) (q.quantize recipe' seconds) := by
  unfold quantize
  split
  · exact .error (.invalidTime h)
  · split
    · exact .error (.ambiguousTime h)
    · split
      · exact .ok _
      · exact .error (.ambiguousTime h)

namespace Compiler

variable {c : Compiler}

theorem stack_respaced {recipe recipe' item item' : String} (recipes : Respaced recipe recipe')
    (items : Respaced item item') (quantity : Int) :
    SameButSpacing (c.stack recipe item quantity) (c.stack recipe' item' quantity) := by
  unfold stack
  rw [c.names.resolve?_respaced items]
  split
  · exact .error (.unknownKind recipes items)
  · split
    · exact .error (.invalidQuantity recipes items)
    · exact .ok _

theorem record_respaced {d d' : Definition} (h : d.Respaced d') :
    SameButSpacing (c.record d) (c.record d') := by
  unfold record
  rw [ingredients_eq_mapM, ingredients_eq_mapM, h.amount, h.time]
  apply (stack_respaced h.name h.name d.amount).bind
  intro result _
  apply Alike.bind
  · apply Alike.mapM
    apply h.requirements.imp
    intro r r' same
    rw [same.count]
    exact stack_respaced h.name same.item r.count
  · intro ingredients _
    apply (c.quantizer.quantize_respaced h.name d.time).bind
    intro time _
    exact .ok _

theorem RecordOf.respaced {d d' : Definition} (h : d.Respaced d') {record : Record}
    (ofRecord : c.RecordOf d record) : c.RecordOf d' record := by
  have along := record_respaced (c := c) h
  rw [record_eq_ok_iff.2 ofRecord] at along
  exact record_eq_ok_iff.1 along.of_ok

theorem recordsOf_respaced {recipes recipes' : List Definition} {records : List Record}
    (same : List.Forall₂ Definition.Respaced recipes recipes')
    (ofRecords : List.Forall₂ c.RecordOf recipes records) :
    List.Forall₂ c.RecordOf recipes' records :=
  forall₂_of_left same ofRecords fun _ _ _ h ofRecord => ofRecord.respaced h

theorem SetOf.respaced {set : SetConfig} {recipes recipes' : List Definition}
    {compiled : CompiledSet} (same : List.Forall₂ Definition.Respaced recipes recipes')
    (h : c.SetOf set recipes compiled) : c.SetOf set recipes' compiled :=
  ⟨h.config, recordsOf_respaced same h.records, h.distinct, h.layouts⟩

theorem distinctRecords_respaced {set : String} {recipes recipes' : List Definition}
    {records : List Record} (same : List.Forall₂ Definition.Respaced recipes recipes')
    (sound : (c.distinctRecords set [] recipes).outcome = .ok records) :
    (c.distinctRecords set [] recipes').outcome = .ok records := by
  rw [distinctRecords_eq_ok_iff] at sound ⊢
  exact ⟨recordsOf_respaced same sound.1, sound.2⟩

theorem RefusedAfter.respaced {set : String} {made : List ItemKind} {d d' : Definition}
    {e : CompileError} (same : d.Respaced d') (refused : c.RefusedAfter set made d e) :
    ∃ e', e.Respaced e' ∧ c.RefusedAfter set made d' e' := by
  have along := record_respaced (c := c) same
  cases refused with
  | alone fails =>
    rw [fails] at along
    obtain ⟨e', related, fails'⟩ := along.of_error id
    exact ⟨e', related, .alone fails'⟩
  | again checked repeated =>
    rw [checked] at along
    exact ⟨_, .duplicateRecipe, .again along.of_ok repeated⟩

theorem RefusedAt.respaced {set : SetConfig} {recipes recipes' : List Definition}
    (same : List.Forall₂ Definition.Respaced recipes recipes') {place : Nat} {e : CompileError}
    (blamed : c.RefusedAt set recipes place e) :
    ∃ e', e.Respaced e' ∧ c.RefusedAt set recipes' place e' := by
  cases blamed with
  | definition split sound refused =>
    rw [split] at same
    obtain ⟨before', d', after', rfl, earlier, here⟩ := exists_split_right same
    obtain ⟨e', related, refused'⟩ := refused.respaced here
    rw [earlier.length_eq]
    exact ⟨e', related, .definition rfl (distinctRecords_respaced earlier sound) refused'⟩
  | capacity laidOut sound fit refused =>
    exact ⟨e, .refl e, .capacity laidOut (distinctRecords_respaced same sound) fit refused⟩

theorem duplicate_respaced {set : SetConfig} {recipes recipes' : List Definition} {key name : String}
    (same : List.Forall₂ Definition.Respaced recipes recipes')
    (refused : (c.compileSet set recipes).outcome = .error (.duplicateRecipe key name)) :
    (c.compileSet set recipes').outcome = .error (.duplicateRecipe key name) := by
  obtain ⟨place, blamed⟩ := compileSet_eq_error_iff.1 refused
  obtain ⟨e', related, blamed'⟩ := blamed.respaced same
  cases related
  exact compileSet_eq_error_iff.2 ⟨place, blamed'⟩

/-- White space around names makes no difference to a set: definitions that differ in it alone are
compiled to the same, or refused at the same place with the same error but for the names it tells. A
kind made twice is told in the same words. -/
theorem spacing_immaterial (c : Compiler) (set : SetConfig) {recipes recipes' : List Definition}
    (same : List.Forall₂ Definition.Respaced recipes recipes') :
    (∀ compiled, (c.compileSet set recipes).outcome = .ok compiled ↔
      (c.compileSet set recipes').outcome = .ok compiled) ∧
    (∀ e, (c.compileSet set recipes).outcome = .error e → ∃ e' place,
      (c.compileSet set recipes').outcome = .error e' ∧ e.Respaced e' ∧
      (∀ i, c.RefusedAt set recipes i e ↔ i = place) ∧
      ∀ i, c.RefusedAt set recipes' i e' ↔ i = place) ∧
    ∀ key name, (c.compileSet set recipes).outcome = .error (.duplicateRecipe key name) ↔
      (c.compileSet set recipes').outcome = .error (.duplicateRecipe key name) := by
  refine ⟨?_, ?_, ?_⟩
  · intro compiled
    rw [compileSet_eq_ok_iff, compileSet_eq_ok_iff]
    exact ⟨SetOf.respaced same, SetOf.respaced (respaced_symm same)⟩
  · intro e refused
    obtain ⟨place, blamed⟩ := compileSet_eq_error_iff.1 refused
    obtain ⟨e', related, blamed'⟩ := blamed.respaced same
    refine ⟨e', place, compileSet_eq_error_iff.2 ⟨place, blamed'⟩, related, ?_, ?_⟩
    · exact fun i => ⟨fun h => h.unique blamed, fun h => h ▸ blamed⟩
    · exact fun i => ⟨fun h => h.unique blamed', fun h => h ▸ blamed'⟩
  · intro key name
    exact ⟨duplicate_respaced same, duplicate_respaced (respaced_symm same)⟩

namespace Sample

/-- The recipes with white space of several kinds around their names. -/
def padded : List Definition :=
  [ ⟨"\tIronPlate ", [⟨"\u3000IronOre", 2⟩], 1, 2⟩,
    ⟨"Structure(StructureKind::Furnace)\n", [⟨"IronPlate\u00a0", 5⟩, ⟨"IronOre", 1⟩], 1, 1⟩ ]

/-- A recipe for something that is not known. -/
def glass (name : String) : Definition := ⟨name, [⟨"IronOre", 1⟩], 1, 1⟩

end Sample

open Sample in
theorem spacing_immaterial_padded :
    List.Forall₂ Definition.Respaced recipes padded ∧
    ((ofConfig metals {}).compileSet smelting recipes).outcome = .ok compiled ∧
    ((ofConfig metals {}).compileSet smelting padded).outcome = .ok compiled ∧
    List.Forall₂ Definition.Respaced (recipes ++ [glass "Glass"]) (padded ++ [glass " Glass"]) ∧
    ((ofConfig metals {}).compileSet smelting (recipes ++ [glass "Glass"])).outcome =
      .error (.unknownKind "Glass" "Glass") ∧
    ∃ e' place, CompileError.Respaced (.unknownKind "Glass" "Glass") e' ∧
      (ofConfig metals {}).RefusedAt smelting (padded ++ [glass " Glass"]) place e' := by
  have same : List.Forall₂ Definition.Respaced recipes padded := by decide +kernel
  have done : ((ofConfig metals {}).compileSet smelting recipes).outcome = .ok compiled := by
    decide +kernel
  have same' : List.Forall₂ Definition.Respaced (recipes ++ [glass "Glass"])
      (padded ++ [glass " Glass"]) := by decide +kernel
  have refused : ((ofConfig metals {}).compileSet smelting (recipes ++ [glass "Glass"])).outcome =
      .error (.unknownKind "Glass" "Glass") := by decide +kernel
  have kept := (spacing_immaterial (ofConfig metals {}) smelting same).1 compiled
  obtain ⟨e', place, -, related, -, blamed⟩ :=
    (spacing_immaterial (ofConfig metals {}) smelting same').2.1 _ refused
  exact ⟨same, done, kept.1 done, same', refused, e', place, related, (blamed place).2 rfl⟩

end Compiler

end Craftbook
