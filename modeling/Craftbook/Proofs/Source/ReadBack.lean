import Craftbook.Proofs.Config.Validation
import Craftbook.Proofs.Pass.Outcome
import Craftbook.Proofs.Source.Reading

/-!
Reading a generated source back. Main statement: under one configuration, two passes that write the
same text have compiled the same, as far as their policies have it written.
-/
namespace Craftbook

open Text

namespace Imports

def paths (imports : Imports) : List String :=
  [imports.items, imports.recipe, imports.slots, imports.ticks, imports.structureKind,
    imports.voxel]

/-- Paths that are each on one line. -/
def OneLine (imports : Imports) : Prop := ∀ path ∈ imports.paths, '\n' ∉ path.toList

instance (imports : Imports) : Decidable imports.OneLine :=
  inferInstanceAs (Decidable (∀ path ∈ imports.paths, _))

end Imports

namespace Declaration

/-- Declarations as they are written, each after a blank line. -/
def textOfAll (constant : String) (declarations : List Declaration) : List Char :=
  declarations.flatMap fun declaration => '\n' :: textOf (declaration.lines constant)

theorem textOfAll_ends (constant : String) (declarations : List Declaration) :
    Ends (· = 'u') (textOfAll constant declarations) := by
  cases declarations with
  | nil => simp [Ends, textOfAll]
  | cons declaration rest => exact ends_cons rfl

theorem ofSet_table {set : CompiledSet} (table : set.config.policy.table) :
    ∃ lookups, ofSet set = tableOf set :: lookups := by
  rw [ofSet, if_pos table]
  exact ⟨_, rfl⟩

theorem textOf_tableOf (constant : String) (set : CompiledSet) :
    textOf ((tableOf set).lines constant) =
      textOf [s!"pub const {set.config.constant}: &[Recipe] = &["] ++
        (((set.records.map TableEntry.ofRecord).flatMap fun entry =>
          textOf (entry.lines constant)) ++ "];\n".toList) := by
  rw [tableOf, lines, textOf_append, textOf_append, textOf_flatMap, List.append_assoc]
  rfl

end Declaration

namespace SourceFile

theorem importsFor_subset (imports : Imports) (sets : List CompiledSet) :
    importsFor imports sets ⊆ imports.paths := by
  intro path member
  unfold importsFor at member
  simp only [List.mem_append, List.mem_ite_nil_right, List.mem_cons, List.not_mem_nil, or_false]
    at member
  unfold Imports.paths
  simp only [List.mem_cons, List.not_mem_nil, or_false]
  tauto

theorem textOf_lines (file : SourceFile) :
    textOf file.lines =
      textOf header ++ (textOf (file.imports.map fun path => s!"use {path};") ++
        Declaration.textOfAll file.ticksConstant file.declarations) := by
  rw [lines, textOf_append, textOf_append, textOf_flatMap, List.append_assoc]
  rfl

/-- The declarations can be told from the imports before them. -/
theorem declarations_of_render {imports : Imports} {as bs : List CompiledSet}
    (oneLine : imports.OneLine) (h : (ofSets imports as).render = (ofSets imports bs).render) :
    Declaration.textOfAll imports.ticksConstant (as.flatMap Declaration.ofSet) =
      Declaration.textOfAll imports.ticksConstant (bs.flatMap Declaration.ofSet) := by
  have valid : ∀ sets, ∀ line ∈ (importsFor imports sets).map fun path => s!"use {path};",
      line.toList.head? = some 'u' ∧ '\n' ∉ line.toList := by
    intro sets line member
    obtain ⟨path, there, rfl⟩ := List.mem_map.1 member
    have whole := oneLine path (importsFor_subset imports sets there)
    simp only [String.toList_append, List.mem_append, not_or]
    exact ⟨rfl, ⟨by decide, whole⟩, by decide⟩
  have texts := congrArg String.toList h
  simp only [render_toList, textOf_lines, List.append_right_inj] at texts
  exact (lines_cancel 'u' (valid as) (valid bs) (Declaration.textOfAll_ends _ _)
    (Declaration.textOfAll_ends _ _) texts).2

end SourceFile

namespace TableEntry

/-- The record that an entry was made of, at a tick rate. -/
def record? (rate : UInt32) (entry : TableEntry) : Option Record :=
  (entry.time.ticks? rate).map fun ticks => ⟨entry.requirements, entry.result, entry.time, ticks⟩

theorem record?_ofRecord {rate : UInt32} {record : Record}
    (counted : record.time.ticks? rate = some record.ticks) :
    (ofRecord record).record? rate = some record := by
  rw [record?, ofRecord, counted]
  rfl

theorem map_ofRecord_inj {rate : UInt32} {as bs : List Record}
    (ha : ∀ record ∈ as, record.time.ticks? rate = some record.ticks)
    (hb : ∀ record ∈ bs, record.time.ticks? rate = some record.ticks)
    (h : as.map ofRecord = bs.map ofRecord) : as = bs := by
  have back : ∀ {records : List Record},
      (∀ record ∈ records, record.time.ticks? rate = some record.ticks) →
        (records.map ofRecord).map (record? rate) = records.map some := by
    intro records counted
    rw [List.map_map]
    exact List.map_congr_left fun record member => record?_ofRecord (counted record member)
  have same := congrArg (List.map (record? rate)) h
  rw [back ha, back hb] at same
  exact List.map_injective_iff.2 (fun _ _ => Option.some.inj) same

end TableEntry

namespace CompiledSet

def text (constant : String) (set : CompiledSet) : List Char :=
  Declaration.textOfAll constant (Declaration.ofSet set)

/-- Two compiled sets that agree on what their policy has written. -/
structure SameWritten (a b : CompiledSet) : Prop where
  config : a.config = b.config
  records : a.config.policy.table → a.records = b.records
  layouts : a.config.policy.layouts → a.layouts = b.layouts

theorem textOfAll_flatMap (constant : String) (sets : List CompiledSet) :
    Declaration.textOfAll constant (sets.flatMap Declaration.ofSet) = sets.flatMap (text constant) :=
  List.flatMap_assoc

end CompiledSet

open CompiledSet Compiler

theorem Compiler.SetOf.named {c : Compiler} {set : SetConfig} {recipes : List Definition}
    {compiled : CompiledSet} (h : c.SetOf set recipes compiled) :
    ∀ entry ∈ compiled.records.map TableEntry.ofRecord, entry.Named := by
  intro entry member
  obtain ⟨record, there, rfl⟩ := List.mem_map.1 member
  obtain ⟨d, -, ofRecord⟩ := h.recordOf record there
  exact ofRecord.named.symm

theorem Compiler.SetOf.counted {c : Compiler} {set : SetConfig} {recipes : List Definition}
    {compiled : CompiledSet} (h : c.SetOf set recipes compiled) :
    ∀ record ∈ compiled.records, record.time.ticks? c.quantizer.rate = some record.ticks := by
  intro record member
  obtain ⟨d, -, ofRecord⟩ := h.recordOf record member
  exact (Quantizer.quantize_eq_ok_iff.1 ofRecord.time).2.1

theorem Compiler.SetOf.text_eq_nil {c : Compiler} {set : SetConfig} {recipes : List Definition}
    {compiled : CompiledSet} (h : c.SetOf set recipes compiled)
    (tabled : set.policy.layouts → set.policy.table) (bare : ¬set.policy.table) (constant : String) :
    compiled.text constant = [] := by
  have none : compiled.layouts = none := by
    have layouts := h.layouts
    rwa [LayoutsOf, if_neg fun layouts => bare (tabled layouts)] at layouts
  rw [text, Declaration.ofSet, none, h.config, if_neg bare]
  rfl

theorem records_agree {c c' : Compiler} {set : SetConfig} {recipes recipes' : List Definition}
    {a b : CompiledSet} {constant : String} {r s : List Char}
    (rate : c.quantizer.rate = c'.quantizer.rate) (table : set.policy.table)
    (ha : c.SetOf set recipes a) (hb : c'.SetOf set recipes' b)
    (h : a.text constant ++ r = b.text constant ++ s) : a.records = b.records := by
  have bracket : ∀ s, Ends (· = ' ') ("];\n".toList ++ s) := fun _ => ends_cons rfl
  have tablea : a.config.policy.table := by rwa [ha.config]
  have tableb : b.config.policy.table := by rwa [hb.config]
  obtain ⟨lookups, wa⟩ := Declaration.ofSet_table tablea
  obtain ⟨lookups', wb⟩ := Declaration.ofSet_table tableb
  simp only [text, Declaration.textOfAll, wa, wb, List.flatMap_cons, Declaration.textOf_tableOf,
    ha.config, hb.config, List.cons_append, List.append_assoc, List.cons.injEq, true_and,
    List.append_right_inj] at h
  have entries := (entries_cancel constant ha.named hb.named (bracket _) (bracket _) h).1
  have counted := hb.counted
  rw [← rate] at counted
  exact TableEntry.map_ofRecord_inj ha.counted counted entries

theorem text_cancels {c c' : Compiler} {set : SetConfig} {recipes recipes' : List Definition}
    {a b : CompiledSet} {constant : String} {r s : List Char}
    (rate : c.quantizer.rate = c'.quantizer.rate)
    (tabled : set.policy.layouts → set.policy.table) (ha : c.SetOf set recipes a)
    (hb : c'.SetOf set recipes' b) (h : a.text constant ++ r = b.text constant ++ s) :
    SameWritten a b ∧ r = s := by
  by_cases table : set.policy.table
  · -- Equal records make equal sets, so the lookups are the same and need no reading.
    have same : a = b := ha.eq_of_records hb (records_agree rate table ha hb h)
    subst same
    exact ⟨⟨rfl, fun _ => rfl, fun _ => rfl⟩, List.append_cancel_left h⟩
  · rw [ha.text_eq_nil tabled table, hb.text_eq_nil tabled table] at h
    refine ⟨⟨ha.config.trans hb.config.symm, ?_, ?_⟩, h⟩
    · rw [ha.config]
      exact fun table' => absurd table' table
    · rw [ha.config]
      exact fun layouts => absurd (tabled layouts) table

theorem texts_agree {c c' : Compiler} {recipes recipes' : SetConfig → List Definition}
    {configured : List SetConfig} {as bs : List CompiledSet} {constant : String}
    (rate : c.quantizer.rate = c'.quantizer.rate)
    (tabled : ∀ set ∈ configured, set.policy.layouts → set.policy.table)
    (ha : List.Forall₂ (fun set => c.SetOf set (recipes set)) configured as)
    (hb : List.Forall₂ (fun set => c'.SetOf set (recipes' set)) configured bs)
    (h : as.flatMap (text constant) = bs.flatMap (text constant)) :
    List.Forall₂ SameWritten as bs := by
  induction ha generalizing bs with
  | nil =>
    cases hb
    exact .nil
  | cons firsta resta ih =>
    cases hb with
    | cons firstb restb =>
      rw [List.forall_mem_cons] at tabled
      obtain ⟨same, later⟩ := text_cancels rate tabled.1 firsta firstb h
      exact .cons same (ih tabled.2 restb later)

namespace Pass

/-- Passes that write the same text under one configuration have compiled the same, set by set, as
far as it is written. -/
theorem source_determines_sets {book book' : Book} {names names' : Namespace} {config : Config}
    {text : String} (oneLine : config.imports.OneLine)
    (written : (source book names config).outcome = .ok text)
    (written' : (source book' names' config).outcome = .ok text) :
    ∃ sets sets', (compile book names config).outcome = .ok sets ∧
      (compile book' names' config).outcome = .ok sets' ∧
      sets.map (·.config) = config.sets ∧ List.Forall₂ SameWritten sets sets' := by
  obtain ⟨sets, done, rendered⟩ := source_eq_ok_iff.1 written
  obtain ⟨sets', done', rendered'⟩ := source_eq_ok_iff.1 written'
  obtain ⟨valid, compiled⟩ := compile_eq_ok_iff.1 done
  obtain ⟨-, compiled'⟩ := compile_eq_ok_iff.1 done'
  have rate : (ofConfig names config).quantizer.rate = (ofConfig names' config).quantizer.rate := rfl
  have texts := SourceFile.declarations_of_render oneLine (rendered.trans rendered'.symm)
  simp only [textOfAll_flatMap] at texts
  exact ⟨sets, sets', done, done', SetOf.configs_eq compiled,
    texts_agree rate (Config.validate_table valid) compiled compiled' texts⟩

namespace Sample

open Compiler.Sample

def spaced : List Definition := recipes.map fun d => { d with name := s!" {d.name} " }

def text : String := (SourceFile.ofSets settings.imports [compiled]).render

end Sample

open Compiler.Sample Sample in
theorem source_determines_sets_spaced :
    (source (book recipes) metals settings).outcome = .ok text ∧
    (source (book spaced) metals settings).outcome = .ok text ∧
    ∃ sets sets', (compile (book recipes) metals settings).outcome = .ok sets ∧
      (compile (book spaced) metals settings).outcome = .ok sets' ∧
      sets.map (·.config) = settings.sets ∧ List.Forall₂ SameWritten sets sets' := by
  have oneLine : settings.imports.OneLine := by decide +kernel
  have bare : (compile (book recipes) metals settings).outcome = .ok [compiled] := by
    decide +kernel
  have padded : (compile (book spaced) metals settings).outcome = .ok [compiled] := by
    decide +kernel
  have written := source_eq_ok_iff.2 ⟨_, bare, rfl⟩
  have written' := source_eq_ok_iff.2 ⟨_, padded, rfl⟩
  exact ⟨written, written', source_determines_sets oneLine written written'⟩

end Pass

end Craftbook
