import Craftbook.Proofs.Keyed
import Craftbook.Proofs.Pass.Independence
import Craftbook.Proofs.Pass.Kinds
import Craftbook.Proofs.Recipe.Refusal

/-!
What a pass reports. Main statement: sets that are not configured, then set by set up to the first
that fails whether it is missing, which recipes were normalized and what was compiled.
-/
namespace Craftbook

/-- The part of a list that is gone through: all of a sound list, or else what is there up to the
first element with which it is not sound. -/
inductive UpToFirst (sound : List α → Prop) (whole : List α) : List α → Prop
  | all (passes : sound whole) : UpToFirst sound whole whole
  | stop {before after : List α} {x : α} (split : whole = before ++ x :: after)
    (passes : sound before) (fails : ¬ sound (before ++ [x])) : UpToFirst sound whole (before ++ [x])

namespace UpToFirst

variable {sound sound' : List α → Prop} {whole part more : List α} {x : α}

theorem first (empty : sound []) (fails : ¬ sound [x]) : UpToFirst sound (x :: more) [x] :=
  show UpToFirst sound ([] ++ x :: more) ([] ++ [x]) from .stop rfl empty fails

theorem cons (later : UpToFirst sound' more part) (same : ∀ xs, sound (x :: xs) ↔ sound' xs) :
    UpToFirst sound (x :: more) (x :: part) := by
  cases later with
  | all passes => exact .all ((same _).2 passes)
  | @stop before after y split passes fails =>
    rw [← List.cons_append]
    refine .stop (congrArg (x :: ·) split) ((same before).2 passes) ?_
    exact fun passes => fails ((same _).1 passes)

theorem congr (h : UpToFirst sound whole part) (same : ∀ xs, sound xs ↔ sound' xs) :
    UpToFirst sound' whole part := by
  have eq : sound = sound' := funext fun xs => propext (same xs)
  exact eq ▸ h

theorem eq_whole (h : UpToFirst sound whole part) (passes : sound whole)
    (initial : ∀ xs ys, sound (xs ++ ys) → sound xs) : part = whole := by
  cases h with
  | all => rfl
  | @stop before after y split _ fails =>
    rw [split, List.append_cons] at passes
    exact absurd (initial _ _ passes) fails

end UpToFirst

namespace Compiler

/-- What is reported of a definition that can be normalized; of another nothing is. -/
def normalized? (c : Compiler) (d : Definition) : Option Event :=
  (c.record d).toOption.map fun record =>
    .recipeNormalized d.name record.ingredients.length record.result.kind record.result.amount
      record.ticks

/-- What is reported of a set that was compiled: how many records it has, and how many layouts if it
has any. -/
def compiledEvent (set : SetConfig) (compiled : CompiledSet) : Event :=
  .setCompiled set.key compiled.records.length (compiled.layouts.map SlotTable.size)

/-- Definitions that can be normalized one by one, no two of them to the same kind. -/
structure Normal (c : Compiler) (recipes : List Definition) : Prop where
  each : ∀ d ∈ recipes, ∃ record, c.RecordOf d record
  distinct : recipes.Pairwise fun d e => c.names.resolve? d.name ≠ c.names.resolve? e.name

/-- What is reported of a set: that its recipes were normalized, up to the first that is refused, and
that the set was compiled, if it was. -/
inductive SetLog (c : Compiler) (set : SetConfig) (recipes : List Definition) : List Event → Prop
  | compiled {compiled : CompiledSet} (done : c.SetOf set recipes compiled) :
    SetLog c set recipes (recipes.filterMap c.normalized? ++ [compiledEvent set compiled])
  | refused {part : List Definition} (fails : ¬ c.Accepts set recipes)
    (upTo : UpToFirst c.Normal recipes part) : SetLog c set recipes (part.filterMap c.normalized?)

theorem Normal.initial {c : Compiler} (xs ys : List Definition) (h : c.Normal (xs ++ ys)) :
    c.Normal xs :=
  ⟨fun d member => h.each d (List.mem_append_left _ member), (List.pairwise_append.1 h.distinct).1⟩

theorem exists_distinctRecords_iff {c : Compiler} {set : String} {recipes : List Definition} :
    (∃ records, (c.distinctRecords set [] recipes).outcome = .ok records) ↔ c.Normal recipes := by
  have faults := (c.distinctRecords_stopsAtFirst set [] recipes).faults_eq_nil_iff
  rw [List.filterMap_nil] at faults
  rw [← faults, recipeFaults_eq_nil_iff]
  simp only [definitionFaults_eq_nil_iff_record]
  exact ⟨fun ⟨each, _, distinct⟩ => ⟨each, distinct⟩, fun h => ⟨h.each, by simp, h.distinct⟩⟩

theorem normalize_events (c : Compiler) (d : Definition) :
    (c.normalize d).events = (c.normalized? d).toList := by
  unfold normalize normalized?
  cases c.record d <;> rfl

/-- The kinds made grow along the list, so the statement is for any of them. -/
theorem distinctRecords_events (c : Compiler) (set : String) (made : List ItemKind)
    (recipes : List Definition) :
    ∃ part, UpToFirst (fun part => ∃ records, (c.distinctRecords set made part).outcome = .ok records)
        recipes part ∧
      (c.distinctRecords set made recipes).events = part.filterMap c.normalized? := by
  induction recipes generalizing made with
  | nil => exact ⟨[], .all ⟨[], rfl⟩, rfl⟩
  | cons d rest ih =>
    have line : (c.normalize d).events = [d].filterMap c.normalized? := by
      rw [normalize_events]
      cases found : c.normalized? d <;> simp [found]
    cases checked : c.record d with
    | error e =>
      have fails : (c.normalize d).outcome = .error e := by rw [normalize_outcome, checked]
      refine ⟨[d], .first ⟨[], rfl⟩ ?_, ?_⟩
      · rintro ⟨records, done⟩
        rw [distinctRecords_cons, checked] at done
        cases done
      · rw [distinctRecords, Traced.events_bind_error fails, line]
    | ok record =>
      have passes : (c.normalize d).outcome = .ok record := by rw [normalize_outcome, checked]
      by_cases repeated : record.result.kind ∈ made
      · refine ⟨[d], .first ⟨[], rfl⟩ ?_, ?_⟩
        · rintro ⟨records, done⟩
          obtain ⟨_, _, same, new, -⟩ := distinctRecords_cons_eq_ok_iff.1 done
          cases checked.symm.trans same
          exact new repeated
        · rw [distinctRecords, Traced.events_bind_ok passes, if_pos repeated, line]
          exact List.append_nil _
      · obtain ⟨part, upTo, events⟩ := ih (record.result.kind :: made)
        refine ⟨d :: part, upTo.cons fun xs => ?_, ?_⟩
        · simp [distinctRecords_cons_eq_ok_iff, checked, repeated]
        · rw [distinctRecords, Traced.events_bind_ok passes, if_neg repeated, line,
            Traced.events_bind_pure, events, ← List.filterMap_append]
          rfl

theorem compileSet_events (c : Compiler) (set : SetConfig) (recipes : List Definition) :
    (c.compileSet set recipes).events = (c.distinctRecords set.key [] recipes).events ++
      ((c.compileSet set recipes).outcome.toOption.map (compiledEvent set)).toList := by
  cases outcome : (c.distinctRecords set.key [] recipes).outcome with
  | error e =>
    rw [compileSet_outcome, outcome, compileSet, Traced.events_bind_error outcome]
    exact (List.append_nil _).symm
  | ok records =>
    have made : (c.compileSet set recipes).outcome =
        layoutsFor set records >>= fun layouts => .ok ⟨set, records, layouts⟩ := by
      rw [compileSet_outcome, outcome]
      rfl
    rw [made, compileSet, Traced.events_bind_ok outcome]
    congr 1
    cases layoutsFor set records <;> rfl

theorem compileSet_log (c : Compiler) (set : SetConfig) (recipes : List Definition) :
    c.SetLog set recipes (c.compileSet set recipes).events := by
  obtain ⟨part, upTo, events⟩ := c.distinctRecords_events set.key [] recipes
  have gone := upTo.congr fun _ => exists_distinctRecords_iff
  rw [compileSet_events, events]
  cases outcome : (c.compileSet set recipes).outcome with
  | error e =>
    have refused : ¬ c.Accepts set recipes := by
      rw [← compiles_iff, outcome]
      nofun
    rw [Except.toOption, Option.map_none, Option.toList_none, List.append_nil]
    exact .refused refused gone
  | ok compiled =>
    have normal : c.Normal recipes := by
      rw [compileSet_outcome, bind_eq_ok_iff] at outcome
      obtain ⟨records, done, -⟩ := outcome
      exact exists_distinctRecords_iff.1 ⟨records, done⟩
    rw [gone.eq_whole normal Normal.initial]
    exact .compiled (compileSet_eq_ok_iff.1 outcome)

end Compiler

namespace Pass

/-- What is reported of a configured set: that the book does not have it, if so, and then what its
compilation reports. -/
def Reports (c : Compiler) (book : Book) (set : SetConfig) (events : List Event) : Prop :=
  ∃ log, c.SetLog set (recipesOf book set) log ∧
    events = (if set.key ∈ book.keys then [] else [.setMissing set.key]) ++ log

theorem isNone_get? (book : Book) (key : String) :
    (book.get? key).isNone = decide (key ∉ book.keys) := by
  rw [Bool.eq_iff_iff, Option.isNone_iff_eq_none, decide_eq_true_iff]
  exact lookup_eq_none_iff_keys

/-- One step of a pass: a configured set, reported if it is missing and then compiled. -/
def compileConfigured (c : Compiler) (book : Book) (set : SetConfig) :
    Traced CompileError CompiledSet := do
  Traced.reportIf (book.get? set.key).isNone (.setMissing set.key)
  c.compileSet set (recipesOf book set)

theorem compileSets_cons (c : Compiler) (book : Book) (set : SetConfig) (rest : List SetConfig) :
    compileSets c book (set :: rest) = do
      let first ← compileConfigured c book set
      let others ← compileSets c book rest
      return first :: others := by
  rw [compileSets, compileConfigured, bind_assoc]
  rfl

theorem compileConfigured_outcome (c : Compiler) (book : Book) (set : SetConfig) :
    (compileConfigured c book set).outcome = (c.compileSet set (recipesOf book set)).outcome := rfl

theorem compileConfigured_reports (c : Compiler) (book : Book) (set : SetConfig) :
    Reports c book set (compileConfigured c book set).events := by
  refine ⟨_, c.compileSet_log set (recipesOf book set), ?_⟩
  rw [compileConfigured, Traced.reportIf, Traced.ok_bind, isNone_get?]
  by_cases there : set.key ∈ book.keys <;> simp [there]

/-- Sets are compiled one after the other, so what is reported ends with the first that fails. -/
theorem compileSets_events (c : Compiler) (book : Book) (sets : List SetConfig) :
    ∃ part logs, UpToFirst (fun sets => ∀ set ∈ sets, c.Accepts set (recipesOf book set)) sets part ∧
      List.Forall₂ (Reports c book) part logs ∧ (compileSets c book sets).events = logs.flatten := by
  induction sets with
  | nil => exact ⟨[], [], .all (by simp), .nil, rfl⟩
  | cons set rest ih =>
    have reports := compileConfigured_reports c book set
    rw [compileSets_cons]
    cases outcome : (compileConfigured c book set).outcome with
    | error e =>
      refine ⟨[set], [_], .first (by simp) ?_, .cons reports .nil, ?_⟩
      · rw [List.forall_mem_singleton, ← Compiler.compiles_iff, ← compileConfigured_outcome, outcome]
        nofun
      · rw [Traced.events_bind_error outcome, List.flatten_singleton]
    | ok compiled =>
      have accepted : c.Accepts set (recipesOf book set) := Compiler.compiles_iff.1 ⟨compiled, outcome⟩
      obtain ⟨part, logs, upTo, along, events⟩ := ih
      refine ⟨set :: part, _ :: logs, upTo.cons fun xs => ?_, .cons reports along, ?_⟩
      · rw [List.forall_mem_cons, and_iff_right accepted]
      · rw [Traced.events_bind_ok outcome, Traced.events_bind_pure, events, List.flatten_cons]

theorem reportUnconfigured_events (keys : List String) :
    (reportUnconfigured keys : Traced ε Unit).events = keys.map .setNotConfigured := by
  induction keys with
  | nil => rfl
  | cons key rest ih =>
    rw [reportUnconfigured, Traced.report, Traced.ok_bind, ih]
    rfl

theorem unconfigured_eq (config : Config) (book : Book) :
    unconfigured config book = book.keys.filter fun key => key ∉ config.sets.map (·.key) := by
  apply List.filter_congr
  intro key _
  rw [Bool.eq_iff_iff]
  simp

/-- Nothing is reported of settings that are refused. Else it is said first which sets of the book are
not configured, and then of each configured set, up to the first that fails, whether it is missing,
which of its recipes were normalized up to the first that is refused, and what was compiled. -/
theorem progress_reported (book : Book) (names : Namespace) (config : Config) :
    (∀ fault, config.validate = .error fault → (compile book names config).events = []) ∧
    (config.validate = .ok () → ∃ part logs,
      UpToFirst
          (fun sets => ∀ set ∈ sets,
            (Compiler.ofConfig names config).Accepts set (recipesOf book set))
          config.sets part ∧
        List.Forall₂ (Reports (Compiler.ofConfig names config) book) part logs ∧
        (compile book names config).events =
          (book.keys.filter fun key => key ∉ config.sets.map (·.key)).map .setNotConfigured ++
            logs.flatten) := by
  refine ⟨fun fault invalid => ?_, fun valid => ?_⟩
  · rw [compile, invalid]
    rfl
  · obtain ⟨part, logs, upTo, along, events⟩ :=
      compileSets_events (.ofConfig names config) book config.sets
    have checked : ((Traced.ofExcept (.ok ())).mapError PassError.config).outcome = .ok () := rfl
    refine ⟨part, logs, upTo, along, ?_⟩
    rw [compile, valid, Traced.events_bind_ok checked,
      Traced.events_bind_ok (reportUnconfigured_outcome _), reportUnconfigured_events,
      unconfigured_eq, ← events]
    rfl

namespace Sample

open Compiler.Sample

/-- Plates are made twice under the first key, the second is missing, and no set has the third. -/
def untidy : Book := ⟨[("scrap", recipes), ("smelting", platesAgain)], by simp⟩

end Sample

open Compiler.Sample Sample in
theorem progress_reported_untidy :
    stations.validate = .ok () ∧
    (compile untidy metals stations).events = [
      .setNotConfigured "scrap",
      .recipeNormalized "IronPlate" 1 plate 1 120,
      .recipeNormalized "Structure(StructureKind::Furnace)" 2 furnace 1 60,
      .recipeNormalized "\tIronPlate\u00a0" 0 plate 3 60 ] ∧
    ∃ part logs,
      UpToFirst
          (fun sets => ∀ set ∈ sets,
            (Compiler.ofConfig metals stations).Accepts set (recipesOf untidy set))
          stations.sets part ∧
        List.Forall₂ (Reports (Compiler.ofConfig metals stations) untidy) part logs ∧
        (compile untidy metals stations).events =
          (untidy.keys.filter fun key => key ∉ stations.sets.map (·.key)).map .setNotConfigured ++
            logs.flatten := by
  have valid : stations.validate = .ok () := by decide +kernel
  exact ⟨valid, by decide +kernel, (progress_reported untidy metals stations).2 valid⟩

end Pass

end Craftbook
