import Craftbook.Pass
import Craftbook.Proofs.Recipe.Acceptance

/-!
The outcome of a pass. Main statements: a pass succeeds exactly on a sound configuration and sets
that can be held, with what it then returns, and otherwise ends with the first of all its faults.
-/
namespace Craftbook.Pass

/-- The definitions of a configured set; a set that the book does not have is empty. -/
def recipesOf (book : Book) (set : SetConfig) : List Definition := (book.get? set.key).getD []

theorem reportUnconfigured_outcome (keys : List String) :
    (reportUnconfigured keys : Traced ε Unit).outcome = .ok () := by
  induction keys with
  | nil => rfl
  | cons key rest ih =>
    rw [reportUnconfigured, Traced.outcome_bind, ih]
    rfl

theorem compileSets_outcome (c : Compiler) (book : Book) (sets : List SetConfig) :
    (compileSets c book sets).outcome =
      sets.mapM fun set => (c.compileSet set (recipesOf book set)).outcome := by
  induction sets with
  | nil => rfl
  | cons set rest ih =>
    rw [List.mapM_cons, ← ih]
    simp only [compileSets, Traced.outcome_bind, Traced.outcome_reportIf, Traced.outcome_pure]
    rfl

theorem compile_outcome (book : Book) (names : Namespace) (config : Config) :
    (compile book names config).outcome =
      config.validate.mapError .config >>= fun _ =>
        (config.sets.mapM fun set =>
          ((Compiler.ofConfig names config).compileSet set (recipesOf book set)).outcome).mapError
            .compile := by
  simp only [compile, Traced.outcome_bind, Traced.outcome_mapError, Traced.outcome_ofExcept,
    reportUnconfigured_outcome, compileSets_outcome]
  rfl

theorem compile_eq_ok_iff {book : Book} {names : Namespace} {config : Config}
    {sets : List CompiledSet} :
    (compile book names config).outcome = .ok sets ↔
      config.validate = .ok () ∧
        List.Forall₂ (fun set => (Compiler.ofConfig names config).SetOf set (recipesOf book set))
          config.sets sets := by
  rw [compile_outcome, bind_eq_ok_iff]
  simp only [mapError_eq_ok_iff, mapM_eq_ok_iff, Compiler.compileSet_eq_ok_iff]
  exact ⟨fun ⟨_, valid, filled⟩ => ⟨valid, filled⟩, fun ⟨valid, filled⟩ => ⟨(), valid, filled⟩⟩

theorem source_outcome (book : Book) (names : Namespace) (config : Config) :
    (source book names config).outcome =
      (compile book names config).outcome >>= fun sets =>
        .ok (SourceFile.ofSets config.imports sets).render := by
  rw [source, Traced.outcome_bind]
  rfl

theorem source_eq_ok_iff {book : Book} {names : Namespace} {config : Config} {text : String} :
    (source book names config).outcome = .ok text ↔
      ∃ sets, (compile book names config).outcome = .ok sets ∧
        (SourceFile.ofSets config.imports sets).render = text := by
  rw [source_outcome, bind_eq_ok_iff]
  simp only [Except.ok.injEq]

/-- What is wrong with the settings: the fault that they are refused for. -/
def settingsFaults (config : Config) : List ConfigFault :=
  match config.validate with
  | .ok _ => []
  | .error fault => [fault]

/-- Everything that is wrong with a pass, in the order in which it counts: the settings, then set
by set what is wrong with its recipes. -/
def faults (book : Book) (names : Namespace) (config : Config) : List PassError :=
  (settingsFaults config).map .config ++
    (config.sets.flatMap fun set =>
      (Compiler.ofConfig names config).setFaults set (recipesOf book set)).map .compile

theorem validate_stopsAtFirst (config : Config) :
    StopsAtFirst (settingsFaults config) config.validate := by
  unfold settingsFaults
  cases config.validate with
  | ok _ => exact StopsAtFirst.ok _
  | error fault => exact StopsAtFirst.error fault []

theorem compile_stopsAtFirst (book : Book) (names : Namespace) (config : Config) :
    StopsAtFirst (faults book names config) (compile book names config).outcome := by
  rw [compile_outcome, faults]
  refine ((validate_stopsAtFirst config).mapError PassError.config).bind fun _ _ => ?_
  refine StopsAtFirst.mapError (StopsAtFirst.mapM fun set _ => ?_) PassError.compile
  exact (Compiler.ofConfig names config).compileSet_stopsAtFirst set (recipesOf book set)

theorem settingsFaults_eq_nil_iff {config : Config} :
    settingsFaults config = [] ↔ config.validate = .ok () := by
  rw [(validate_stopsAtFirst config).faults_eq_nil_iff]
  exact ⟨fun ⟨_, valid⟩ => valid, fun valid => ⟨(), valid⟩⟩

theorem faults_eq_nil_iff {book : Book} {names : Namespace} {config : Config} :
    faults book names config = [] ↔
      config.validate = .ok () ∧ ∀ set ∈ config.sets,
        (Compiler.ofConfig names config).Accepts set (recipesOf book set) := by
  unfold faults
  rw [List.append_eq_nil_iff, List.map_eq_nil_iff, List.map_eq_nil_iff, List.flatMap_eq_nil_iff,
    settingsFaults_eq_nil_iff]
  simp only [Compiler.setFaults_eq_nil_iff]

/-- A pass succeeds exactly if the settings are valid and every configured set is made of
definitions that can be held; then there is one compiled set for each configured one, in order. -/
theorem compile_succeeds_iff (book : Book) (names : Namespace) (config : Config) :
    ((∃ sets, (compile book names config).outcome = .ok sets) ↔
      config.validate = .ok () ∧ ∀ set ∈ config.sets,
        (Compiler.ofConfig names config).Accepts set (recipesOf book set)) ∧
    ∀ sets, (compile book names config).outcome = .ok sets →
      List.Forall₂ (fun set => (Compiler.ofConfig names config).SetOf set (recipesOf book set))
        config.sets sets := by
  refine ⟨?_, ?_⟩
  · rw [← faults_eq_nil_iff]
    exact (compile_stopsAtFirst book names config).faults_eq_nil_iff.symm
  · intro sets done
    exact (compile_eq_ok_iff.1 done).2

namespace Sample

open Compiler.Sample

def settings : Config := { sets := [smelting] }

def book (recipes : List Definition) : Book := ⟨[("smelting", recipes)], by simp⟩

end Sample

open Compiler.Sample Sample in
theorem compile_succeeds_smelting :
    (compile (book recipes) metals settings).outcome = .ok [compiled] ∧
    List.Forall₂
      (fun set => (Compiler.ofConfig metals settings).SetOf set (recipesOf (book recipes) set))
      settings.sets [compiled] := by
  have done : (compile (book recipes) metals settings).outcome = .ok [compiled] := by
    decide +kernel
  exact ⟨done, (compile_succeeds_iff (book recipes) metals settings).2 [compiled] done⟩

/-- A pass fails exactly if something is wrong, and then with the first thing that is. -/
theorem compile_fails_with_first_fault (book : Book) (names : Namespace) (config : Config)
    (e : PassError) :
    (compile book names config).outcome = .error e ↔
      (faults book names config).head? = some e :=
  compile_stopsAtFirst book names config e

end Craftbook.Pass
