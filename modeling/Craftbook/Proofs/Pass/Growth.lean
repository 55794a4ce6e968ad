import Craftbook.Proofs.Alike
import Craftbook.Proofs.Item.Authored
import Craftbook.Proofs.Pass.Outcome

/-!
Passes over a namespace that has grown. Main statement: with more names known, a pass ends as before,
unless a name that was not known ended it.
-/
namespace Craftbook

/-- Each kind that the first knows, the second knows too. -/
def Namespace.Within (small large : Namespace) : Prop :=
  ∀ kind, small.contains kind → large.contains kind

theorem Namespace.Within.resolve? {small large : Namespace} (within : small.Within large)
    {text : String} {kind : ItemKind} (known : small.resolve? text = some kind) :
    large.resolve? text = some kind := by
  rw [ItemKind.resolve?_eq_some_iff] at known ⊢
  exact ⟨known.1, known.2.1, within kind known.2.2⟩

def CompileError.IsUnknownKind (e : CompileError) : Prop :=
  ∃ recipe name, e = .unknownKind recipe name

/-- The second run ends as the first, unless an unknown name ended that one. -/
abbrev Persists (x y : Except CompileError α) : Prop := Alike CompileError.IsUnknownKind Eq x y

namespace Compiler

/-- The second differs from the first in knowing more names. -/
structure Within (c c' : Compiler) : Prop where
  names : c.names.Within c'.names
  quantizer : c'.quantizer = c.quantizer

variable {c c' : Compiler}

theorem Within.stack (within : c.Within c') (recipe item : String) (quantity : Int) :
    Persists (c.stack recipe item quantity) (c'.stack recipe item quantity) := by
  unfold Compiler.stack
  cases known : c.names.resolve? item with
  | none => exact .excused ⟨recipe, item, rfl⟩ _
  | some kind =>
    rw [within.names.resolve? known]
    exact .refl (fun _ => rfl) _

theorem Within.record (within : c.Within c') (d : Definition) :
    Persists (c.record d) (c'.record d) := by
  unfold Compiler.record
  apply (within.stack d.name d.name d.amount).bind
  intro result _
  rw [ingredients_eq_mapM, ingredients_eq_mapM, within.quantizer]
  apply Alike.bind
  · apply Alike.mapM
    rw [List.forall₂_same]
    intro r _
    exact within.stack d.name r.item r.count
  · intro ingredients _
    exact .refl (fun _ => rfl) _

theorem Within.distinctRecords (within : c.Within c') (set : String) (made : List ItemKind)
    (recipes : List Definition) :
    Persists (c.distinctRecords set made recipes).outcome
      (c'.distinctRecords set made recipes).outcome := by
  -- The records agree as far as they go, so the same kinds are made on both sides.
  induction recipes generalizing made with
  | nil => exact .ok []
  | cons d rest ih =>
    rw [distinctRecords_cons, distinctRecords_cons]
    apply (within.record d).bind
    intro record _
    split
    · exact .error rfl
    · apply (ih (record.result.kind :: made)).bind
      intro records _
      exact .ok (record :: records)

theorem Within.compileSet (within : c.Within c') (set : SetConfig) (recipes : List Definition) :
    Persists (c.compileSet set recipes).outcome (c'.compileSet set recipes).outcome := by
  rw [compileSet_outcome, compileSet_outcome]
  apply (within.distinctRecords set.key [] recipes).bind
  intro records _
  exact .refl (fun _ => rfl) _

end Compiler

namespace Pass

/-- The pass was ended by a name that is not known. -/
def EndsUnknown (e : PassError) : Prop := ∃ recipe name, e = .compile (.unknownKind recipe name)

variable {small large : Namespace}

theorem compile_persists (within : small.Within large) (book : Book) (config : Config) :
    Alike EndsUnknown Eq (compile book small config).outcome
      (compile book large config).outcome := by
  have compilers : (Compiler.ofConfig small config).Within (Compiler.ofConfig large config) :=
    ⟨within, rfl⟩
  have sets : Persists
      (config.sets.mapM fun set =>
        ((Compiler.ofConfig small config).compileSet set (recipesOf book set)).outcome)
      (config.sets.mapM fun set =>
        ((Compiler.ofConfig large config).compileSet set (recipesOf book set)).outcome) := by
    apply Alike.mapM
    rw [List.forall₂_same]
    intro set _
    exact compilers.compileSet set (recipesOf book set)
  rw [compile_outcome, compile_outcome]
  apply (Alike.refl (fun _ => rfl) _).bind
  intro _ _
  apply sets.mapError
  · rintro e ⟨recipe, name, rfl⟩
    exact ⟨recipe, name, rfl⟩
  · rintro e _ rfl
    rfl

/-- A namespace may grow: what compiled under the smaller one compiles to the same sets and the same
text under the larger one, and what failed for another reason than an unknown name fails for the same
reason. -/
theorem growth_keeps_outcome {small large : Namespace} (within : small.Within large) (book : Book)
    (config : Config) :
    (∀ sets, (compile book small config).outcome = .ok sets →
      (compile book large config).outcome = .ok sets ∧
      ∃ text, (source book small config).outcome = .ok text ∧
        (source book large config).outcome = .ok text) ∧
    ∀ e, (compile book small config).outcome = .error e → ¬ EndsUnknown e →
      (compile book large config).outcome = .error e ∧
      (source book small config).outcome = .error e ∧
      (source book large config).outcome = .error e := by
  have along := compile_persists within book config
  constructor
  · intro sets done
    rw [done] at along
    have again := along.of_ok
    refine ⟨again, (SourceFile.ofSets config.imports sets).render, ?_, ?_⟩
    · rw [source_outcome, done]
      rfl
    · rw [source_outcome, again]
      rfl
  · intro e failed known
    rw [failed] at along
    obtain ⟨_, rfl, again⟩ := along.of_error known
    refine ⟨again, ?_, ?_⟩
    · rw [source_outcome, failed]
      rfl
    · rw [source_outcome, again]
      rfl

namespace Sample

open Compiler.Sample

def glassworks : Namespace := ⟨⟨.plain, "Pane"⟩ :: metals.kinds, by decide⟩

/-- A recipe that makes nothing, before one that is not known to begin with. -/
def emptyFirst : List Definition :=
  [⟨"IronPlate", [⟨"IronOre", 1⟩], 0, 1⟩, ⟨"Pane", [], 1, 1⟩]

end Sample

open Compiler.Sample Sample in
theorem growth_keeps_outcome_glassworks :
    metals.Within glassworks ∧
    (compile (book recipes) metals settings).outcome = .ok [compiled] ∧
    (compile (book recipes) glassworks settings).outcome = .ok [compiled] ∧
    (compile (book emptyFirst) metals settings).outcome =
      .error (.compile (.invalidQuantity "IronPlate" "IronPlate" 0)) ∧
    (source (book emptyFirst) glassworks settings).outcome =
      .error (.compile (.invalidQuantity "IronPlate" "IronPlate" 0)) := by
  have within : metals.Within glassworks := by
    intro kind known
    simp only [Namespace.contains, decide_eq_true_eq] at known ⊢
    exact List.mem_cons_of_mem _ known
  have done : (compile (book recipes) metals settings).outcome = .ok [compiled] := by
    decide +kernel
  have failed : (compile (book emptyFirst) metals settings).outcome =
      .error (.compile (.invalidQuantity "IronPlate" "IronPlate" 0)) := by
    decide +kernel
  have other : ¬ EndsUnknown (.compile (.invalidQuantity "IronPlate" "IronPlate" 0)) := by
    simp [EndsUnknown]
  exact ⟨within, done, ((growth_keeps_outcome within (book recipes) settings).1 _ done).1, failed,
    ((growth_keeps_outcome within (book emptyFirst) settings).2 _ failed other).2.2⟩

end Pass

end Craftbook
