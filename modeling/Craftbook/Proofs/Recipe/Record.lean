import Craftbook.Proofs.Check
import Craftbook.Proofs.Item.Path
import Craftbook.Recipe.Record

/-!
Checked recipes. Main statements: what the record of a definition holds, and that a definition is
refused for the first of its faults: its name, its amount, each requirement's item and count, and
then its time.
-/
namespace Craftbook

/-- The greatest amount a word holds. -/
def amountLimit : Nat := 4294967295

theorem word_toNat {n : Nat} (fits : n ≤ amountLimit) : (UInt32.ofNat n).toNat = n :=
  UInt32.toNat_ofNat_of_lt (Nat.lt_succ_of_le fits)

theorem amountOfQuantity?_eq_some_iff {quantity : Int} {amount : UInt32} :
    amountOfQuantity? quantity = some amount ↔ 0 < quantity ∧ (amount.toNat : Int) = quantity := by
  have small := amount.toNat_lt
  unfold amountOfQuantity?
  simp only [UInt32.size]
  split
  · rename_i fits
    have exact : (UInt32.ofNat quantity.toNat).toNat = quantity.toNat := by
      rw [UInt32.toNat_ofNat']
      omega
    rw [Option.some_inj, ← UInt32.toNat_inj, exact]
    omega
  · refine ⟨?_, ?_⟩
    · intro h
      cases h
    · omega

theorem amountOfQuantity?_eq_none_iff {quantity : Int} :
    amountOfQuantity? quantity = none ↔ ¬(1 ≤ quantity ∧ quantity ≤ amountLimit) := by
  unfold amountOfQuantity? amountLimit
  simp only [UInt32.size]
  split <;> simp <;> omega

namespace CraftTime

theorem nearest?_eq_none_iff {seconds : Binary64} :
    nearest? seconds = none ↔ ¬(seconds.isFinite ∧ 0 < seconds) := by
  unfold nearest?
  split <;> simp [*]

theorem exists_nearest?_iff {seconds : Binary64} :
    (∃ time, nearest? seconds = some time) ↔ seconds.isFinite ∧ 0 < seconds := by
  rw [← Option.isSome_iff_exists, Option.isSome_iff_ne_none, ne_eq, nearest?_eq_none_iff, not_not]

end CraftTime

namespace Quantizer

/-- What is wrong with a duration: it is not positive and finite, or its nearest form is not a
positive tick count within the tolerance. -/
def faults (q : Quantizer) (recipe : String) (seconds : Binary64) : List CompileError :=
  let nearest := (CraftTime.nearest? seconds).bind (·.ticks? q.rate)
  if seconds.isFinite ∧ 0 < seconds then
    if nearest.any fun ticks => 0 < ticks && q.meets ticks seconds then []
    else [.ambiguousTime recipe seconds (nearest.getD (.ofNat amountLimit)) q.rate]
  else [.invalidTime recipe seconds]

theorem quantize_stopsAtFirst (q : Quantizer) (recipe : String) (seconds : Binary64) :
    StopsAtFirst (q.faults recipe seconds) (q.quantize recipe seconds) := by
  unfold faults quantize
  cases form : CraftTime.nearest? seconds with
  | none =>
    rw [if_neg (CraftTime.nearest?_eq_none_iff.1 form)]
    exact StopsAtFirst.error _ []
  | some time =>
    have valid : seconds.isFinite ∧ 0 < seconds := by
      by_contra invalid
      rw [CraftTime.nearest?_eq_none_iff.2 invalid] at form
      cases form
    rw [if_pos valid]
    simp only [Option.bind_some]
    cases time.ticks? q.rate with
    | none => exact StopsAtFirst.error _ []
    | some ticks =>
      simp only [Option.any_some, Option.getD_some]
      split
      · exact StopsAtFirst.ok _
      · exact StopsAtFirst.error _ []

theorem quantize_eq_ok_iff {q : Quantizer} {recipe : String} {seconds : Binary64}
    {time : CraftTime} {ticks : UInt32} :
    q.quantize recipe seconds = .ok (time, ticks) ↔
      CraftTime.nearest? seconds = some time ∧ time.ticks? q.rate = some ticks ∧
        0 < ticks.toNat ∧ q.meets ticks seconds := by
  unfold quantize
  refine ⟨?_, ?_⟩
  · intro h
    split at h
    · cases h
    · rename_i form nearest
      split at h
      · cases h
      · rename_i counted
        split at h
        · rename_i accepted
          cases h
          rw [Bool.and_eq_true, decide_eq_true_eq, UInt32.lt_iff_toNat_lt] at accepted
          exact ⟨nearest, counted, accepted⟩
        · cases h
  · intro ⟨nearest, counted, positive, close⟩
    have accepted : (decide (0 < ticks) && q.meets ticks seconds) = true := by
      rw [Bool.and_eq_true, decide_eq_true_eq, UInt32.lt_iff_toNat_lt]
      exact ⟨positive, close⟩
    rw [nearest]
    simp only [counted, accepted, if_true]

end Quantizer

namespace Compiler

/-- A stack is what an authored item and quantity say. -/
structure StackOf (c : Compiler) (item : String) (quantity : Int) (stack : ItemStack) : Prop where
  kind : c.names.resolve? item = some stack.kind
  amount : (stack.amount.toNat : Int) = quantity
  positive : 0 < quantity

/-- A record is what a definition says: the result and, in order, the ingredients with their exact
amounts, and the duration in ticks. -/
structure RecordOf (c : Compiler) (d : Definition) (record : Record) : Prop where
  result : c.StackOf d.name d.amount record.result
  ingredients : List.Forall₂ (fun r stack => c.StackOf r.item r.count stack)
    d.requirements record.ingredients
  time : c.quantizer.quantize d.name d.time = .ok (record.time, record.ticks)

theorem stack_eq_ok_iff {c : Compiler} {recipe item : String} {quantity : Int}
    {stack : ItemStack} :
    c.stack recipe item quantity = .ok stack ↔ c.StackOf item quantity stack := by
  obtain ⟨kind, amount⟩ := stack
  unfold Compiler.stack
  refine ⟨?_, ?_⟩
  · intro h
    split at h
    · cases h
    · rename_i found known
      split at h
      · cases h
      · rename_i counted inRange
        cases h
        have ⟨positive, exact⟩ := amountOfQuantity?_eq_some_iff.1 inRange
        exact ⟨known, exact, positive⟩
  · rintro ⟨known, exact, positive⟩
    rw [known, amountOfQuantity?_eq_some_iff.2 ⟨positive, exact⟩]

theorem ingredients_eq_mapM (c : Compiler) (recipe : String) (requirements : List Requirement) :
    c.ingredients recipe requirements = requirements.mapM fun r => c.stack recipe r.item r.count := by
  induction requirements with
  | nil => rfl
  | cons r rest ih => rw [ingredients, List.mapM_cons, ih]

theorem record_eq_ok_iff {c : Compiler} {d : Definition} {record : Record} :
    c.record d = .ok record ↔ c.RecordOf d record := by
  simp only [Compiler.record, ingredients_eq_mapM, bind_eq_ok_iff, mapM_eq_ok_iff, stack_eq_ok_iff]
  refine ⟨?_, ?_⟩
  · rintro ⟨result, ofResult, ingredients, ofIngredients, ⟨time, ticks⟩, ofTime, made⟩
    cases made
    exact ⟨ofResult, ofIngredients, ofTime⟩
  · rintro ⟨ofResult, ofIngredients, ofTime⟩
    exact ⟨_, ofResult, _, ofIngredients, _, ofTime, rfl⟩

theorem RecordOf.unique {c : Compiler} {d : Definition} {record record' : Record}
    (h : c.RecordOf d record) (h' : c.RecordOf d record') : record = record' :=
  Except.ok.inj ((record_eq_ok_iff.2 h).symm.trans (record_eq_ok_iff.2 h'))

theorem RecordOf.named {c : Compiler} {d : Definition} {record : Record}
    (h : c.RecordOf d record) :
    record.result.kind.Named ∧ ∀ stack ∈ record.ingredients, stack.kind.Named := by
  refine ⟨ItemKind.resolve?_named h.result.kind, ?_⟩
  intro stack member
  obtain ⟨r, -, ofStack⟩ := exists_of_mem_right h.ingredients member
  exact ItemKind.resolve?_named ofStack.kind

/-- What is wrong with an authored item and quantity, the item first. -/
def stackFaults (c : Compiler) (recipe item : String) (quantity : Int) : List CompileError :=
  (if c.names.resolve? item = none then [.unknownKind recipe item] else []) ++
    if 1 ≤ quantity ∧ quantity ≤ amountLimit then [] else [.invalidQuantity recipe item quantity]

/-- What is wrong with a definition by itself, in the order of its fields. -/
def definitionFaults (c : Compiler) (d : Definition) : List CompileError :=
  c.stackFaults d.name d.name d.amount ++
    (d.requirements.flatMap fun r => c.stackFaults d.name r.item r.count) ++
    c.quantizer.faults d.name d.time

theorem stack_stopsAtFirst (c : Compiler) (recipe item : String) (quantity : Int) :
    StopsAtFirst (c.stackFaults recipe item quantity) (c.stack recipe item quantity) := by
  unfold stackFaults Compiler.stack
  cases c.names.resolve? item with
  | none => exact StopsAtFirst.error _ _
  | some kind =>
    simp only [reduceCtorEq, if_false, List.nil_append]
    cases inRange : amountOfQuantity? quantity with
    | none =>
      rw [if_neg (amountOfQuantity?_eq_none_iff.1 inRange)]
      exact StopsAtFirst.error _ []
    | some amount =>
      have valid : 1 ≤ quantity ∧ quantity ≤ amountLimit := by
        by_contra invalid
        rw [amountOfQuantity?_eq_none_iff.2 invalid] at inRange
        cases inRange
      rw [if_pos valid]
      exact StopsAtFirst.ok _

theorem record_stopsAtFirst (c : Compiler) (d : Definition) :
    StopsAtFirst (c.definitionFaults d) (c.record d) := by
  unfold definitionFaults Compiler.record
  rw [List.append_assoc]
  refine (c.stack_stopsAtFirst d.name d.name d.amount).bind fun result _ => ?_
  rw [ingredients_eq_mapM]
  refine (StopsAtFirst.mapM fun r _ => ?_).bind fun ingredients _ => ?_
  · exact c.stack_stopsAtFirst d.name r.item r.count
  · exact (c.quantizer.quantize_stopsAtFirst d.name d.time).bind_ok

theorem normalize_outcome (c : Compiler) (d : Definition) :
    (c.normalize d).outcome = c.record d := by
  unfold normalize
  simp only [Traced.outcome_bind, Traced.outcome_ofExcept, Traced.outcome_report,
    Traced.outcome_pure]
  cases c.record d <;> rfl

end Compiler

end Craftbook
