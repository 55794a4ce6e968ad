import Craftbook.Proofs.Recipe.CompiledSet

/-!
Which definitions make up a set. Main statement: a set without faults is one whose names are known,
whose quantities are in range, whose durations are met and whose results differ.
-/
namespace Craftbook.Compiler

/-- A quantity is positive and small enough, for a slot too if there are layouts. -/
def InRange (set : SetConfig) (quantity : Int) : Prop :=
  1 ≤ quantity ∧ quantity ≤ if set.policy.layouts then slotLimit else amountLimit

/-- A definition that a set can hold: its names are known, its quantities in range and its duration
met by a tick count. -/
structure Admits (c : Compiler) (set : SetConfig) (d : Definition) : Prop where
  known : (c.names.resolve? d.name).isSome ∧
    ∀ r ∈ d.requirements, (c.names.resolve? r.item).isSome
  inRange : InRange set d.amount ∧ ∀ r ∈ d.requirements, InRange set r.count
  timed : ∃ form, c.quantizer.quantize d.name d.time = .ok form

/-- Definitions that make up a set: each can be held and no two make the same kind. -/
structure Accepts (c : Compiler) (set : SetConfig) (recipes : List Definition) : Prop where
  each : ∀ d ∈ recipes, c.Admits set d
  distinct : recipes.Pairwise fun d e => c.names.resolve? d.name ≠ c.names.resolve? e.name

theorem stackFaults_eq_nil_iff {c : Compiler} {recipe item : String} {quantity : Int} :
    c.stackFaults recipe item quantity = [] ↔
      (c.names.resolve? item).isSome ∧ 1 ≤ quantity ∧ quantity ≤ amountLimit := by
  unfold stackFaults
  rw [List.append_eq_nil_iff]
  cases c.names.resolve? item <;> simp

theorem definitionFaults_eq_nil_iff {c : Compiler} {d : Definition} :
    c.definitionFaults d = [] ↔
      ((c.names.resolve? d.name).isSome ∧ 1 ≤ d.amount ∧ d.amount ≤ amountLimit) ∧
      (∀ r ∈ d.requirements,
        (c.names.resolve? r.item).isSome ∧ 1 ≤ r.count ∧ r.count ≤ amountLimit) ∧
      ∃ form, c.quantizer.quantize d.name d.time = .ok form := by
  unfold definitionFaults
  rw [List.append_eq_nil_iff, List.append_eq_nil_iff, List.flatMap_eq_nil_iff,
    (c.quantizer.quantize_stopsAtFirst d.name d.time).faults_eq_nil_iff, and_assoc]
  simp only [stackFaults_eq_nil_iff]

theorem duplicateFaults_eq_nil_iff {c : Compiler} {set : String} {earlier : List Definition}
    {d : Definition} (known : (c.names.resolve? d.name).isSome) :
    c.duplicateFaults set earlier d = [] ↔
      ∀ e ∈ earlier, c.names.resolve? d.name ≠ c.names.resolve? e.name := by
  obtain ⟨kind, resolved⟩ := Option.isSome_iff_exists.1 known
  unfold duplicateFaults
  rw [resolved]
  simp only [List.mem_filterMap, ite_eq_right_iff, reduceCtorEq, imp_false, not_exists, not_and]
  exact forall₂_congr fun e _ => not_congr eq_comm

theorem recipeFaults_eq_nil_iff {c : Compiler} {set : String} {earlier recipes : List Definition} :
    c.recipeFaults set earlier recipes = [] ↔
      (∀ d ∈ recipes, c.definitionFaults d = []) ∧
      (∀ d ∈ recipes, ∀ e ∈ earlier, c.names.resolve? d.name ≠ c.names.resolve? e.name) ∧
      recipes.Pairwise fun d e => c.names.resolve? d.name ≠ c.names.resolve? e.name := by
  induction recipes generalizing earlier with
  | nil => simp [recipeFaults]
  | cons d rest ih =>
    rw [recipeFaults, List.append_eq_nil_iff, List.append_eq_nil_iff, ih, List.pairwise_cons]
    simp only [List.forall_mem_cons]
    refine ⟨?_, ?_⟩
    · rintro ⟨⟨sound, new⟩, rest, others, distinct⟩
      have known := (definitionFaults_eq_nil_iff.1 sound).1.1
      refine ⟨⟨sound, rest⟩, ⟨(duplicateFaults_eq_nil_iff known).1 new, ?_⟩, ?_, distinct⟩
      · exact fun e member => (others e member).2
      · exact fun e member => ((others e member).1).symm
    · rintro ⟨⟨sound, rest⟩, ⟨new, others⟩, apart, distinct⟩
      have known := (definitionFaults_eq_nil_iff.1 sound).1.1
      refine ⟨⟨sound, (duplicateFaults_eq_nil_iff known).2 new⟩, rest, ?_, distinct⟩
      exact fun e member => ⟨(apart e member).symm, others e member⟩

theorem slotFaults_eq_nil_iff {c : Compiler} {recipe item : String} {quantity : Int}
    (made : (c.names.resolve? recipe).isSome) (known : (c.names.resolve? item).isSome) :
    c.slotFaults recipe item quantity = [] ↔ quantity ≤ slotLimit := by
  obtain ⟨result, made⟩ := Option.isSome_iff_exists.1 made
  obtain ⟨kind, known⟩ := Option.isSome_iff_exists.1 known
  unfold slotFaults
  rw [made, known]
  simp

theorem capacityFaults_eq_nil_iff {c : Compiler} {d : Definition}
    (made : (c.names.resolve? d.name).isSome)
    (known : ∀ r ∈ d.requirements, (c.names.resolve? r.item).isSome) :
    c.capacityFaults d = [] ↔
      (∀ r ∈ d.requirements, r.count ≤ slotLimit) ∧ d.amount ≤ slotLimit := by
  unfold capacityFaults
  rw [List.append_eq_nil_iff, List.flatMap_eq_nil_iff, slotFaults_eq_nil_iff made made]
  refine and_congr_left fun _ => forall₂_congr fun r member => ?_
  exact slotFaults_eq_nil_iff made (known r member)

theorem inRange_iff {set : SetConfig} {quantity : Int} :
    InRange set quantity ↔
      (1 ≤ quantity ∧ quantity ≤ amountLimit) ∧
        (set.policy.layouts → quantity ≤ slotLimit) := by
  have smaller : slotLimit ≤ amountLimit := by decide
  unfold InRange
  cases set.policy.layouts with
  | true =>
    simp only [if_true, forall_const]
    omega
  | false => simp

theorem admits_iff {c : Compiler} {set : SetConfig} {d : Definition} :
    c.Admits set d ↔
      c.definitionFaults d = [] ∧ (set.policy.layouts → c.capacityFaults d = []) := by
  rw [definitionFaults_eq_nil_iff]
  refine ⟨?_, ?_⟩
  · rintro ⟨⟨made, known⟩, ⟨amount, counts⟩, timed⟩
    refine ⟨⟨⟨made, (inRange_iff.1 amount).1⟩, ?_, timed⟩, ?_⟩
    · exact fun r member => ⟨known r member, (inRange_iff.1 (counts r member)).1⟩
    · intro layouts
      rw [capacityFaults_eq_nil_iff made known]
      exact ⟨fun r member => (inRange_iff.1 (counts r member)).2 layouts,
        (inRange_iff.1 amount).2 layouts⟩
  · rintro ⟨⟨⟨made, amount⟩, requirements, timed⟩, roomy⟩
    have known := fun r member => (requirements r member).1
    rw [capacityFaults_eq_nil_iff made known] at roomy
    refine ⟨⟨made, known⟩, ⟨inRange_iff.2 ⟨amount, fun layouts => (roomy layouts).2⟩, ?_⟩, timed⟩
    intro r member
    exact inRange_iff.2 ⟨(requirements r member).2, fun layouts => (roomy layouts).1 r member⟩

theorem setFaults_eq_nil_iff {c : Compiler} {set : SetConfig} {recipes : List Definition} :
    c.setFaults set recipes = [] ↔ c.Accepts set recipes := by
  unfold setFaults
  rw [List.append_eq_nil_iff, recipeFaults_eq_nil_iff]
  refine ⟨?_, ?_⟩
  · rintro ⟨⟨sound, -, distinct⟩, roomy⟩
    refine ⟨fun d member => admits_iff.2 ⟨sound d member, ?_⟩, distinct⟩
    intro layouts
    rw [if_pos layouts, List.flatMap_eq_nil_iff] at roomy
    exact roomy d member
  · rintro ⟨each, distinct⟩
    refine ⟨⟨fun d member => (admits_iff.1 (each d member)).1, by simp, distinct⟩, ?_⟩
    split
    · rename_i layouts
      rw [List.flatMap_eq_nil_iff]
      exact fun d member => (admits_iff.1 (each d member)).2 layouts
    · rfl

theorem compiles_iff {c : Compiler} {set : SetConfig} {recipes : List Definition} :
    (∃ compiled, (c.compileSet set recipes).outcome = .ok compiled) ↔ c.Accepts set recipes := by
  rw [← setFaults_eq_nil_iff]
  exact (c.compileSet_stopsAtFirst set recipes).faults_eq_nil_iff.symm

end Craftbook.Compiler
