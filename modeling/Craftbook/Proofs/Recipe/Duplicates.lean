import Craftbook.Proofs.Item.Authored
import Craftbook.Proofs.Recipe.Acceptance

/-!
Sets that make a kind twice. Main statement: a set is refused for that exactly if two of its names are
the same text, white space around them aside, and nothing before is wrong.
-/
namespace Craftbook

/-- The name of a recipe without the white space around it. -/
def Definition.bareName (d : Definition) : List Char := Text.trim d.name.toList

namespace Compiler

/-- Definitions that can each be compiled by itself, up to the first whose name, white space aside,
is that of an earlier one. -/
def RepeatsName (c : Compiler) (recipes : List Definition) (name : String) : Prop :=
  ∃ earlier d later, recipes = earlier ++ d :: later ∧
    (∀ e ∈ d :: earlier, ∃ record, c.RecordOf e record) ∧
    (earlier.map (·.bareName)).Nodup ∧ d.bareName ∈ earlier.map (·.bareName) ∧
    name.toList = d.bareName

theorem definitionFaults_eq_nil_iff_record {c : Compiler} {d : Definition} :
    c.definitionFaults d = [] ↔ ∃ record, c.RecordOf d record := by
  rw [(c.record_stopsAtFirst d).faults_eq_nil_iff]
  simp only [record_eq_ok_iff]

theorem duplicate_not_mem_stackFaults {c : Compiler} {recipe item : String} {quantity : Int}
    {key name : String} : .duplicateRecipe key name ∉ c.stackFaults recipe item quantity := by
  unfold stackFaults
  split <;> split <;> simp

theorem duplicate_not_mem_definitionFaults {c : Compiler} {d : Definition} {key name : String} :
    .duplicateRecipe key name ∉ c.definitionFaults d := by
  unfold definitionFaults
  simp only [List.mem_append, List.mem_flatMap, not_or, not_exists, not_and]
  refine ⟨⟨duplicate_not_mem_stackFaults, fun r _ => duplicate_not_mem_stackFaults⟩, ?_⟩
  unfold Quantizer.faults
  dsimp only
  split <;> try split
  all_goals simp

theorem duplicate_not_mem_capacityFaults {c : Compiler} {d : Definition} {key name : String} :
    .duplicateRecipe key name ∉ c.capacityFaults d := by
  have slot : ∀ item quantity, .duplicateRecipe key name ∉ c.slotFaults d.name item quantity := by
    intro item quantity
    unfold slotFaults
    split <;> try split
    all_goals simp
  unfold capacityFaults
  simp only [List.mem_append, List.mem_flatMap, not_or, not_exists, not_and]
  exact ⟨fun r _ => slot r.item r.count, slot d.name d.amount⟩

theorem duplicateFaults_eq_cons_iff {c : Compiler} {set : String} {earlier : List Definition}
    {d : Definition} {e : CompileError} {more : List CompileError} :
    c.duplicateFaults set earlier d = e :: more ↔
      more = [] ∧ ∃ kind, c.names.resolve? d.name = some kind ∧
        kind ∈ earlier.filterMap (c.names.resolve? ·.name) ∧
        e = .duplicateRecipe set kind.authored := by
  unfold duplicateFaults
  cases c.names.resolve? d.name with
  | none => simp
  | some kind =>
    simp only [Option.some_inj, exists_eq_left']
    split
    · rename_i again
      simp [again, eq_comm, and_comm]
    · rename_i new
      simp [new]

/-- The definitions are checked one by one, so a kind made twice is what is wrong first exactly if
nothing is wrong before it. -/
theorem recipeFaults_duplicate_iff {c : Compiler} {set : String} {earlier recipes : List Definition}
    {key name : String} :
    (c.recipeFaults set earlier recipes).head? = some (.duplicateRecipe key name) ↔
      ∃ before d after, recipes = before ++ d :: after ∧ c.recipeFaults set earlier before = [] ∧
        c.definitionFaults d = [] ∧
        c.duplicateFaults set (before.reverse ++ earlier) d = [.duplicateRecipe key name] := by
  induction recipes generalizing earlier with
  | nil => simp [recipeFaults]
  | cons d rest ih =>
    refine ⟨fun first => ?_, ?_⟩
    · rw [recipeFaults, List.append_assoc, List.head?_append, Option.or_eq_some_iff] at first
      rcases first with own | ⟨none, first⟩
      · exact absurd (List.mem_of_head? own) duplicate_not_mem_definitionFaults
      · have sound := List.head?_eq_none_iff.1 none
        cases again : c.duplicateFaults set earlier d with
        | nil =>
          rw [again, List.nil_append] at first
          obtain ⟨before, e, after, rfl, clean, alone, repeated⟩ := ih.1 first
          refine ⟨d :: before, e, after, rfl, ?_, alone, by simpa using repeated⟩
          rw [recipeFaults, sound, again, clean]
          rfl
        | cons e more =>
          rw [again, List.cons_append, List.head?_cons, Option.some_inj] at first
          obtain ⟨rfl, -⟩ := duplicateFaults_eq_cons_iff.1 again
          exact ⟨[], d, rest, rfl, rfl, sound, by rw [← first]; exact again⟩
    · rintro ⟨before, e, after, whole, clean, alone, repeated⟩
      cases before with
      | nil =>
        obtain ⟨rfl, rfl⟩ := List.cons.inj whole
        rw [List.reverse_nil, List.nil_append] at repeated
        rw [recipeFaults, alone, repeated]
        rfl
      | cons d' before =>
        obtain ⟨rfl, rfl⟩ := List.cons.inj whole
        rw [recipeFaults, List.append_eq_nil_iff, List.append_eq_nil_iff] at clean
        obtain ⟨⟨sound, once⟩, clean⟩ := clean
        rw [recipeFaults, sound, once]
        exact ih.2 ⟨before, e, after, rfl, clean, alone, by simpa using repeated⟩

theorem nodup_bareNames_iff {c : Compiler} {recipes : List Definition}
    (known : ∀ d ∈ recipes, (c.names.resolve? d.name).isSome) :
    (recipes.map (·.bareName)).Nodup ↔
      recipes.Pairwise fun d e => c.names.resolve? d.name ≠ c.names.resolve? e.name := by
  rw [List.Nodup, List.pairwise_map]
  apply List.Pairwise.iff_of_mem
  intro d e member member'
  exact not_congr (ItemKind.resolve?_eq_iff (known d member) (known e member')).symm

theorem duplicate_iff_bareNames {c : Compiler} {set key name : String} {earlier : List Definition}
    {d : Definition} (known : ∀ e ∈ d :: earlier, (c.names.resolve? e.name).isSome) :
    c.duplicateFaults set earlier.reverse d = [.duplicateRecipe key name] ↔
      key = set ∧ d.bareName ∈ earlier.map (·.bareName) ∧ name.toList = d.bareName := by
  rw [List.forall_mem_cons] at known
  obtain ⟨kind, made⟩ := Option.isSome_iff_exists.1 known.1
  have written : d.bareName = kind.authored.toList := (ItemKind.resolve?_eq_some_iff.1 made).2.1
  have again : kind ∈ earlier.reverse.filterMap (fun e => c.names.resolve? e.name) ↔
      d.bareName ∈ earlier.map (·.bareName) := by
    simp only [List.mem_filterMap, List.mem_reverse, List.mem_map, ← made]
    refine exists_congr fun e => and_congr_right fun member => ?_
    exact ItemKind.resolve?_eq_iff (known.2 e member) known.1
  rw [duplicateFaults_eq_cons_iff, made]
  simp only [true_and, Option.some_inj, exists_eq_left', again, CompileError.duplicateRecipe.injEq,
    written, String.toList_inj]
  tauto

theorem repeatsName_iff {c : Compiler} {set : String} {recipes : List Definition}
    {key name : String} :
    (c.recipeFaults set [] recipes).head? = some (.duplicateRecipe key name) ↔
      key = set ∧ c.RepeatsName recipes name := by
  rw [recipeFaults_duplicate_iff]
  refine ⟨?_, ?_⟩
  · rintro ⟨earlier, d, later, whole, clean, sound, again⟩
    rw [List.append_nil] at again
    obtain ⟨each, -, distinct⟩ := recipeFaults_eq_nil_iff.1 clean
    have all : ∀ e ∈ d :: earlier, c.definitionFaults e = [] :=
      List.forall_mem_cons.2 ⟨sound, each⟩
    have known := fun e member => (definitionFaults_eq_nil_iff.1 (all e member)).1.1
    obtain ⟨rfl, repeated, named⟩ := (duplicate_iff_bareNames known).1 again
    refine ⟨rfl, earlier, d, later, whole, ?_, ?_, repeated, named⟩
    · exact fun e member => definitionFaults_eq_nil_iff_record.1 (all e member)
    · exact (nodup_bareNames_iff (List.forall_mem_cons.1 known).2).2 distinct
  · rintro ⟨rfl, earlier, d, later, whole, records, distinct, repeated, named⟩
    have all := fun e member => definitionFaults_eq_nil_iff_record.2 (records e member)
    have known := fun e member => (definitionFaults_eq_nil_iff.1 (all e member)).1.1
    obtain ⟨sound, each⟩ := List.forall_mem_cons.1 all
    refine ⟨earlier, d, later, whole, ?_, sound, ?_⟩
    · refine recipeFaults_eq_nil_iff.2 ⟨each, by simp, ?_⟩
      exact (nodup_bareNames_iff (List.forall_mem_cons.1 known).2).1 distinct
    · rw [List.append_nil]
      exact (duplicate_iff_bareNames known).2 ⟨rfl, repeated, named⟩

theorem setFaults_duplicate_iff {c : Compiler} {set : SetConfig} {recipes : List Definition}
    {key name : String} :
    (c.setFaults set recipes).head? = some (.duplicateRecipe key name) ↔
      key = set.key ∧ c.RepeatsName recipes name := by
  have late : .duplicateRecipe key name ∉
      (if set.policy.layouts then recipes.flatMap c.capacityFaults else []) := by
    split
    · simp [duplicate_not_mem_capacityFaults]
    · simp
  rw [← repeatsName_iff, setFaults, List.head?_append, Option.or_eq_some_iff]
  refine ⟨?_, Or.inl⟩
  rintro (first | ⟨-, first⟩)
  · exact first
  · exact absurd (List.mem_of_head? first) late

end Compiler

end Craftbook
