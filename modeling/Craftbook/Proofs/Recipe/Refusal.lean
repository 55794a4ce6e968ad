import Craftbook.Proofs.Recipe.CompiledSet

/-!
Which definition a set is refused for. Main statements: a set is refused exactly if one of its
definitions is to blame, and then no other is.
-/
namespace Craftbook.Compiler

/-- Why a definition is refused in a set, after others that make some kinds: by itself, or because it
makes one of the kinds again. -/
inductive RefusedAfter (c : Compiler) (set : String) (made : List ItemKind) (d : Definition) :
    CompileError → Prop
  | alone {e : CompileError} (fails : c.record d = .error e) : RefusedAfter c set made d e
  | again {record : Record} (checked : c.record d = .ok record)
    (repeated : record.result.kind ∈ made) :
    RefusedAfter c set made d (.duplicateRecipe set record.result.kind.authored)

/-- The definition at a place is what a set is refused for. Those before it are sound. Only if all of
them are is it refused for an amount that no slot can hold, and then it is the first with one. -/
inductive RefusedAt (c : Compiler) (set : SetConfig) (recipes : List Definition) :
    Nat → CompileError → Prop
  | definition {before after : List Definition} {d : Definition} {records : List Record}
    {e : CompileError} (split : recipes = before ++ d :: after)
    (sound : (c.distinctRecords set.key [] before).outcome = .ok records)
    (refused : c.RefusedAfter set.key (records.map (·.result.kind)) d e) :
    RefusedAt c set recipes before.length e
  | capacity {before after : List Record} {record : Record} {e : CompileError}
    (laidOut : set.policy.layouts)
    (sound : (c.distinctRecords set.key [] recipes).outcome = .ok (before ++ record :: after))
    (fit : ∀ r ∈ before, ∃ layout, SlotLayout.forRecord r = .ok layout)
    (refused : SlotLayout.forRecord record = .error e) : RefusedAt c set recipes before.length e

theorem RefusedAfter.of_subset {c : Compiler} {set : String} {made made' : List ItemKind}
    {d : Definition} {e : CompileError} (h : c.RefusedAfter set made d e) (within : made ⊆ made') :
    c.RefusedAfter set made' d e := by
  cases h with
  | alone fails => exact .alone fails
  | again checked repeated => exact .again checked (within repeated)

theorem distinctRecords_cons_eq_ok_iff {c : Compiler} {set : String} {made : List ItemKind}
    {d : Definition} {rest : List Definition} {all : List Record} :
    (c.distinctRecords set made (d :: rest)).outcome = .ok all ↔
      ∃ record records, c.record d = .ok record ∧ record.result.kind ∉ made ∧
        (c.distinctRecords set (record.result.kind :: made) rest).outcome = .ok records ∧
        record :: records = all := by
  rw [distinctRecords_cons, bind_eq_ok_iff]
  apply exists_congr
  intro record
  by_cases repeated : record.result.kind ∈ made
  · simp [repeated]
  · simp [repeated, bind_eq_ok_iff]

theorem distinctRecords_cons_eq_error_iff {c : Compiler} {set : String} {made : List ItemKind}
    {d : Definition} {rest : List Definition} {e : CompileError} :
    (c.distinctRecords set made (d :: rest)).outcome = .error e ↔
      c.RefusedAfter set made d e ∨ ∃ record, c.record d = .ok record ∧
        record.result.kind ∉ made ∧
        (c.distinctRecords set (record.result.kind :: made) rest).outcome = .error e := by
  rw [distinctRecords_cons, bind_eq_error_iff]
  constructor
  · rintro (fails | ⟨record, checked, later⟩)
    · exact .inl (.alone fails)
    · split at later
      · rename_i repeated
        cases later
        exact .inl (.again checked repeated)
      · rename_i new
        rcases bind_eq_error_iff.1 later with fails | ⟨_, _, impossible⟩
        · exact .inr ⟨record, checked, new, fails⟩
        · cases impossible
  · rintro (refused | ⟨record, checked, new, fails⟩)
    · cases refused with
      | alone fails => exact .inl fails
      | again checked repeated => exact .inr ⟨_, checked, if_pos repeated⟩
    · refine .inr ⟨record, checked, ?_⟩
      rw [if_neg new, bind_eq_error_iff]
      exact .inl fails

/-- Definitions are checked one after the other, so the first that is refused ends it. -/
theorem distinctRecords_eq_error_iff {c : Compiler} {set : String} {made : List ItemKind}
    {recipes : List Definition} {e : CompileError} :
    (c.distinctRecords set made recipes).outcome = .error e ↔
      ∃ before d after records, recipes = before ++ d :: after ∧
        (c.distinctRecords set made before).outcome = .ok records ∧
        c.RefusedAfter set (records.map (·.result.kind) ++ made) d e := by
  -- Each definition that passes adds its kind to those made, on both sides.
  induction recipes generalizing made with
  | nil => simp [distinctRecords_nil]
  | cons d rest ih =>
    rw [distinctRecords_cons_eq_error_iff]
    constructor
    · rintro (refused | ⟨record, checked, new, fails⟩)
      · exact ⟨[], d, rest, [], rfl, rfl, refused⟩
      · obtain ⟨before, d', after, records, rfl, sound, refused⟩ := ih.1 fails
        refine ⟨d :: before, d', after, record :: records, rfl, ?_, ?_⟩
        · exact distinctRecords_cons_eq_ok_iff.2 ⟨record, records, checked, new, sound, rfl⟩
        · apply refused.of_subset
          simp
    · rintro ⟨before, d', after, all, split, sound, refused⟩
      cases before with
      | nil =>
        cases split
        cases sound
        exact .inl refused
      | cons first before =>
        cases split
        obtain ⟨record, records, checked, new, later, rfl⟩ :=
          distinctRecords_cons_eq_ok_iff.1 sound
        refine .inr ⟨record, checked, new, ih.2 ⟨before, d', after, records, rfl, later, ?_⟩⟩
        apply refused.of_subset
        simp

theorem layoutsFor_eq_error_iff {set : SetConfig} {records : List Record} {e : CompileError} :
    layoutsFor set records = .error e ↔ set.policy.layouts ∧
      ∃ before record after, records = before ++ record :: after ∧
        (∀ r ∈ before, ∃ layout, SlotLayout.forRecord r = .ok layout) ∧
        SlotLayout.forRecord record = .error e := by
  have entry (r : Record) : (∃ entry, (SlotLayout.forRecord r >>= fun layout =>
      (.ok (r.result.kind, layout) : Except CompileError (ItemKind × SlotLayout))) = .ok entry) ↔
        ∃ layout, SlotLayout.forRecord r = .ok layout := by
    cases SlotLayout.forRecord r <;> simp [bind, Except.bind]
  unfold layoutsFor
  split
  · rename_i laidOut
    have table : SlotTable.ofRecords records = .error e ↔
        SlotTable.entriesFor records = .error e := bind_ok_eq_error_iff
    refine (bind_ok_eq_error_iff (f := some)).trans (table.trans ?_)
    rw [SlotTable.entriesFor_eq_mapM, mapM_eq_error_iff]
    simp only [laidOut, true_and]
    apply exists₃_congr
    intro before record after
    exact and_congr_right fun _ =>
      and_congr (forall₂_congr fun r _ => entry r) bind_ok_eq_error_iff
  · rename_i bare
    simp [bare, pure, Except.pure]

theorem compileSet_eq_error_iff {c : Compiler} {set : SetConfig} {recipes : List Definition}
    {e : CompileError} :
    (c.compileSet set recipes).outcome = .error e ↔ ∃ place, c.RefusedAt set recipes place e := by
  rw [compileSet_outcome, bind_eq_error_iff]
  constructor
  · rintro (fails | ⟨records, sound, late⟩)
    · obtain ⟨before, d, after, records, split, sound, refused⟩ :=
        distinctRecords_eq_error_iff.1 fails
      rw [List.append_nil] at refused
      exact ⟨before.length, .definition split sound refused⟩
    · obtain ⟨laidOut, before, record, after, rfl, fit, refused⟩ :=
        layoutsFor_eq_error_iff.1 (bind_ok_eq_error_iff.1 late)
      exact ⟨before.length, .capacity laidOut sound fit refused⟩
  · rintro ⟨place, blamed⟩
    cases blamed with
    | definition split sound refused =>
      left
      rw [distinctRecords_eq_error_iff]
      refine ⟨_, _, _, _, split, sound, ?_⟩
      rwa [List.append_nil]
    | capacity laidOut sound fit refused =>
      right
      refine ⟨_, sound, bind_ok_eq_error_iff.2 ?_⟩
      exact layoutsFor_eq_error_iff.2 ⟨laidOut, _, _, _, rfl, fit, refused⟩

theorem not_sound_of_refused {c : Compiler} {set : String} {before mid : List Definition}
    {d : Definition} {records all : List Record} {e : CompileError}
    (sound : (c.distinctRecords set [] before).outcome = .ok records)
    (refused : c.RefusedAfter set (records.map (·.result.kind)) d e) :
    (c.distinctRecords set [] (before ++ d :: mid)).outcome ≠ .ok all := by
  have fails : (c.distinctRecords set [] (before ++ d :: mid)).outcome = .error e := by
    rw [distinctRecords_eq_error_iff]
    refine ⟨before, d, mid, records, rfl, sound, ?_⟩
    rwa [List.append_nil]
  rw [fails]
  nofun

theorem RefusedAt.unique {c : Compiler} {set : SetConfig} {recipes : List Definition} {i j : Nat}
    {e e' : CompileError} (h : c.RefusedAt set recipes i e) (h' : c.RefusedAt set recipes j e') :
    i = j := by
  cases h with
  | definition split sound refused =>
    cases h' with
    | definition split' sound' refused' =>
      apply length_eq_of_splits (split.symm.trans split')
      · rintro mid rfl
        exact not_sound_of_refused sound refused sound'
      · rintro mid rfl
        exact not_sound_of_refused sound' refused' sound
    | capacity _ sound' _ _ =>
      rw [split] at sound'
      exact absurd sound' (not_sound_of_refused sound refused)
  | capacity _ sound fit refused =>
    cases h' with
    | definition split' sound' refused' =>
      rw [split'] at sound
      exact absurd sound (not_sound_of_refused sound' refused')
    | capacity _ sound' fit' refused' =>
      apply length_eq_of_splits (Except.ok.inj (sound.symm.trans sound'))
      · rintro mid rfl
        obtain ⟨layout, fits⟩ := fit' _ (List.mem_append_right _ List.mem_cons_self)
        cases fits.symm.trans refused
      · rintro mid rfl
        obtain ⟨layout, fits⟩ := fit _ (List.mem_append_right _ List.mem_cons_self)
        cases fits.symm.trans refused'

end Craftbook.Compiler
