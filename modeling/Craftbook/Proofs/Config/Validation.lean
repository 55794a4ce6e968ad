import Craftbook.Config.Basic
import Craftbook.Proofs.Check

/-!
Settings that pass validation. Main statement: these are the ones with a positive tick rate, a
tolerance that is a number not below zero, different keys, tables under all lookups, and different
names for all that is generated.
-/
namespace Craftbook.Config

/-- Names that differ from each other and from those that are taken. -/
def Fresh (names taken : List String) : Prop := names.Nodup ∧ ∀ name ∈ names, name ∉ taken

theorem fresh_nil (taken : List String) : Fresh [] taken := ⟨.nil, by simp⟩

theorem fresh_of_none_taken {names : List String} : Fresh names [] ↔ names.Nodup := by
  simp [Fresh]

theorem fresh_cons {name : String} {rest taken : List String} :
    Fresh (name :: rest) taken ↔ name ∉ taken ∧ Fresh rest (name :: taken) := by
  simp only [Fresh, List.nodup_cons, List.mem_cons, not_or, forall_eq_or_imp]
  refine ⟨?_, ?_⟩
  · rintro ⟨⟨absent, distinct⟩, new, fresh⟩
    refine ⟨new, distinct, fun other there => ⟨?_, fresh other there⟩⟩
    rintro rfl
    exact absent there
  · rintro ⟨new, distinct, fresh⟩
    exact ⟨⟨fun there => (fresh name there).1 rfl, distinct⟩, new,
      fun other there => (fresh other there).2⟩

theorem fresh_append {names more taken : List String} :
    Fresh (names ++ more) taken ↔ Fresh names taken ∧ Fresh more (names.reverse ++ taken) := by
  induction names generalizing taken with
  | nil => simp [fresh_nil]
  | cons name rest ih =>
    rw [List.cons_append, fresh_cons, fresh_cons, ih, and_assoc, List.reverse_cons,
      List.append_assoc, List.singleton_append]

theorem declare_eq_ok_iff {taken names all : List String} :
    declare taken names = .ok all ↔ Fresh names taken ∧ all = names.reverse ++ taken := by
  induction names generalizing taken with
  | nil => simp [declare, fresh_nil, eq_comm]
  | cons name rest ih =>
    rw [declare, fresh_cons]
    split
    · rename_i again
      simp [again]
    · rename_i new
      simp [ih, new]

/-- The keys and the names are checked against those of the sets before, so the statement is for any
that are taken. -/
theorem checkSets_eq_ok_iff {keys names : List String} {sets : List SetConfig} :
    checkSets keys names sets = .ok () ↔
      Fresh (sets.map (·.key)) keys ∧
      (∀ set ∈ sets, set.policy.layouts → set.policy.table) ∧
      Fresh (sets.flatMap (·.emitted)) names := by
  induction sets generalizing keys names with
  | nil => simp [checkSets, fresh_nil]
  | cons set rest ih =>
    rw [checkSets, List.map_cons, List.flatMap_cons, fresh_cons, fresh_append, List.forall_mem_cons]
    split
    · rename_i again
      simp [again]
    · rename_i new
      split
      · rename_i untabled
        simp only [Bool.and_eq_true, Bool.not_eq_true'] at untabled
        simp [untabled]
      · rename_i tabled
        have hasTable : set.policy.layouts → set.policy.table := by simpa using tabled
        simp only [bind_eq_ok_iff, declare_eq_ok_iff, ih]
        grind

/-- Settings under which the generated source is neither broken nor ambiguous, as far as validation
looks. -/
structure Sound (config : Config) : Prop where
  rate : config.rate ≠ 0
  tolerance : config.tolerance.isFinite ∧ ¬ config.tolerance < 0
  keys : (config.sets.map (·.key)).Nodup
  tabled : ∀ set ∈ config.sets, set.policy.layouts → set.policy.table
  names : (config.sets.flatMap (·.emitted)).Nodup

theorem validate_eq_ok_iff {config : Config} : config.validate = .ok () ↔ config.Sound := by
  have sets : checkSets [] [] config.sets = .ok () ↔
      (config.sets.map (·.key)).Nodup ∧
      (∀ set ∈ config.sets, set.policy.layouts → set.policy.table) ∧
      (config.sets.flatMap (·.emitted)).Nodup := by
    rw [checkSets_eq_ok_iff, fresh_of_none_taken, fresh_of_none_taken]
  unfold validate
  split
  · rename_i zero
    simp only [reduceCtorEq, false_iff]
    exact fun sound => sound.rate zero
  · rename_i rate
    split
    · rename_i bad
      simp only [reduceCtorEq, false_iff]
      intro sound
      simp [sound.tolerance] at bad
    · rename_i good
      have tolerance : config.tolerance.isFinite ∧ ¬ config.tolerance < 0 := by simpa using good
      rw [sets]
      refine ⟨fun ⟨keys, tabled, names⟩ => ⟨rate, tolerance, keys, tabled, names⟩, ?_⟩
      exact fun sound => ⟨sound.keys, sound.tabled, sound.names⟩

/-- A valid set with lookups has the table that they refer to. -/
theorem validate_table {config : Config} (valid : config.validate = .ok ()) :
    ∀ set ∈ config.sets, set.policy.layouts → set.policy.table :=
  (validate_eq_ok_iff.1 valid).tabled

theorem validate_tolerance {config : Config} (valid : config.validate = .ok ()) :
    config.tolerance.isFinite ∧ ¬ config.tolerance < 0 :=
  (validate_eq_ok_iff.1 valid).tolerance

end Craftbook.Config
