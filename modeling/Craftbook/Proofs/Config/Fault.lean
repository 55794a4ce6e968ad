import Craftbook.Load.Text
import Craftbook.Proofs.Config.Validation
import Craftbook.Proofs.Pass.Outcome

/-!
Settings that are refused. Main statement: settings that are not sound have one first fault, and this
is what validation reports and what a pass ends with; settings read from a file are sound.
-/
namespace Craftbook

namespace Config

/-- What is first wrong with a set after others that have some keys and declare some names. -/
inductive SetFault (keys names : List String) (set : SetConfig) : ConfigFault → Prop
  | repeatedSet (again : set.key ∈ keys) : SetFault keys names set (.repeatedSet set.key)
  | layoutWithoutTable (new : set.key ∉ keys) (layouts : set.policy.layouts)
    (untabled : ¬ set.policy.table) : SetFault keys names set (.layoutWithoutTable set.key)
  | repeatedName {earlier later : List String} {name : String} (new : set.key ∉ keys)
    (tabled : set.policy.layouts → set.policy.table)
    (split : set.emitted = earlier ++ name :: later) (fresh : Fresh earlier names)
    (again : name ∈ earlier ++ names) : SetFault keys names set (.repeatedName name)

/-- The first fault of settings: the tick rate, the tolerance, then that of the first set with which
the sets up to it are not sound. -/
inductive FirstFault (config : Config) : ConfigFault → Prop
  | zeroRate (zero : config.rate = 0) : FirstFault config .zeroRate
  | badTolerance (rate : config.rate ≠ 0)
    (bad : ¬ config.tolerance.isFinite ∨ config.tolerance < 0) :
    FirstFault config (.badTolerance config.tolerance)
  | set {before after : List SetConfig} {set : SetConfig} {fault : ConfigFault}
    (split : config.sets = before ++ set :: after) (sound : Sound { config with sets := before })
    (wrong : SetFault (before.map (·.key)) (before.flatMap (·.emitted)) set fault) :
    FirstFault config fault

/-- Only which keys and names are there matters, not in what order. -/
theorem SetFault.congr {keys keys' names names' : List String} {set : SetConfig}
    {fault : ConfigFault} (h : SetFault keys names set fault)
    (sameKeys : ∀ key, key ∈ keys ↔ key ∈ keys') (sameNames : ∀ name, name ∈ names ↔ name ∈ names') :
    SetFault keys' names' set fault := by
  cases h with
  | repeatedSet again => exact .repeatedSet ((sameKeys _).1 again)
  | layoutWithoutTable new layouts untabled =>
    exact .layoutWithoutTable (mt (sameKeys _).2 new) layouts untabled
  | repeatedName new tabled split fresh again =>
    refine .repeatedName (mt (sameKeys _).2 new) tabled split ⟨fresh.1, ?_⟩ ?_
    · exact fun name member => mt (sameNames name).2 (fresh.2 name member)
    · rw [List.mem_append] at again ⊢
      exact again.imp_right (sameNames _).1

/-- What a first set takes counts like what was taken before. -/
theorem setFault_after_iff {keys names : List String} {first set : SetConfig}
    {before : List SetConfig} {fault : ConfigFault} :
    SetFault (before.map (·.key) ++ first.key :: keys)
        (before.flatMap (·.emitted) ++ (first.emitted.reverse ++ names)) set fault ↔
      SetFault ((first :: before).map (·.key) ++ keys)
        ((first :: before).flatMap (·.emitted) ++ names) set fault := by
  have sameKeys (key : String) : key ∈ before.map (·.key) ++ first.key :: keys ↔
      key ∈ (first :: before).map (·.key) ++ keys := by
    simp [or_left_comm]
  have sameNames (name : String) :
      name ∈ before.flatMap (·.emitted) ++ (first.emitted.reverse ++ names) ↔
        name ∈ (first :: before).flatMap (·.emitted) ++ names := by
    simp [or_left_comm]
  exact ⟨fun h => h.congr sameKeys sameNames,
    fun h => h.congr (fun key => (sameKeys key).symm) fun name => (sameNames name).symm⟩

theorem declare_eq_error_iff {taken names : List String} {fault : ConfigFault} :
    declare taken names = .error fault ↔ ∃ earlier name later, names = earlier ++ name :: later ∧
      Fresh earlier taken ∧ name ∈ earlier ++ taken ∧ fault = .repeatedName name := by
  induction names generalizing taken with
  | nil => simp [declare]
  | cons first rest ih =>
    rw [declare]
    split
    · rename_i again
      constructor
      · intro same
        cases same
        exact ⟨[], first, rest, rfl, fresh_nil taken, again, rfl⟩
      · rintro ⟨earlier, name, later, split, fresh, -, rfl⟩
        cases earlier with
        | nil =>
          cases split
          rfl
        | cons _ earlier =>
          cases split
          exact absurd again (fresh_cons.1 fresh).1
    · rename_i new
      rw [ih]
      constructor
      · rintro ⟨earlier, name, later, rfl, fresh, again, rfl⟩
        refine ⟨first :: earlier, name, later, rfl, fresh_cons.2 ⟨new, fresh⟩, ?_, rfl⟩
        exact List.perm_middle.mem_iff.1 again
      · rintro ⟨earlier, name, later, split, fresh, again, rfl⟩
        cases earlier with
        | nil =>
          cases split
          exact absurd again new
        | cons _ earlier =>
          cases split
          refine ⟨earlier, name, later, rfl, (fresh_cons.1 fresh).2, ?_, rfl⟩
          exact List.perm_middle.mem_iff.2 again

/-- The check of one set: what is declared with it, unless it is refused. -/
def checkSet (keys names : List String) (set : SetConfig) : Except ConfigFault (List String) :=
  if set.key ∈ keys then .error (.repeatedSet set.key)
  else if set.policy.layouts && !set.policy.table then .error (.layoutWithoutTable set.key)
  else declare names set.emitted

theorem checkSets_cons (keys names : List String) (set : SetConfig) (rest : List SetConfig) :
    checkSets keys names (set :: rest) =
      checkSet keys names set >>= fun all => checkSets (set.key :: keys) all rest := by
  rw [checkSets, checkSet]
  split
  · rfl
  · split <;> rfl

theorem declared_of_checkSet {keys names all : List String} {set : SetConfig}
    (passes : checkSet keys names set = .ok all) : all = set.emitted.reverse ++ names := by
  rw [checkSet] at passes
  split at passes
  · cases passes
  · split at passes
    · cases passes
    · exact (declare_eq_ok_iff.1 passes).2

theorem checkSet_eq_error_iff {keys names : List String} {set : SetConfig} {fault : ConfigFault} :
    checkSet keys names set = .error fault ↔ SetFault keys names set fault := by
  rw [checkSet]
  constructor
  · intro fails
    split at fails
    · rename_i again
      cases fails
      exact .repeatedSet again
    · rename_i new
      split at fails
      · rename_i untabled
        simp only [Bool.and_eq_true, Bool.not_eq_true'] at untabled
        cases fails
        exact .layoutWithoutTable new untabled.1 (by simp [untabled.2])
      · rename_i tabled
        have hasTable : set.policy.layouts → set.policy.table := by simpa using tabled
        obtain ⟨earlier, name, later, split, fresh, again, rfl⟩ := declare_eq_error_iff.1 fails
        exact .repeatedName new hasTable split fresh again
  · rintro (again | ⟨new, layouts, untabled⟩ | ⟨new, tabled, split, fresh, again⟩)
    · exact if_pos again
    · rw [if_neg new, if_pos (by simp [layouts, untabled])]
    · rw [if_neg new, if_neg (by simpa using tabled)]
      exact declare_eq_error_iff.2 ⟨_, _, _, split, fresh, again, rfl⟩

/-- The sets are checked one after the other, so the first that is refused ends it. -/
theorem checkSets_eq_error_iff {keys names : List String} {sets : List SetConfig}
    {fault : ConfigFault} : checkSets keys names sets = .error fault ↔
      ∃ before set after, sets = before ++ set :: after ∧ checkSets keys names before = .ok () ∧
        SetFault (before.map (·.key) ++ keys) (before.flatMap (·.emitted) ++ names) set fault := by
  -- Each set that passes adds its key and its names to those taken, on both sides.
  induction sets generalizing keys names with
  | nil => simp [checkSets]
  | cons first rest ih =>
    rw [checkSets_cons, bind_eq_error_iff, checkSet_eq_error_iff]
    constructor
    · rintro (wrong | ⟨all, passes, fails⟩)
      · exact ⟨[], first, rest, rfl, rfl, wrong⟩
      · obtain ⟨before, set, after, rfl, sound, wrong⟩ := ih.1 fails
        obtain rfl := declared_of_checkSet passes
        refine ⟨first :: before, set, after, rfl, ?_, setFault_after_iff.1 wrong⟩
        rw [checkSets_cons]
        exact bind_eq_ok_iff.2 ⟨_, passes, sound⟩
    · rintro ⟨before, set, after, split, sound, wrong⟩
      cases before with
      | nil =>
        cases split
        exact .inl wrong
      | cons _ before =>
        cases split
        rw [checkSets_cons] at sound
        obtain ⟨all, passes, sound⟩ := bind_eq_ok_iff.1 sound
        obtain rfl := declared_of_checkSet passes
        exact .inr ⟨_, passes, ih.2 ⟨before, set, after, rfl, sound, setFault_after_iff.2 wrong⟩⟩

/-- With a sound rate and tolerance, it is the sets that decide. -/
theorem validate_eq_checkSets {config : Config} (rate : config.rate ≠ 0)
    (tolerance : config.tolerance.isFinite ∧ ¬ config.tolerance < 0) (sets : List SetConfig) :
    validate { config with sets } = checkSets [] [] sets := by
  rw [validate, if_neg rate, if_neg (by simpa using tolerance)]

theorem firstFault_of_sound_tolerance {config : Config} (rate : config.rate ≠ 0)
    (tolerance : config.tolerance.isFinite ∧ ¬ config.tolerance < 0) {fault : ConfigFault} :
    checkSets [] [] config.sets = .error fault ↔ config.FirstFault fault := by
  rw [checkSets_eq_error_iff]
  simp only [List.append_nil, ← validate_eq_checkSets rate tolerance, validate_eq_ok_iff]
  constructor
  · rintro ⟨before, set, after, split, sound, wrong⟩
    exact .set split sound wrong
  · rintro (zero | ⟨-, infinite | negative⟩ | ⟨split, sound, wrong⟩)
    · exact absurd zero rate
    · exact absurd tolerance.1 infinite
    · exact absurd negative tolerance.2
    · exact ⟨_, _, _, split, sound, wrong⟩

theorem validate_eq_error_iff {config : Config} {fault : ConfigFault} :
    config.validate = .error fault ↔ config.FirstFault fault := by
  by_cases rate : config.rate = 0
  · rw [validate, if_pos rate]
    constructor
    · rintro ⟨⟩
      exact .zeroRate rate
    · rintro (_ | ⟨nonzero, -⟩ | ⟨-, sound, -⟩)
      · rfl
      · exact absurd rate nonzero
      · exact absurd rate sound.rate
  · by_cases bad : ¬ config.tolerance.isFinite ∨ config.tolerance < 0
    · rw [validate, if_neg rate, if_pos (by simpa using bad)]
      constructor
      · rintro ⟨⟩
        exact .badTolerance rate bad
      · rintro (zero | _ | ⟨-, sound, -⟩)
        · exact absurd zero rate
        · rfl
        · exact absurd sound.tolerance (by simpa [or_iff_not_imp_left] using bad)
    · have tolerance : config.tolerance.isFinite ∧ ¬ config.tolerance < 0 := by
        simpa using bad
      rw [← firstFault_of_sound_tolerance rate tolerance,
        ← validate_eq_checkSets rate tolerance config.sets]

theorem not_sound_iff {config : Config} :
    ¬ config.Sound ↔ ∃ fault, config.FirstFault fault := by
  simp only [← validate_eq_ok_iff, ← validate_eq_error_iff]
  cases config.validate <;> simp

theorem parse_eq_ok_iff {path text : String} {config : Config} :
    Config.parse path text = .ok config ↔
      Craftbook.parse path text Schema.config.ofEntries = .ok config ∧ config.Sound := by
  rw [Config.parse, bind_eq_ok_iff]
  simp only [bind_eq_ok_iff, mapError_eq_ok_iff]
  constructor
  · rintro ⟨_, read, _, valid, ⟨⟩⟩
    exact ⟨read, validate_eq_ok_iff.1 valid⟩
  · rintro ⟨read, sound⟩
    exact ⟨config, read, (), validate_eq_ok_iff.2 sound, rfl⟩

end Config

theorem Pass.compile_eq_config_error_iff {book : Book} {names : Namespace} {config : Config}
    {fault : ConfigFault} :
    (compile book names config).outcome = .error (.config fault) ↔ config.FirstFault fault := by
  rw [compile_outcome, bind_eq_error_iff, ← Config.validate_eq_error_iff]
  simp [mapError_eq_error_iff]

/-- Settings pass exactly if they are sound; else they have one first fault, which validation
reports and every pass ends with. A file that is read with success has sound settings. -/
theorem Config.refused_for_first_fault (config : Config) :
    (config.validate = .ok () ↔ config.Sound) ∧
    (∀ fault, config.validate = .error fault ↔ config.FirstFault fault) ∧
    (¬ config.Sound ↔ ∃ fault, config.FirstFault fault) ∧
    (∀ path text, Config.parse path text = .ok config ↔
      Craftbook.parse path text Schema.config.ofEntries = .ok config ∧ config.Sound) ∧
    ∀ book names fault, (Pass.compile book names config).outcome = .error (.config fault) ↔
      config.FirstFault fault :=
  ⟨validate_eq_ok_iff, fun _ => validate_eq_error_iff, not_sound_iff, fun _ _ => parse_eq_ok_iff,
    fun _ _ _ => Pass.compile_eq_config_error_iff⟩

/-- Two sets with lookups of the same names. -/
example : Config.validate { sets := [⟨"a", "A", .full, "slots", "place"⟩,
    ⟨"b", "B", .full, "slots", "place"⟩] } = .error (.repeatedName "slots") := by
  decide +kernel

end Craftbook
