import Craftbook.Proofs.Binary64.Nearest
import Craftbook.Proofs.Schema.Fields
import Craftbook.Schema.Recipes

/-!
The grammar of recipes as relations between values and what they write. Main statement: a value whose
tables name their entries once is read as a recipe exactly if it writes that recipe.
-/
namespace Craftbook.Schema
open Toml (Value)

def WritesQuantity (value : Value) (n : Int) : Prop := ∃ k : Int64, value = .integer k ∧ n = k.toInt

/-- A time in seconds. An integer stands for the nearest float. -/
inductive WritesTime : Value → Binary64 → Prop
  | float (x : Binary64) : WritesTime (.float x) x
  | integer {n : Int64} {x : Binary64} (rounded : x = .ofInt n.toInt)
    (nearest : Binary64.NearestTo n.toInt x) : WritesTime (.integer n) x

def WritesList (element : Value → α → Prop) (value : Value) (xs : List α) : Prop :=
  ∃ values, value = .array values ∧ List.Forall₂ element values xs

/-- A pair of an item and a count, or a table in which the count may be left out. -/
inductive WritesRequirement : Value → Requirement → Prop
  | pair {item : String} {n : Int64} :
    WritesRequirement (.array [.text item, .integer n]) ⟨item, n.toInt⟩
  | table {entries : List (String × Value)} {item : String} {count : Int}
    (named : ("item", .text item) ∈ entries)
    (counted : Gives WritesQuantity 1 entries "count" count) :
    WritesRequirement (.table entries) ⟨item, count⟩

/-- A table of known fields, of which the time may not be left out, or an array that begins with
them. -/
inductive WritesRecipe : Value → RecipeBody → Prop
  | table {entries : List (String × Value)} {body : RecipeBody}
    (known : ∀ key ∈ entries.map (·.1), key ∈ ["requirements", "amount", "time"])
    (requirements :
      Gives (WritesList WritesRequirement) [] entries "requirements" body.requirements)
    (amount : Gives WritesQuantity 1 entries "amount" body.amount)
    (time : ∃ value, ("time", value) ∈ entries ∧ WritesTime value body.time) :
    WritesRecipe (.table entries) body
  | array {first second third : Value} {surplus : List Value} {body : RecipeBody}
    (requirements : WritesList WritesRequirement first body.requirements)
    (amount : WritesQuantity second body.amount) (time : WritesTime third body.time) :
    WritesRecipe (.array (first :: second :: third :: surplus)) body

theorem quantity_iff {value : Value} {n : Int} : quantity value = .ok n ↔ WritesQuantity value n :=
  quantity_eq_ok_iff

theorem float_iff {value : Value} {x : Binary64} : float value = .ok x ↔ WritesTime value x := by
  rw [float_eq_ok_iff]
  refine ⟨?_, fun h => ?_⟩
  · rintro (rfl | ⟨n, rfl, rounded⟩)
    · exact .float x
    · refine .integer rounded ?_
      rw [rounded]
      exact Binary64.ofInt_nearest n
  · cases h with
    | float => exact .inl rfl
    | integer rounded _ => exact .inr ⟨_, rfl, rounded⟩

theorem requirementCount?_eq_some_iff {entries : List (String × Value)}
    (distinct : (entries.map (·.1)).Nodup) {n : Int} :
    requirementCount? (entries.lookup "count") = some n ↔
      Gives WritesQuantity 1 entries "count" n := by
  cases found : entries.lookup "count" with
  | none =>
    have absent := lookup_eq_none_iff_keys.1 found
    refine ⟨fun h => .inl ⟨absent, (Option.some.inj h).symm⟩, ?_⟩
    rintro (⟨-, rfl⟩ | ⟨value, there, -⟩)
    · rfl
    · exact absurd (List.mem_map_of_mem there) absent
  | some value =>
    have there := mem_of_lookup found
    have counted : requirementCount? (some value) = some n ↔ WritesQuantity value n := by
      cases value <;> simp [requirementCount?, WritesQuantity, eq_comm]
    rw [counted]
    exact ⟨fun writes => .inr ⟨value, there, writes⟩, fun gives => gives.of_mem distinct there⟩

theorem requirement?_eq_some_iff {value : Value} (distinct : value.DistinctKeys) {r : Requirement} :
    requirement? value = some r ↔ WritesRequirement value r := by
  refine ⟨fun h => ?_, fun h => ?_⟩
  · unfold requirement? at h
    split at h
    · cases h
      exact .pair
    · rename_i entries
      split at h
      · rename_i item found
        obtain ⟨count, counted, rfl⟩ := Option.map_eq_some_iff.1 h
        exact .table (mem_of_lookup found)
          ((requirementCount?_eq_some_iff distinct.entries.1).1 counted)
      · cases h
    · cases h
  · cases h with
    | pair => rfl
    | table named counted =>
      have keys := distinct.entries.1
      simp only [requirement?, (lookup_eq_some_iff_mem keys).2 named,
        (requirementCount?_eq_some_iff keys).2 counted, Option.map_some]

theorem requirement_iff {value : Value} (distinct : value.DistinctKeys) {r : Requirement} :
    requirement value = .ok r ↔ WritesRequirement value r := by
  rw [← requirement?_eq_some_iff distinct, requirement]
  cases requirement? value <;> simp

theorem requirements_iff {value : Value} (distinct : value.DistinctKeys) {rs : List Requirement} :
    sequence requirement value = .ok rs ↔ WritesList WritesRequirement value rs := by
  rw [sequence_eq_ok_iff]
  refine exists_congr fun values => and_congr_right ?_
  rintro rfl
  exact forall₂_congr_left fun value member _ => requirement_iff (distinct.elements value member)

theorem finish_eq_ok_iff {missing : Nat → String → Mismatch} {draft : RecipeDraft}
    {body : RecipeBody} : recipeBody.finish missing draft = .ok body ↔
      body.requirements = draft.requirements ∧ body.amount = draft.amount ∧
        draft.time = some body.time := by
  obtain ⟨requirements, amount, time⟩ := draft
  obtain ⟨requirements', amount', time'⟩ := body
  cases time <;> simp [recipeBody, required, bind, Except.bind, pure, Except.pure, eq_comm]

theorem recipeBody_regular : recipeBody.Regular where
  names := by decide
  moment := by decide
  independent := by simp [recipeBody, Field.independent_of]
  finish _ _ _ _ h := finish_eq_ok_iff.2 (finish_eq_ok_iff.1 h)

/-- A recipe's fields in the order of their places. -/
def recipeNames : List String := ["requirements", "amount", "time"]

structure RecipeFields (fields : List (String × Value)) (body : RecipeBody) : Prop where
  known : ∀ key ∈ fields.map (·.1), key ∈ recipeNames
  requirements : Gives (WritesList WritesRequirement) [] fields "requirements" body.requirements
  amount : Gives WritesQuantity 1 fields "amount" body.amount
  time : ∃ value, ("time", value) ∈ fields ∧ WritesTime value body.time

section Fields
variable {fields : List (String × Value)} {draft : RecipeDraft} {body : RecipeBody} {value : Value}

theorem fillInOrder_recipe_iff (keys : (fields.map (·.1)).Nodup)
    (each : ∀ field ∈ fields, field.2.DistinctKeys) :
    fillInOrder fields recipeBody.fields recipeBody.blank = .ok draft ↔
      Gives (WritesList WritesRequirement) [] fields "requirements" draft.requirements ∧
      Gives WritesQuantity 1 fields "amount" draft.amount ∧
      Gives (Field.Known WritesTime) none fields "time" draft.time := by
  have requirements {rs : List Requirement} :
      Gives (fun value rs => sequence requirement value = .ok rs) [] fields "requirements" rs ↔
        Gives (WritesList WritesRequirement) [] fields "requirements" rs :=
    Gives.congr fun there _ => requirements_iff (each _ there)
  simp only [recipeBody,
    fillInOrder_of_iff RecipeDraft.requirements (fun d rs => { d with requirements := rs }) Iff.rfl
      (fun _ => rfl) keys,
    fillInOrder_of_iff RecipeDraft.amount (fun d n => { d with amount := n }) quantity_iff
      (fun _ => rfl) keys,
    fillInOrder_some_iff RecipeDraft.time (fun d x => { d with time := x }) float_iff
      (fun _ => rfl) keys,
    fillInOrder_done, requirements]
  constructor
  · rintro ⟨_, requirements, _, amount, _, time, ⟨⟩⟩
    exact ⟨requirements, amount, time⟩
  · rintro ⟨requirements, amount, time⟩
    exact ⟨_, requirements, _, amount, _, time, rfl⟩

theorem recipeFields_iff (keys : (fields.map (·.1)).Nodup)
    (each : ∀ field ∈ fields, field.2.DistinctKeys) :
    recipeBody.ofEntries fields = .ok body ↔ RecipeFields fields body := by
  rw [recipeBody_regular.ofEntries_eq_ok_iff keys]
  constructor
  · rintro ⟨known, draft, fills, _, finish⟩
    obtain ⟨requirements, amount, time⟩ := (fillInOrder_recipe_iff keys each).1 fills
    obtain ⟨listed, counted, timed⟩ := finish_eq_ok_iff.1 finish
    rw [timed, gives_known_iff] at time
    exact ⟨known, listed ▸ requirements, counted ▸ amount, time⟩
  · rintro ⟨known, requirements, amount, time⟩
    refine ⟨known, ⟨body.requirements, body.amount, some body.time⟩, ?_, fun _ => .missingField,
      finish_eq_ok_iff.2 ⟨rfl, rfl, rfl⟩⟩
    exact (fillInOrder_recipe_iff keys each).2 ⟨requirements, amount, gives_known_iff.2 time⟩

/-- An array that ends before the third element leaves out the time. -/
theorem recipeFields_zip_iff {elements : List Value} :
    RecipeFields (recipeNames.zip elements) body ↔ WritesRecipe (.array elements) body := by
  constructor
  · rintro ⟨-, requirements, amount, value, there, time⟩
    have keys : ((recipeNames.zip elements).map (·.1)).Nodup :=
      recipeBody_regular.names.sublist (keys_zip_sublist recipeNames elements)
    rcases elements with _ | ⟨first, _ | ⟨second, _ | ⟨third, surplus⟩⟩⟩
    · simp at there
    · simp [recipeNames] at there
    · simp [recipeNames] at there
    · cases value_unique keys there (.tail _ (.tail _ (.head _)))
      exact .array (requirements.of_mem keys (.head _)) (amount.of_mem keys (.tail _ (.head _))) time
  · intro h
    cases h with
    | array requirements amount time =>
      exact ⟨fun key => (keys_zip_sublist recipeNames _).subset (a := key),
        .inr ⟨_, .head _, requirements⟩, .inr ⟨_, .tail _ (.head _), amount⟩,
        _, .tail _ (.tail _ (.head _)), time⟩

theorem writesRecipe_iff :
    WritesRecipe value body ↔
      ∃ fields, NamedFields recipeNames value fields ∧ RecipeFields fields body := by
  constructor
  · intro h
    cases value with
    | table entries =>
      cases h with
      | table known requirements amount time =>
        exact ⟨entries, .table entries, known, requirements, amount, time⟩
    | array elements => exact ⟨_, .array elements, recipeFields_zip_iff.2 h⟩
    | _ => cases h
  · rintro ⟨fields, named, written⟩
    cases named with
    | table => exact .table written.known written.requirements written.amount written.time
    | array => exact recipeFields_zip_iff.1 written

end Fields

theorem recipe_iff {value : Value} (distinct : value.DistinctKeys) {body : RecipeBody} :
    recipeBody.ofValue .recipe value = .ok body ↔ WritesRecipe value body := by
  rw [recipeBody_regular.ofValue_eq_ok_iff, writesRecipe_iff]
  refine exists_congr fun fields => and_congr_right fun named => ?_
  obtain ⟨keys, each⟩ := named.distinct recipeBody_regular.names distinct
  exact recipeFields_iff keys each

/-- The name of a recipe whose table has a given one. -/
def trimmed (name : String) : String := String.ofList (Text.trim name.toList)

/-- A recipe under its name. White space around the name is no part of it. -/
structure WritesDefinition (entry : String × Value) (d : Definition) : Prop where
  name : d.name = trimmed entry.1
  body : WritesRecipe entry.2 ⟨d.requirements, d.amount, d.time⟩

/-- A table of recipes, one for each entry. -/
def WritesSet (value : Value) (recipes : List Definition) : Prop :=
  ∃ entries, value = .table entries ∧ List.Forall₂ WritesDefinition entries recipes

theorem definition_iff {name : String} {value : Value} (distinct : value.DistinctKeys)
    {d : Definition} : definition name value = .ok d ↔ WritesDefinition (name, value) d := by
  rw [definition, bind_eq_ok_iff]
  refine ⟨?_, fun h => ?_⟩
  · rintro ⟨body, read, last⟩
    rw [← Except.ok.inj last]
    exact ⟨rfl, (recipe_iff distinct).1 read⟩
  · refine ⟨_, (recipe_iff distinct).2 h.body, ?_⟩
    rw [← trimmed, ← h.name]
    rfl

theorem definitions_iff {value : Value} (distinct : value.DistinctKeys)
    {recipes : List Definition} :
    definitions value = .ok recipes ↔ WritesSet value recipes := by
  cases value with
  | table entries =>
    have each : definitions (.table entries) = .ok recipes ↔
        List.Forall₂ WritesDefinition entries recipes :=
      mapM_eq_ok_iff.trans <| forall₂_congr_left fun entry member _ =>
        definition_iff (distinct.entries.2 entry member)
    rw [each]
    refine ⟨fun h => ⟨entries, rfl, h⟩, ?_⟩
    rintro ⟨_, same, h⟩
    cases same
    exact h
  | moment moment =>
    refine ⟨fun h => ?_, nofun⟩
    -- Where a table of recipes is read, the text of a moment stands in the place of a recipe.
    cases mapM_eq_ok_iff.1 h with
    | cons first _ => cases first
  | _ => exact ⟨nofun, nofun⟩

theorem recipeSets_iff {entries : List (String × Value)}
    (distinct : (Value.table entries).DistinctKeys) {sets : List (String × List Definition)} :
    recipeSets entries = .ok sets ↔
      List.Forall₂ (fun entry set => entry.1 = set.1 ∧ WritesSet entry.2 set.2) entries sets := by
  refine mapM_eq_ok_iff.trans <| forall₂_congr_left fun entry member set => ?_
  rw [bind_eq_ok_iff]
  refine ⟨?_, fun h => ?_⟩
  · rintro ⟨recipes, read, last⟩
    rw [← Except.ok.inj last]
    exact ⟨rfl, (definitions_iff (distinct.entries.2 entry member)).1 read⟩
  · refine ⟨set.2, (definitions_iff (distinct.entries.2 entry member)).2 h.2, ?_⟩
    rw [h.1]
    rfl

end Craftbook.Schema
