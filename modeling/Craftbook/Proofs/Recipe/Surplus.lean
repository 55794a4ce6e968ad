import Craftbook.Proofs.Recipe.Written

/-!
Keys that a recipe file may hold beyond those that are read. Main statements: a recipe's table has no
such key, a requirement's table may have any, and they make no difference to the book.
-/
namespace Craftbook

namespace Schema
open Toml (Value)

def entriesOf : Value → List (String × Value)
  | .table entries => entries
  | _ => []

def keysOf (value : Value) : List String := (entriesOf value).map (·.1)

def elementsOf : Value → List Value
  | .array elements => elements
  | _ => []

/-- The recipes of a document, as they are written. -/
def recipeValues (entries : List (String × Value)) : List Value :=
  entries.flatMap fun set => (entriesOf set.2).map (·.2)

/-- The requirements of a recipe, as they are written: by name in a table, first in an array. -/
def requirementValues : Value → List Value
  | .table fields => (fields.filter (·.1 = "requirements")).flatMap fun field => elementsOf field.2
  | .array (first :: _) => elementsOf first
  | _ => []

/-- The keys that are written inside the tables of recipes. -/
def recipeKeys (entries : List (String × Value)) : List String :=
  (recipeValues entries).flatMap keysOf

/-- The keys that are written inside the tables of requirements. -/
def requirementKeys (entries : List (String × Value)) : List String :=
  ((recipeValues entries).flatMap requirementValues).flatMap keysOf

/-- A requirement with those entries of its table alone that are read. -/
def plainRequirement : Value → Value
  | .table entries => .table (entries.filter (·.1 ∈ ["item", "count"]))
  | value => value

def plainRequirements : Value → Value
  | .array elements => .array (elements.map plainRequirement)
  | value => value

def plainField (field : String × Value) : String × Value :=
  if field.1 = "requirements" then (field.1, plainRequirements field.2) else field

def plainRecipe : Value → Value
  | .table fields => .table (fields.map plainField)
  | .array (first :: rest) => .array (plainRequirements first :: rest)
  | value => value

def plainSet : Value → Value
  | .table recipes => .table (recipes.map fun recipe => (recipe.1, plainRecipe recipe.2))
  | value => value

/-- The document without the entries of requirements that are not read. -/
def plainSets (entries : List (String × Value)) : List (String × Value) :=
  entries.map fun set => (set.1, plainSet set.2)

theorem lookup_filter_of_pos {p : String → Bool} {key : String} (kept : p key)
    (entries : List (String × Value)) :
    (entries.filter fun entry => p entry.1).lookup key = entries.lookup key := by
  induction entries with
  | nil => rfl
  | cons entry rest ih =>
    obtain ⟨name, value⟩ := entry
    rw [List.filter_cons]
    by_cases same : name = key
    · subst same
      simp [kept]
    · have other : (key == name) = false := beq_eq_false_iff_ne.2 (Ne.symm same)
      rw [List.lookup_cons, other, ← ih]
      split
      · rw [List.lookup_cons, other]
      · rfl

theorem requirement_plain (value : Value) :
    requirement (plainRequirement value) = requirement value := by
  have same : requirement? (plainRequirement value) = requirement? value := by
    cases value with
    | table entries =>
      simp only [plainRequirement, requirement?]
      rw [lookup_filter_of_pos (p := fun key => key ∈ ["item", "count"]) (by decide),
        lookup_filter_of_pos (p := fun key => key ∈ ["item", "count"]) (by decide)]
    | _ => rfl
  rw [requirement, requirement, same]

theorem sequence_plain (value : Value) :
    sequence requirement (plainRequirements value) = sequence requirement value := by
  cases value with
  | array elements =>
    rw [plainRequirements, sequence, sequence, List.mapM_map]
    exact mapM_congr fun element _ => requirement_plain element
  | _ => rfl

theorem plainField_name (field : String × Value) : (plainField field).1 = field.1 := by
  unfold plainField
  split <;> rfl

theorem plainField_other {field : String × Value} (other : field.1 ≠ "requirements") :
    plainField field = field := if_neg other

theorem fill_plain {field : Field RecipeDraft} (known : field ∈ recipeBody.fields)
    {entry : String × Value} (named : field.name = entry.1) (draft : RecipeDraft) :
    field.fill (plainField entry).2 draft = field.fill entry.2 draft := by
  simp only [recipeBody, List.mem_cons, List.not_mem_nil, or_false] at known
  rcases known with rfl | rfl | rfl
  · have own : plainField entry = (entry.1, plainRequirements entry.2) := if_pos named.symm
    simp only [own, Field.of, sequence_plain]
  · rw [plainField_other (named ▸ by decide)]
  · rw [plainField_other (named ▸ by decide)]

theorem fillByName_plain (draft : RecipeDraft) (entries : List (String × Value)) :
    fillByName recipeBody.fields draft (entries.map plainField) =
      fillByName recipeBody.fields draft entries := by
  induction entries generalizing draft with
  | nil => rfl
  | cons entry rest ih =>
    rw [List.map_cons, fillByName, fillByName, plainField_name]
    split
    · rfl
    · rename_i field found
      obtain ⟨known, named⟩ := known_of_find? found
      rw [fill_plain known named]
      congr
      funext next
      exact ih next

theorem ofValue_plain (value : Value) :
    recipeBody.ofValue .recipe (plainRecipe value) = recipeBody.ofValue .recipe value := by
  cases value with
  | table fields =>
    show recipeBody.ofEntries (fields.map plainField) = recipeBody.ofEntries fields
    rw [Reader.ofEntries, Reader.ofEntries, fillByName_plain]
  | array elements =>
    cases elements with
    | nil => rfl
    | cons first rest =>
      show recipeBody.ofElements .recipe (plainRequirements first :: rest) =
        recipeBody.ofElements .recipe (first :: rest)
      simp only [Reader.ofElements, recipeBody, fillByPlace, Field.of, sequence_plain]
  | _ => rfl

theorem definition_plain (name : String) (value : Value) :
    definition name (plainRecipe value) = definition name value := by
  rw [definition, definition, ofValue_plain]

theorem definitions_plain (value : Value) : definitions (plainSet value) = definitions value := by
  cases value with
  | table recipes =>
    show (recipes.map fun recipe => (recipe.1, plainRecipe recipe.2)).mapM
        (fun recipe => definition recipe.1 recipe.2) =
      recipes.mapM fun recipe => definition recipe.1 recipe.2
    rw [List.mapM_map]
    exact mapM_congr fun recipe _ => definition_plain recipe.1 recipe.2
  | _ => rfl

/-- What is not read makes no difference, whether the document is accepted or not. -/
theorem recipeSets_plain (entries : List (String × Value)) :
    recipeSets (plainSets entries) = recipeSets entries := by
  rw [recipeSets, recipeSets, plainSets, List.mapM_map]
  apply mapM_congr
  intro set _
  simp only [Function.comp_apply, definitions_plain]

theorem keysOf_plainRecipe (value : Value) : keysOf (plainRecipe value) = keysOf value := by
  cases value with
  | table fields =>
    simp only [plainRecipe, keysOf, entriesOf, List.map_map]
    apply List.map_congr_left
    intro field _
    exact plainField_name field
  | array elements => cases elements <;> rfl
  | _ => rfl

theorem keysOf_plainRequirement (value : Value) :
    keysOf (plainRequirement value) = (keysOf value).filter (· ∈ ["item", "count"]) := by
  cases value with
  | table entries =>
    simp only [plainRequirement, keysOf, entriesOf, List.filter_map]
    rfl
  | _ => rfl

theorem elementsOf_plain (value : Value) :
    elementsOf (plainRequirements value) = (elementsOf value).map plainRequirement := by
  cases value <;> rfl

theorem requirementValues_plain (value : Value) :
    requirementValues (plainRecipe value) = (requirementValues value).map plainRequirement := by
  cases value with
  | table fields =>
    simp only [plainRecipe, requirementValues, List.filter_map, List.flatMap_map, List.map_flatMap,
      Function.comp_def, plainField_name]
    apply List.flatMap_congr
    intro field member
    rw [List.mem_filter, decide_eq_true_eq] at member
    rw [plainField, if_pos member.2]
    exact elementsOf_plain field.2
  | array elements =>
    cases elements with
    | nil => rfl
    | cons first rest => exact elementsOf_plain first
  | _ => rfl

theorem recipeValues_plain (entries : List (String × Value)) :
    recipeValues (plainSets entries) = (recipeValues entries).map plainRecipe := by
  have one (value : Value) : (entriesOf (plainSet value)).map (·.2) =
      ((entriesOf value).map (·.2)).map plainRecipe := by
    cases value with
    | table recipes => simp only [plainSet, entriesOf, List.map_map, Function.comp_def]
    | _ => rfl
  simp only [recipeValues, plainSets, List.flatMap_map, List.map_flatMap, one]

theorem recipeKeys_plain (entries : List (String × Value)) :
    recipeKeys (plainSets entries) = recipeKeys entries := by
  simp only [recipeKeys, recipeValues_plain, List.flatMap_map, keysOf_plainRecipe]

/-- Of the keys of requirements, those that are read stay. -/
theorem requirementKeys_plain (entries : List (String × Value)) :
    requirementKeys (plainSets entries) =
      (requirementKeys entries).filter (· ∈ ["item", "count"]) := by
  simp only [requirementKeys, recipeValues_plain, List.flatMap_map, requirementValues_plain,
    List.flatMap_assoc, List.filter_flatMap, keysOf_plainRequirement]

theorem WritesRecipe.keys {value : Value} {body : RecipeBody} (h : WritesRecipe value body) :
    ∀ key ∈ keysOf value, key ∈ ["requirements", "amount", "time"] := by
  cases h with
  | table known => exact known
  | array => simp [keysOf, entriesOf]

theorem WritesRecipe.requirement {value : Value} {body : RecipeBody} (h : WritesRecipe value body)
    (distinct : value.DistinctKeys) :
    ∀ r ∈ requirementValues value, ∃ requirement, WritesRequirement r requirement := by
  have listed {value : Value} {rs : List Requirement} (list : WritesList WritesRequirement value rs) :
      ∀ r ∈ elementsOf value, ∃ requirement, WritesRequirement r requirement := by
    obtain ⟨values, rfl, each⟩ := list
    exact exists_forall₂_iff.1 ⟨rs, each⟩
  intro r member
  cases h with
  | table _ requirements _ _ =>
    obtain ⟨field, there, inside⟩ := List.mem_flatMap.1 member
    rw [List.mem_filter, decide_eq_true_eq] at there
    obtain ⟨name, value⟩ := field
    obtain ⟨here, rfl⟩ := there
    exact listed (requirements.of_mem distinct.entries.1 here) r inside
  | array requirements _ _ => exact listed requirements r member

theorem WritesRequirement.item_mem {value : Value} {r : Requirement} (h : WritesRequirement value r)
    {fields : List (String × Value)} (written : value = .table fields) : "item" ∈ keysOf value := by
  cases h with
  | pair => cases written
  | table named _ => exact List.mem_map_of_mem named

end Schema

namespace Book
open Toml Schema

theorem Holds.recipe {book : Book} {entries : List (String × Value)} (holds : book.Holds entries) :
    ∀ value ∈ recipeValues entries, ∃ body, WritesRecipe value body := by
  intro value member
  obtain ⟨set, there, inside⟩ := List.mem_flatMap.1 member
  obtain ⟨result, -, writes⟩ := exists_forall₂_iff.1 ⟨_, holds⟩ set there
  obtain ⟨recipes, table, each⟩ := exists_writesSet_iff.1 ⟨_, writes⟩
  rw [table] at inside
  obtain ⟨recipe, written, rfl⟩ := List.mem_map.1 inside
  exact each recipe written

theorem distinctKeys_recipe {entries : List (String × Value)}
    (distinct : (Value.table entries).DistinctKeys) :
    ∀ value ∈ recipeValues entries, value.DistinctKeys := by
  intro value member
  obtain ⟨set, there, inside⟩ := List.mem_flatMap.1 member
  obtain ⟨recipe, written, rfl⟩ := List.mem_map.1 inside
  have own := distinct.entries.2 set there
  cases table : set.2 with
  | table recipes =>
    rw [table] at own written
    exact own.entries.2 recipe written
  | _ => simp [table, entriesOf] at written

/-- The keys of an accepted file: those of a recipe's table are all read. A requirement's table has
its item, and may have more keys than are read; without them the book is the same. -/
theorem surplus_keys_ignored {path text : String} {book : Book}
    (accepted : (parse path text).outcome = .ok book) :
    ∃ entries, Document.read? text = some entries ∧
      (∀ key ∈ recipeKeys entries, key ∈ ["requirements", "amount", "time"]) ∧
      (∀ recipe ∈ recipeValues entries, ∀ r ∈ requirementValues recipe, ∀ fields,
        r = .table fields → "item" ∈ keysOf r) ∧
      (ofTable path (plainSets entries)).outcome = .ok book ∧
      recipeKeys (plainSets entries) = recipeKeys entries ∧
      requirementKeys (plainSets entries) =
        (requirementKeys entries).filter (· ∈ ["item", "count"]) := by
  obtain ⟨entries, _, read, -⟩ := parse_eq_ok accepted
  have distinct := Document.distinctKeys_of_read? read
  rw [parse_eq_ofTable path read] at accepted
  have written := Holds.recipe ((ofTable_eq_ok_iff distinct).1 accepted)
  refine ⟨entries, read, ?_, ?_, ?_, recipeKeys_plain entries, requirementKeys_plain entries⟩
  · intro key member
    obtain ⟨recipe, there, inside⟩ := List.mem_flatMap.1 member
    obtain ⟨body, writes⟩ := written recipe there
    exact writes.keys key inside
  · intro recipe there r member fields table
    obtain ⟨body, writes⟩ := written recipe there
    obtain ⟨requirement, asked⟩ :=
      writes.requirement (distinctKeys_recipe distinct recipe there) r member
    exact asked.item_mem table
  · rw [ofTable, recipeSets_plain]
    exact accepted

/-- A count under a misspelt key. -/
def misspelt : String :=
  "[recipes.Brick]\nrequirements = [\x7bitem = \"Clay\", cuont = 3\x7d]\ntime = 1\n"

theorem misspelt_read : (Document.read? misspelt).map requirementKeys = some ["item", "cuont"] := by
  decide +kernel

theorem misspelt_accepted : (parse "recipes.toml" misspelt).outcome.toOption.map Book.sets =
    some [("recipes", [⟨"Brick", [⟨"Clay", 1⟩], 1, 1⟩])] := by
  decide +kernel

theorem surplus_keys_ignored_misspelt : ∃ entries book, Document.read? misspelt = some entries ∧
    (parse "recipes.toml" misspelt).outcome = .ok book ∧
    book.sets = [("recipes", [⟨"Brick", [⟨"Clay", 1⟩], 1, 1⟩])] ∧
    requirementKeys entries = ["item", "cuont"] ∧
    requirementKeys (plainSets entries) = ["item"] ∧
    (ofTable "recipes.toml" (plainSets entries)).outcome = .ok book := by
  obtain ⟨book, accepted, sets⟩ := Option.map_eq_some_iff.1 misspelt_accepted
  rw [toOption_eq_some_iff] at accepted
  obtain ⟨entries, read, -, -, same, -, kept⟩ := surplus_keys_ignored accepted
  have keys : requirementKeys entries = ["item", "cuont"] := by
    have all := misspelt_read
    rw [read] at all
    exact Option.some.inj all
  rw [keys] at kept
  exact ⟨entries, book, read, accepted, sets, keys, kept, same⟩

theorem keys_not_all_read : ¬ ∀ path text entries book,
    Document.read? text = some entries → (parse path text).outcome = .ok book →
      (∀ key ∈ recipeKeys entries, key ∈ ["requirements", "amount", "time"]) ∧
      ∀ key ∈ requirementKeys entries, key ∈ ["item", "count"] := by
  intro known
  obtain ⟨book, accepted, -⟩ := Option.map_eq_some_iff.1 misspelt_accepted
  obtain ⟨entries, read, keys⟩ := Option.map_eq_some_iff.1 misspelt_read
  have unknown := (known _ _ _ _ read (toOption_eq_some_iff.1 accepted)).2 "cuont"
  rw [keys] at unknown
  exact absurd (unknown (by decide)) (by decide)

end Book

end Craftbook
