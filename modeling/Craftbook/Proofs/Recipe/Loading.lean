import Craftbook.Load.Text
import Craftbook.Proofs.Schema.Recipes
import Craftbook.Proofs.Toml.RecipeFile

/-!
A recipe book from its text. Main statement: the recipes of a set stand in the order of their own
headers, each once.
-/
namespace Craftbook

namespace Schema
open Toml (Value)

/-- The time of a draft stays as it is where no entry of that name is read. -/
theorem time_of_absent {entries : List (String × Value)} (absent : "time" ∉ entries.map (·.1))
    {draft filled : RecipeDraft} (fills : fillByName recipeBody.fields draft entries = .ok filled) :
    filled.time = draft.time := by
  refine fillByName_keeps (fun field known there value draft filled done => ?_) fills
  simp only [recipeBody, List.mem_cons, List.not_mem_nil, or_false] at known
  rcases known with rfl | rfl | rfl
  · obtain ⟨_, -, rfl⟩ := Field.fill_of_eq_ok_iff.1 done
    rfl
  · obtain ⟨_, -, rfl⟩ := Field.fill_of_eq_ok_iff.1 done
    rfl
  · exact absurd there absent

theorem time_mem {entries : List (String × Value)} {body : RecipeBody}
    (h : recipeBody.ofEntries entries = .ok body) : "time" ∈ entries.map (·.1) := by
  by_contra absent
  obtain ⟨filled, fills, finish⟩ := bind_eq_ok_iff.1 h
  obtain ⟨-, -, given⟩ := finish_eq_ok_iff.1 finish
  cases given.symm.trans (time_of_absent absent fills)

theorem definition_table {name : String} {entries : List (String × Value)} {d : Definition}
    (h : definition name (.table entries) = .ok d) :
    d.name = trimmed name ∧ "time" ∈ entries.map (·.1) := by
  obtain ⟨body, read, last⟩ := bind_eq_ok_iff.1 h
  rw [← Except.ok.inj last]
  exact ⟨rfl, time_mem read⟩

end Schema

open Toml Toml.Draft Schema

/-- Recipes read from tables: each table has a header, and its name is that of the recipe. -/
theorem names_of_definitions {entries : Entries} {recipes : List Definition}
    (each : ∀ entry ∈ entries, RecipeTable entry.2)
    (read : definitions (.table (entriesValue entries)) = .ok recipes) :
    headedKeys entries = entries.map (·.1) ∧
      recipes.map (·.name) = (entries.map (·.1)).map trimmed := by
  rw [entriesValue_eq] at read
  have pairs := mapM_eq_ok_iff.1 read
  rw [List.forall₂_map_left_iff] at pairs
  clear read
  induction pairs with
  | nil => exact ⟨rfl, rfl⟩
  | @cons entry recipe entries recipes first _ ih =>
    rw [List.forall_mem_cons] at each
    obtain ⟨headed, names⟩ := ih each.2
    obtain ⟨name, draft⟩ := entry
    cases each.1 with
    | headed sub =>
      rw [List.map_cons, List.map_cons, List.map_cons, names, (definition_table first).1,
        headedKeys_cons, headed]
      exact ⟨rfl, rfl⟩
    | implied sub only =>
      -- Without a header of its own a table has requirements alone, and a recipe needs a time.
      have timed : "time" ∈ (entriesValue sub).map (·.1) := (definition_table first).2
      rw [keys_entriesValue] at timed
      exact absurd (only "time" timed) (by decide)

theorem names_of_recipeSets {root : Entries} {sets : List (String × List Definition)}
    (tables : SetTables root) (read : recipeSets (entriesValue root) = .ok sets) :
    sets.map (·.1) = root.map (·.1) ∧ ∀ set,
      headedKeys (inside set root) = (inside set root).map (·.1) ∧
        ((sets.lookup set).getD []).map (·.name) = ((inside set root).map (·.1)).map trimmed := by
  rw [entriesValue_eq] at read
  have pairs : List.Forall₂ (fun (x : String × Draft) y => x.1 = y.1 ∧
      definitions x.2.toValue = .ok y.2) root sets := by
    have each := mapM_eq_ok_iff.1 read
    rw [List.forall₂_map_left_iff] at each
    refine each.imp fun entry result h => ?_
    obtain ⟨recipes, done, last⟩ := bind_eq_ok_iff.1 h
    rw [← Except.ok.inj last]
    exact ⟨rfl, done⟩
  have keys := keys_forall₂ (R := fun (x : Draft) y => definitions x.toValue = .ok y) pairs
  refine ⟨keys.symm, fun set => ?_⟩
  cases found : sets.lookup set with
  | none =>
    have absent : root.lookup set = none := by
      rw [lookup_eq_none_iff_keys, keys, ← lookup_eq_none_iff_keys, found]
    rw [inside, absent]
    exact ⟨rfl, rfl⟩
  | some recipes =>
    obtain ⟨draft, there, done⟩ :=
      lookup_forall₂ (R := fun (x : Draft) y => definitions x.toValue = .ok y) pairs found
    obtain ⟨entries, is, own⟩ := tables.each _ (mem_of_lookup there)
    cases is
    rw [inside, there]
    exact names_of_definitions own.each done

namespace Book

theorem insertAll_new (book : Book) {sets : List (String × List Definition)}
    (distinct : ((book.sets ++ sets).map (·.1)).Nodup) :
    ∃ result, (book.insertAll sets : Traced ε Book).outcome = .ok result ∧
      result.sets = book.sets ++ sets := by
  induction sets generalizing book with
  | nil => exact ⟨book, rfl, (List.append_nil _).symm⟩
  | cons set rest ih =>
    obtain ⟨key, recipes⟩ := set
    have new : key ∉ book.sets.map (·.1) := by
      rw [List.map_append, List.nodup_append] at distinct
      exact fun there => distinct.2.2 key there key (by simp) rfl
    rw [List.append_cons] at distinct ⊢
    obtain ⟨result, done, is⟩ :=
      ih ⟨book.sets ++ [(key, recipes)], nodup_append book.nodupKeys new⟩ distinct
    refine ⟨result, ?_, is⟩
    rw [insertAll, Traced.outcome_bind, insert, dif_neg new]
    exact done

theorem parse_eq_ok {path text : String} {book : Book}
    (h : (parse path text).outcome = .ok book) :
    ∃ entries sets, Document.read? text = some entries ∧ recipeSets entries = .ok sets ∧
      (empty.insertAll sets : Traced LoadError Book).outcome = .ok book := by
  rw [parse, Traced.outcome_bind, Traced.outcome_ofExcept] at h
  obtain ⟨sets, read, filled⟩ := bind_eq_ok_iff.1 h
  obtain ⟨entries, found, schema⟩ := parse_eq_ok_iff_read.1 read
  exact ⟨entries, sets, found, schema, filled⟩

/-- The recipes of a set are those that the file names, each once and in the order of their own
headers; this is the order of first mention if no requirement stands before its recipe. -/
theorem names_in_header_order {path text : String} {statements : List Statement} {book : Book}
    (read : Document.statements? text = some statements) (file : RecipeFile statements)
    (accepted : (parse path text).outcome = .ok book) (set : String) :
    ((book.get? set).getD []).map (·.name) =
      (RecipeFile.headers statements set).map trimmed ∧
    (RecipeFile.headers statements set).Nodup ∧
    (RecipeFile.headers statements set).Perm (RecipeFile.firstMentions statements set) ∧
    (RecipeFile.HeadersLead statements set →
      RecipeFile.headers statements set = RecipeFile.firstMentions statements set) := by
  obtain ⟨entries, sets, found, recipes, filled⟩ := parse_eq_ok accepted
  rw [Document.read?_eq, read, Option.bind_some] at found
  obtain ⟨root, rfl, tables, tracks⟩ := file.tracked found
  obtain ⟨keys, names⟩ := names_of_recipeSets tables recipes
  have whole : book.sets = sets := by
    have distinct : ((empty.sets ++ sets).map (·.1)).Nodup := by
      rw [empty, List.nil_append, keys]
      exact tables.distinct
    obtain ⟨result, done, is⟩ := insertAll_new (ε := LoadError) empty distinct
    rw [filled] at done
    cases done
    exact is
  obtain ⟨headed, named⟩ := tracks set
  obtain ⟨all, is⟩ := names set
  have distinct : (RecipeFile.headers statements set).Nodup := by
    rw [← headed, all]
    exact (tables.inside set).distinct
  refine ⟨?_, distinct, ?_, fun lead => RecipeFile.headers_eq_firstMentions lead distinct⟩
  · rw [get?, whole, is, ← all, headed]
  · apply (List.perm_ext_iff_of_nodup distinct (eraseDups_nodup _)).2
    intro name
    rw [← headed, all]
    exact named name

/-- A set in which the header of each recipe leads. -/
def windows : String :=
  "[recipes.Pane]\ntime = 1\n[recipes.Brick]\ntime = 1\n" ++
    "[[recipes.Brick.requirements]]\nitem = \"Clay\"\n"

theorem names_in_header_order_windows :
    ∃ statements book, Document.statements? windows = some statements ∧ RecipeFile statements ∧
      RecipeFile.HeadersLead statements "recipes" ∧
      (parse "recipes.toml" windows).outcome = .ok book ∧
        ((book.get? "recipes").getD []).map (·.name) =
          (RecipeFile.firstMentions statements "recipes").map trimmed := by
  have shape : ∃ statements ∈ Document.statements? windows,
      RecipeFile statements ∧ RecipeFile.HeadersLead statements "recipes" := by decide +kernel
  have accepted : (parse "recipes.toml" windows).outcome.toOption.isSome := by decide +kernel
  obtain ⟨statements, read, file, lead⟩ := shape
  obtain ⟨book, loaded⟩ := Option.isSome_iff_exists.1 accepted
  rw [toOption_eq_some_iff] at loaded
  obtain ⟨names, -, -, leads⟩ := names_in_header_order read file loaded "recipes"
  exact ⟨statements, book, read, file, lead, loaded, by rw [names, leads lead]⟩

/-- A requirement that stands before other recipes, and before the header of its own. -/
def earlyBrick : String :=
  "[[recipes.Brick.requirements]]\nitem = \"Clay\"\n" ++
    "[recipes.Pane]\ntime = 1\n[recipes.Brick]\ntime = 1\n"

theorem names_not_in_mention_order : ¬ ∀ path text statements book set,
    Document.statements? text = some statements → RecipeFile statements →
      (parse path text).outcome = .ok book →
        ((book.get? set).getD []).map (·.name) =
          (RecipeFile.firstMentions statements set).map trimmed := by
  intro order
  have shape : ∃ statements ∈ Document.statements? earlyBrick, RecipeFile statements ∧
      (RecipeFile.firstMentions statements "recipes").map trimmed = ["Brick", "Pane"] := by
    decide +kernel
  have loaded : (parse "recipes.toml" earlyBrick).outcome.toOption.map
      (fun book => ((book.get? "recipes").getD []).map (·.name)) = some ["Pane", "Brick"] := by
    decide +kernel
  obtain ⟨statements, read, file, mentions⟩ := shape
  obtain ⟨book, accepted, names⟩ := Option.map_eq_some_iff.1 loaded
  have same := order _ _ _ _ "recipes" read file (toOption_eq_some_iff.1 accepted)
  rw [mentions, names] at same
  exact absurd same (by decide)

end Book

end Craftbook
