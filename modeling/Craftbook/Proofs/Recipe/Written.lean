import Craftbook.Proofs.Recipe.Loading
import Craftbook.Proofs.Toml.DocumentTree

/-!
The recipe file as a whole. Main statement: a document is accepted exactly if each of its entries is
a table of recipes, and the book then holds what is written, set by set and recipe by recipe.
-/
namespace Craftbook.Book
open Toml Schema

/-- The book of a document's table. -/
def ofTable (path : String) (entries : List (String × Value)) : Traced LoadError Book := do
  empty.insertAll
    (← Traced.ofExcept ((recipeSets entries).mapError fun m => .parse path (.mismatch m)))

theorem parse_eq_ofTable (path : String) {text : String} {entries : List (String × Value)}
    (read : Document.read? text = some entries) : parse path text = ofTable path entries := by
  rw [parse, Craftbook.parse, read]
  rfl

/-- A document's entries against the sets of a book: keys, and recipes one by one. -/
def Holds (book : Book) (entries : List (String × Value)) : Prop :=
  List.Forall₂ (fun entry set => entry.1 = set.1 ∧ WritesSet entry.2 set.2) entries book.sets

theorem ext_sets {book book' : Book} (same : book.sets = book'.sets) : book = book' := by
  cases book
  cases same
  rfl

theorem insertAll_sets (book : Book) :
    (empty.insertAll book.sets : Traced LoadError Book).outcome = .ok book := by
  have distinct : ((empty.sets ++ book.sets).map (·.1)).Nodup := book.nodupKeys
  obtain ⟨result, done, is⟩ := insertAll_new (ε := LoadError) empty distinct
  rw [done, ext_sets is]

theorem nodup_of_recipeSets {entries : List (String × Value)}
    (distinct : (Value.table entries).DistinctKeys) {sets : List (String × List Definition)}
    (read : recipeSets entries = .ok sets) : (sets.map (·.1)).Nodup := by
  have written := (recipeSets_iff distinct).1 read
  rw [← keys_forall₂ (R := fun value recipes => WritesSet value recipes) written]
  exact distinct.entries.1

theorem ofTable_eq_ok_iff {path : String} {entries : List (String × Value)}
    (distinct : (Value.table entries).DistinctKeys) {book : Book} :
    (ofTable path entries).outcome = .ok book ↔ book.Holds entries := by
  rw [ofTable, Traced.outcome_bind, Traced.outcome_ofExcept, bind_eq_ok_iff, Holds,
    ← recipeSets_iff distinct]
  refine ⟨?_, fun read => ⟨book.sets, mapError_eq_ok_iff.2 read, insertAll_sets book⟩⟩
  rintro ⟨sets, read, filled⟩
  rw [mapError_eq_ok_iff] at read
  have keys := nodup_of_recipeSets distinct read
  obtain rfl : ⟨sets, keys⟩ = book :=
    Except.ok.inj ((insertAll_sets ⟨sets, keys⟩).symm.trans filled)
  exact read

theorem exists_writesSet_iff {value : Value} : (∃ recipes, WritesSet value recipes) ↔
    ∃ entries, value = .table entries ∧ ∀ entry ∈ entries, ∃ body, WritesRecipe entry.2 body := by
  have named (entry : String × Value) :
      (∃ d, WritesDefinition entry d) ↔ ∃ body, WritesRecipe entry.2 body :=
    ⟨fun ⟨_, h⟩ => ⟨_, h.body⟩, fun ⟨body, h⟩ =>
      ⟨⟨trimmed entry.1, body.requirements, body.amount, body.time⟩, rfl, h⟩⟩
  simp only [WritesSet, ← named, ← exists_forall₂_iff]
  grind

theorem exists_holds_iff {entries : List (String × Value)}
    (distinct : (entries.map (·.1)).Nodup) : (∃ book : Book, book.Holds entries) ↔
      ∀ set ∈ entries, ∃ recipes, WritesSet set.2 recipes := by
  refine ⟨fun ⟨book, holds⟩ set member => ?_, fun each => ?_⟩
  · obtain ⟨result, -, writes⟩ := exists_forall₂_iff.1 ⟨_, holds⟩ set member
    exact ⟨result.2, writes⟩
  · obtain ⟨sets, written⟩ := exists_forall₂_iff.2 fun set member =>
      let ⟨recipes, writes⟩ := each set member
      (⟨(set.1, recipes), rfl, writes⟩ : ∃ result : String × List Definition,
        set.1 = result.1 ∧ WritesSet set.2 result.2)
    rw [keys_forall₂ (R := fun value recipes => WritesSet value recipes) written] at distinct
    exact ⟨⟨sets, distinct⟩, written⟩

/-- A book is loaded exactly from a table of tables of recipes, and it holds all that is written
there and nothing else. The tables of a text name each entry once. -/
theorem loaded_iff_written (path : String) :
    (∀ entries : List (String × Value), (Value.table entries).DistinctKeys →
      ((∃ book, (ofTable path entries).outcome = .ok book) ↔
        ∀ set ∈ entries, ∃ recipes, set.2 = .table recipes ∧
          ∀ recipe ∈ recipes, ∃ body, WritesRecipe recipe.2 body) ∧
      ∀ book, (ofTable path entries).outcome = .ok book →
        book.keys = entries.map (·.1) ∧ book.Holds entries) ∧
    ∀ text book, (parse path text).outcome = .ok book ↔
      ∃ entries, Document.read? text = some entries ∧ (Value.table entries).DistinctKeys ∧
        (ofTable path entries).outcome = .ok book := by
  refine ⟨fun entries distinct => ⟨?_, fun book h => ?_⟩, fun text book => ⟨fun h => ?_, ?_⟩⟩
  · simp only [ofTable_eq_ok_iff distinct, exists_holds_iff distinct.entries.1, exists_writesSet_iff]
  · have holds := (ofTable_eq_ok_iff distinct).1 h
    exact ⟨(keys_forall₂ (R := fun value recipes => WritesSet value recipes) holds).symm, holds⟩
  · obtain ⟨entries, _, read, -⟩ := parse_eq_ok h
    rw [parse_eq_ofTable path read] at h
    exact ⟨entries, read, Document.distinctKeys_of_read? read, h⟩
  · rintro ⟨entries, read, -, h⟩
    rwa [parse_eq_ofTable path read]

/-- A recipe under a padded name, with a time in whole seconds, a negative count and one left out. -/
def bricks : String :=
  "[smelting.\" Brick\\t\"]\nrequirements = [[\"Clay\", -2], \x7bitem = \"Sand\"\x7d]\ntime = 3\n"

theorem loaded_iff_written_bricks :
    ∃ entries book, Document.read? bricks = some entries ∧ (Value.table entries).DistinctKeys ∧
      (parse "recipes.toml" bricks).outcome = .ok book ∧
      book.sets = [("smelting", [⟨"Brick", [⟨"Clay", -2⟩, ⟨"Sand", 1⟩], 1, 3⟩])] ∧
      book.Holds entries := by
  have loaded : (parse "recipes.toml" bricks).outcome.toOption.map Book.sets =
      some [("smelting", [⟨"Brick", [⟨"Clay", -2⟩, ⟨"Sand", 1⟩], 1, 3⟩])] := by decide +kernel
  obtain ⟨book, accepted, sets⟩ := Option.map_eq_some_iff.1 loaded
  rw [toOption_eq_some_iff] at accepted
  obtain ⟨trees, texts⟩ := loaded_iff_written "recipes.toml"
  obtain ⟨entries, read, distinct, done⟩ := (texts bricks book).1 accepted
  exact ⟨entries, book, read, distinct, accepted, sets, ((trees entries distinct).2 book done).2⟩

end Craftbook.Book
