import Craftbook.Proofs.Recipe.Written
import Craftbook.Proofs.Repeats

/-!
Recipe books as maps. Main statement: a book has its keys in the order in which they first came, and
under each what came last; a key that comes again is reported, which no file can bring about.
-/
namespace Craftbook.Book
open Schema

/-- What an insertion does: a new key goes last, and one that is there keeps its place, which is
reported. Its recipes are the given ones, and no other set is touched. -/
structure Inserts (book : Book) (key : String) (recipes : List Definition) (next : Book)
    (events : List Event) : Prop where
  keys : next.keys = if key ∈ book.keys then book.keys else book.keys ++ [key]
  here : next.get? key = some recipes
  elsewhere : ∀ other ≠ key, next.get? other = book.get? other
  events : events = if key ∈ book.keys then [.setReplaced key] else []

theorem insert_inserts (book : Book) (key : String) (recipes : List Definition) :
    ∃ next events, (book.insert key recipes : Traced ε Book) = ⟨.ok next, events⟩ ∧
      book.Inserts key recipes next events := by
  unfold insert
  split
  · rename_i there
    have present : key ∈ book.keys := there
    refine ⟨_, [.setReplaced key], rfl, ?_, ?_, fun other apart => ?_, (if_pos present).symm⟩
    · rw [if_pos present, keys, keys_replace, keys]
    · exact lookup_replace_self recipes there
    · exact lookup_replace_other recipes book.sets apart
  · rename_i new
    have absent : key ∉ book.keys := new
    have none : book.sets.lookup key = none := lookup_eq_none_iff_keys.2 new
    refine ⟨_, [], rfl, ?_, ?_, fun other apart => ?_, (if_neg absent).symm⟩
    · rw [if_neg absent, keys, List.map_append, keys]
      rfl
    · rw [get?, List.lookup_append, none]
      simp
    · have unlike : (other == key) = false := beq_eq_false_iff_ne.2 apart
      simp only [get?, List.lookup_append, List.lookup_cons, unlike, List.lookup_nil,
        Option.or_none]

theorem insertAll_concat (book : Book) (sets : List (String × List Definition))
    (set : String × List Definition) :
    (book.insertAll (sets ++ [set]) : Traced ε Book) =
      book.insertAll sets >>= fun last => last.insert set.1 set.2 := by
  obtain ⟨key, recipes⟩ := set
  induction sets generalizing book with
  | nil => simp [insertAll]
  | cons first rest ih =>
    obtain ⟨key', recipes'⟩ := first
    simp [insertAll, ih]

/-- A book that sets were put in, one after the other: each key once, in the order in which the keys
first came, and under it the recipes that came last. -/
structure MadeOf (book : Book) (sets : List (String × List Definition)) : Prop where
  keys : book.keys = (sets.map (·.1)).eraseDups
  get : ∀ key, book.get? key = sets.reverse.lookup key

theorem Inserts.madeOf {book next : Book} {sets : List (String × List Definition)} {key : String}
    {recipes : List Definition} {events : List Event}
    (h : book.Inserts key recipes next events) (before : book.MadeOf sets) :
    next.MadeOf (sets ++ [(key, recipes)]) := by
  refine ⟨?_, fun other => ?_⟩
  · rw [h.keys, before.keys, List.map_append, List.map_singleton, eraseDups_concat]
    simp only [List.mem_eraseDups]
  · rw [List.reverse_concat, List.lookup_cons]
    by_cases same : other = key
    · simp [same, h.here]
    · have apart : (other == key) = false := beq_eq_false_iff_ne.2 same
      rw [apart, h.elsewhere other same, before.get]

theorem insertAll_eq (sets : List (String × List Definition)) :
    ∃ book, (empty.insertAll sets : Traced ε Book) =
        ⟨.ok book, (repeats (sets.map (·.1))).map .setReplaced⟩ ∧ book.MadeOf sets := by
  induction sets using List.reverseRecOn with
  | nil => exact ⟨empty, rfl, rfl, fun _ => rfl⟩
  | append_singleton sets set ih =>
    obtain ⟨book, run, made⟩ := ih
    obtain ⟨next, events, step, inserts⟩ := book.insert_inserts (ε := ε) set.1 set.2
    have reported : events =
        (if set.1 ∈ sets.map (·.1) then [set.1] else []).map .setReplaced := by
      rw [inserts.events, made.keys]
      simp only [List.mem_eraseDups]
      split <;> rfl
    refine ⟨next, ?_, inserts.madeOf made⟩
    rw [insertAll_concat, run, Traced.ok_bind, step, reported, List.map_append, List.map_singleton,
      repeats_concat, List.map_append]

theorem MadeOf.get_eq_none_iff {book : Book} {sets : List (String × List Definition)}
    (h : book.MadeOf sets) {key : String} : book.get? key = none ↔ key ∉ sets.map (·.1) := by
  rw [h.get, lookup_eq_none_iff_keys, List.map_reverse, List.mem_reverse]

theorem MadeOf.size {book : Book} {sets : List (String × List Definition)} (h : book.MadeOf sets) :
    book.size = (sets.map (·.1)).toFinset.card := by
  rw [← length_eraseDups, ← h.keys, Book.size, Book.keys, List.length_map]

/-- No key comes again in a file. -/
theorem events_parse (path text : String) : (parse path text).events = [] := by
  cases read : Craftbook.parse path text recipeSets with
  | error e => rw [parse, read, Traced.ofExcept, Traced.events_bind_error rfl]
  | ok sets =>
    obtain ⟨entries, document, schema⟩ := parse_eq_ok_iff_read.1 read
    have distinct := nodup_of_recipeSets (Toml.Document.distinctKeys_of_read? document) schema
    obtain ⟨book, run, -⟩ := insertAll_eq (ε := LoadError) sets
    rw [parse, read, Traced.ofExcept, Traced.ok_bind, run, repeats_eq_nil distinct]
    rfl

/-- A book is a map in the order of insertion: a key keeps the place where it first came and has the
recipes that came last, and an insertion is reported exactly if it replaces some. Loading a file
replaces none. -/
theorem sets_inserted (ε : Type) :
    (∀ (book : Book) (key : String) (recipes : List Definition), ∃ next events,
      (book.insert key recipes : Traced ε Book) = ⟨.ok next, events⟩ ∧
        book.Inserts key recipes next events) ∧
    (∀ sets : List (String × List Definition), ∃ book,
      (empty.insertAll sets : Traced ε Book) =
          ⟨.ok book, (repeats (sets.map (·.1))).map .setReplaced⟩ ∧
        book.MadeOf sets ∧ book.keys.Nodup ∧
        (∀ key, book.get? key = none ↔ key ∉ sets.map (·.1)) ∧
        book.size = (sets.map (·.1)).toFinset.card) ∧
    ∀ path text, (parse path text).events = [] := by
  refine ⟨insert_inserts, fun sets => ?_, events_parse⟩
  obtain ⟨book, run, made⟩ := insertAll_eq (ε := ε) sets
  exact ⟨book, run, made, book.nodupKeys, fun _ => made.get_eq_none_iff, made.size⟩

/-- A set that comes again is replaced where it stands. -/
example : (empty.insertAll [("a", []), ("b", []), ("a", [⟨"Brick", [], 1, 1⟩])] :
    Traced LoadError Book).outcome.toOption.map Book.sets =
      some [("a", [⟨"Brick", [], 1, 1⟩]), ("b", [])] := by
  decide +kernel

end Craftbook.Book
