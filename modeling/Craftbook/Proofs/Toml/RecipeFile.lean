import Craftbook.Proofs.Repeats
import Craftbook.Proofs.Toml.Tables

/-!
The tables of a recipe file while its sections are read. Main statement: the recipes of a set that
have a header stand in the order of their headers, whatever else was said of them before.
-/
namespace Craftbook.Toml
open Draft

def Document.statements? (text : String) : Option (List Statement) :=
  let s := withoutMark text.toList
  Statement.readAll? (s.length + 1) s

theorem Document.read?_eq (text : String) : read? text = (statements? text).bind ofStatements? := rfl

/-- A statement of a recipe file: the header of a recipe, the header of one of its requirements, or a
key with its value. -/
def Statement.OfRecipe : Statement → Prop
  | .header key => key.parents.length = 1
  | .arrayHeader key => key.parents.length = 2 ∧ key.last = "requirements"
  | .pair _ _ => True

instance : DecidablePred Statement.OfRecipe
  | .header key => inferInstanceAs (Decidable (key.parents.length = 1))
  | .arrayHeader key =>
    inferInstanceAs (Decidable (key.parents.length = 2 ∧ key.last = "requirements"))
  | .pair _ _ => .isTrue trivial

/-- The recipe of a set whose header a statement is. -/
def Statement.headed? (set : String) : Statement → Option String
  | .header ⟨[parent], name⟩ => if parent = set then some name else none
  | _ => none

/-- The recipe of a set that a statement names, by its own header or by that of a requirement. -/
def Statement.named? (set : String) : Statement → Option String
  | .header ⟨[parent], name⟩ | .arrayHeader ⟨[parent, name], _⟩ =>
    if parent = set then some name else none
  | _ => none

theorem Statement.named?_of_headed? {set name : String} {statement : Statement}
    (h : statement.headed? set = some name) : statement.named? set = some name := by
  unfold headed? at h
  split at h
  · exact h
  · cases h

def Section.heading (s : Section) : Statement :=
  if s.element then .arrayHeader s.key else .header s.key

/-- What headings alone say, the headings of the sections say. -/
theorem filterMap_headings {f : Statement → Option α} (pairs : ∀ key value, f (.pair key value) = none)
    (statements : List Statement) :
    ((sections statements).2.map Section.heading).filterMap f = statements.filterMap f := by
  induction statements with
  | nil => rfl
  | cons statement rest ih =>
    cases statement with
    | pair key value => rw [sections, List.filterMap_cons, pairs, ← ih]
    | header key => rw [sections, List.map_cons, List.filterMap_cons, List.filterMap_cons, ← ih]; rfl
    | arrayHeader key =>
      rw [sections, List.map_cons, List.filterMap_cons, List.filterMap_cons, ← ih]; rfl

theorem heading_mem {statements : List Statement} {s : Section} (h : s ∈ (sections statements).2) :
    s.heading ∈ statements := by
  induction statements with
  | nil => cases h
  | cons statement rest ih =>
    cases statement with
    | pair key value => exact List.mem_cons_of_mem _ (ih h)
    | header key =>
      rcases List.mem_cons.1 h with rfl | later
      · exact List.mem_cons_self
      · exact List.mem_cons_of_mem _ (ih later)
    | arrayHeader key =>
      rcases List.mem_cons.1 h with rfl | later
      · exact List.mem_cons_self
      · exact List.mem_cons_of_mem _ (ih later)

/-- What the tables say of the headings read so far: the recipes with a header in the order of their
headers, and no recipe that no heading names. -/
structure Tracks (root : Entries) (headings : List Statement) : Prop where
  tables : SetTables root
  headed : ∀ set, headedKeys (inside set root) = headings.filterMap (·.headed? set)
  named : ∀ set name, name ∈ (inside set root).map (·.1) ↔ name ∈ headings.filterMap (·.named? set)

theorem Tracks.nil : Tracks [] [] where
  tables := ⟨.nil, by simp⟩
  headed _ := rfl
  named _ _ := Iff.rfl

/-- A heading that concerns one set alone. -/
theorem Tracks.within {root root' : Entries} {headings : List Statement} (h : Tracks root headings)
    {heading : Statement} {set : String} (tables : SetTables root')
    (headed : headedKeys (inside set root') =
      headedKeys (inside set root) ++ (heading.headed? set).toList)
    (named : ∀ name, name ∈ (inside set root').map (·.1) ↔
      name ∈ (inside set root).map (·.1) ∨ heading.named? set = some name)
    (others : ∀ other, other ≠ set → inside other root' = inside other root ∧
      heading.headed? other = none ∧ heading.named? other = none) :
    Tracks root' (headings ++ [heading]) where
  tables := tables
  headed other := by
    rw [List.filterMap_append, ← h.headed]
    by_cases same : other = set
    · subst same
      rw [headed]
      cases is : heading.headed? other <;> simp [is]
    · obtain ⟨alike, none, -⟩ := others other same
      simp [alike, none]
  named other name := by
    rw [List.filterMap_append, List.mem_append, ← h.named]
    by_cases same : other = set
    · subst same
      rw [named]
      simp
    · obtain ⟨alike, -, none⟩ := others other same
      simp [alike, none]

theorem Tracks.step {root root' : Entries} {headings : List Statement} (h : Tracks root headings)
    {s : Section} (shape : s.heading.OfRecipe) (done : s.addTo root = some root') :
    Tracks root' (headings ++ [s.heading]) := by
  obtain ⟨⟨parents, last⟩, element, pairs⟩ := s
  cases element with
  | false =>
    obtain ⟨set, rfl⟩ := List.length_eq_one_iff.1 shape
    obtain ⟨changed, change, tables, is, others⟩ := h.tables.descend done
    have added : addTable last pairs .supertable (inside set root) = some changed := change
    obtain ⟨recipes, headed, named⟩ := RecipeTables.addTable (h.tables.inside set) added
    refine h.within (tables recipes) ?_ ?_ fun other apart => ⟨others other apart, ?_⟩
    · rw [is, headed]
      simp [Section.heading, Statement.headed?]
    · intro name
      rw [is, named]
      simp [Section.heading, Statement.named?, eq_comm]
    · simp [Section.heading, Statement.headed?, Statement.named?, apart.symm]
  | true =>
    obtain ⟨two, rfl⟩ := shape
    obtain ⟨set, name, rfl⟩ := List.length_eq_two.1 two
    obtain ⟨changed, change, tables, is, others⟩ := h.tables.descend done
    obtain ⟨recipes, headed, named⟩ := (h.tables.inside set).addRequirement change
    refine h.within (tables recipes) ?_ ?_ fun other apart => ⟨others other apart, ?_⟩
    · rw [is, headed]
      simp [Section.heading, Statement.headed?]
    · intro key
      rw [is, named]
      simp [Section.heading, Statement.named?, eq_comm]
    · simp [Section.heading, Statement.headed?, Statement.named?, apart.symm]

theorem Tracks.run {sections : List Section} {root root' : Entries} {headings : List Statement}
    (h : Tracks root headings) (shape : ∀ s ∈ sections, s.heading.OfRecipe)
    (done : sections.foldlM Section.addTo root = some root') :
    Tracks root' (headings ++ sections.map Section.heading) := by
  induction sections generalizing root headings with
  | nil =>
    cases done
    simpa using h
  | cons s rest ih =>
    rw [List.foldlM_cons, Option.bind_eq_bind, Option.bind_eq_some_iff] at done
    obtain ⟨next, first, later⟩ := done
    rw [List.forall_mem_cons] at shape
    have ran := ih (h.step shape.1 first) shape.2 later
    rwa [List.append_assoc] at ran

/-- A recipe file has headers of recipes and of their requirements, and no pair before the first. -/
structure RecipeFile (statements : List Statement) : Prop where
  each : ∀ statement ∈ statements, statement.OfRecipe
  start : (sections statements).1 = []

instance (statements : List Statement) : Decidable (RecipeFile statements) :=
  decidable_of_iff ((∀ statement ∈ statements, statement.OfRecipe) ∧ (sections statements).1 = [])
    ⟨fun h => ⟨h.1, h.2⟩, fun h => ⟨h.each, h.start⟩⟩

namespace RecipeFile

/-- The recipes of a set that have a header, in the order of their headers. -/
def headers (statements : List Statement) (set : String) : List String :=
  statements.filterMap (·.headed? set)

/-- The recipes of a set in the order in which the headings first name them. -/
def firstMentions (statements : List Statement) (set : String) : List String :=
  (statements.filterMap (·.named? set)).eraseDups

/-- No requirement stands before the header of its recipe. -/
def HeadersLead (statements : List Statement) (set : String) : Prop :=
  ∀ i < statements.length, ∀ name ∈ statements[i]?.bind (·.named? set),
    name ∈ headers (statements.take (i + 1)) set

instance (statements : List Statement) (set : String) : Decidable (HeadersLead statements set) :=
  inferInstanceAs (Decidable (∀ i < statements.length, _))

theorem HeadersLead.earlier {statements more : List Statement} {set : String}
    (lead : HeadersLead (statements ++ more) set) : HeadersLead statements set := by
  intro i inside name mention
  have longer := lead i (by rw [List.length_append]; omega) name
  rw [List.getElem?_append_left inside, List.take_append_of_le_length (by omega)] at longer
  exact longer mention

theorem HeadersLead.last {statements : List Statement} {last : Statement} {set name : String}
    (lead : HeadersLead (statements ++ [last]) set) (mention : last.named? set = some name) :
    name ∈ headers (statements ++ [last]) set := by
  have whole := lead statements.length (by simp) name
  rw [List.getElem?_concat_length, List.take_of_length_le (by simp)] at whole
  exact whole mention

/-- Where headers lead, their order is that of the first mentions. -/
theorem headers_eq_firstMentions {statements : List Statement} {set : String}
    (lead : HeadersLead statements set) (distinct : (headers statements set).Nodup) :
    headers statements set = firstMentions statements set := by
  -- From the end, since whether a mention is the first depends on what stands before it.
  induction statements using List.reverseRecOn with
  | nil => rfl
  | append_singleton earlier last ih =>
    have apart : headers (earlier ++ [last]) set =
        headers earlier set ++ [last].filterMap (·.headed? set) := List.filterMap_append
    have leads : ∀ name, last.named? set = some name → name ∈ headers (earlier ++ [last]) set :=
      fun _ => lead.last
    rw [apart] at distinct leads
    have same := ih lead.earlier (List.nodup_append.1 distinct).1
    rw [apart, firstMentions, List.filterMap_append]
    cases header : last.headed? set with
    | some name =>
      have new : name ∉ earlier.filterMap (·.named? set) := by
        rw [← List.mem_eraseDups, ← firstMentions, ← same]
        intro there
        exact (List.nodup_append.1 distinct).2.2 name there name (by simp [header]) rfl
      simp only [List.filterMap_cons, header, Statement.named?_of_headed? header, List.filterMap_nil]
      rw [eraseDups_concat, if_neg new, same, firstMentions]
    | none =>
      cases mention : last.named? set with
      | none => simp [header, mention, same, firstMentions]
      | some name =>
        have seen : name ∈ earlier.filterMap (·.named? set) := by
          rw [← List.mem_eraseDups, ← firstMentions, ← same]
          simpa [header] using leads name mention
        simp only [List.filterMap_cons, header, mention, List.filterMap_nil, List.append_nil]
        rw [eraseDups_concat, if_pos seen, same, firstMentions]

theorem tracked {statements : List Statement} (file : RecipeFile statements)
    {entries : List (String × Value)} (done : Document.ofStatements? statements = some entries) :
    ∃ root, entries = entriesValue root ∧ SetTables root ∧
      ∀ set, headedKeys (inside set root) = headers statements set ∧
        ∀ name, name ∈ (inside set root).map (·.1) ↔ name ∈ firstMentions statements set := by
  simp only [Document.ofStatements?, file.start, addPairs, Option.bind_eq_bind, Option.bind_some,
    Option.bind_eq_some_iff] at done
  obtain ⟨root, done, last⟩ := done
  have tracks := Tracks.nil.run (fun s there => file.each _ (heading_mem there)) done
  rw [List.nil_append] at tracks
  refine ⟨root, (Option.some.inj last).symm, tracks.tables, fun set => ⟨?_, fun name => ?_⟩⟩
  · rw [tracks.headed, filterMap_headings (fun _ _ => rfl), headers]
  · rw [tracks.named, filterMap_headings (fun _ _ => rfl), firstMentions, List.mem_eraseDups]

end RecipeFile

end Craftbook.Toml
