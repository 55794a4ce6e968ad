import Craftbook.Proofs.Toml.Draft

/-!
The tables of a recipe file under construction. Main statements: what the header of a recipe and the
header of a requirement do to the recipes of a set, and that a step inside a set touches no other.
-/
namespace Craftbook.Toml.Draft

/-- Entries with different keys that are all of one kind. -/
structure Each (P : Draft → Prop) (entries : Entries) : Prop where
  distinct : (entries.map (·.1)).Nodup
  each : ∀ entry ∈ entries, P entry.2

namespace Each

variable {P : Draft → Prop} {entries : Entries}

theorem nil : Each P [] := ⟨.nil, by simp⟩

theorem lookup (h : Each P entries) {key : String} {draft : Draft}
    (found : entries.lookup key = some draft) : P draft :=
  h.each _ (mem_of_lookup found)

theorem concat (h : Each P entries) {key : String} {draft : Draft} (new : key ∉ entries.map (·.1))
    (holds : P draft) : Each P (entries ++ [(key, draft)]) where
  distinct := nodup_keys_append h.distinct new
  each := by
    intro entry member
    rcases List.mem_append.1 member with member | member
    · exact h.each entry member
    · rw [List.mem_singleton.1 member]
      exact holds

theorem set (h : Each P entries) {key : String} {draft : Draft} (holds : P draft) :
    Each P (Draft.set key draft entries) where
  distinct := by
    rw [keys_set]
    exact h.distinct
  each := by
    intro entry member
    rcases mem_set member with rfl | ⟨member, -⟩
    · exact holds
    · exact h.each entry member

theorem filter (h : Each P entries) (p : String × Draft → Bool) : Each P (entries.filter p) where
  distinct := (List.filter_sublist.map _).nodup h.distinct
  each := fun entry member => h.each entry (List.mem_filter.1 member).1

end Each

/-- A recipe as far as it is read: with its header, or with requirements only. -/
inductive RecipeTable : Draft → Prop
  | headed (entries : Entries) : RecipeTable (.table .header entries)
  | implied (entries : Entries) (only : ∀ key ∈ entries.map (·.1), key = "requirements") :
    RecipeTable (.table .supertable entries)

abbrev RecipeTables : Entries → Prop := Each RecipeTable

theorem RecipeTables.addTable {entries entries' : Entries} (h : RecipeTables entries)
    {name : String} {pairs : List (Key × Value)} {here : Origin}
    (done : addTable name pairs here entries = some entries') :
    RecipeTables entries' ∧ headedKeys entries' = headedKeys entries ++ [name] ∧
      ∀ key, key ∈ entries'.map (·.1) ↔ key ∈ entries.map (·.1) ∨ key = name := by
  obtain ⟨bare, complete, rfl⟩ := addTable_eq_some done
  -- The table moves to the end, but the order of headers does not see it: it had none before.
  have new : name ∉ headedKeys entries := by
    intro headed
    obtain ⟨draft, member, flag⟩ := mem_headedKeys.1 headed
    rw [bare draft ((lookup_eq_some_iff_mem h.distinct).2 member)] at flag
    cases flag
  have others : ∀ key, key ∈ (entries.filter (·.1 ≠ name)).map (·.1) ↔
      key ∈ entries.map (·.1) ∧ key ≠ name := by
    intro key
    simp only [List.mem_map, List.mem_filter, decide_eq_true_eq]
    grind
  refine ⟨(h.filter _).concat (by simp) (.headed complete), ?_, fun key => ?_⟩
  · rw [headedKeys_append, headedKeys_filter new]
    rfl
  · rw [List.map_append, List.mem_append, others, List.map_cons, List.map_nil, List.mem_singleton]
    by_cases same : key = name <;> simp [same]

theorem RecipeTables.addRequirement {entries entries' : Entries} (h : RecipeTables entries)
    {name : String} {pairs : List (Key × Value)} {here : Origin}
    (done : descend .supertable (addElement "requirements" pairs) [name] here entries =
      some entries') :
    RecipeTables entries' ∧ headedKeys entries' = headedKeys entries ∧
      ∀ key, key ∈ entries'.map (·.1) ↔ key ∈ entries.map (·.1) ∨ key = name := by
  have tables : ∀ draft, entries.lookup name = some draft →
      ∃ origin sub, draft = .table origin sub := by
    intro draft found
    cases h.lookup found <;> exact ⟨_, _, rfl⟩
  obtain ⟨absent, made, first, rfl⟩ | ⟨origin, sub, changed, found, change, rfl⟩ :=
    descend_cons tables done
  · have only : ∀ key ∈ made.map (·.1), key = "requirements" := by
      intro key member
      simpa using addElement_keys first key member
    refine ⟨h.concat (lookup_eq_none_iff_keys.1 absent) (.implied made only), ?_, by simp⟩
    rw [headedKeys_append]
    exact List.append_nil _
  · have there := List.mem_map_of_mem (f := (·.1)) (mem_of_lookup found)
    refine ⟨h.set ?_, headedKeys_set h.distinct found, fun key => ?_⟩
    · cases h.lookup found with
      | headed _ => exact .headed changed
      | implied _ only =>
        refine .implied changed fun key member => ?_
        exact (addElement_keys change key member).elim id (only key)
    · rw [keys_set, iff_self_or]
      rintro rfl
      exact there

/-- A set as far as it is read; it has no header of its own. -/
def SetTable (draft : Draft) : Prop :=
  ∃ entries, draft = .table .supertable entries ∧ RecipeTables entries

abbrev SetTables : Entries → Prop := Each SetTable

/-- The entries of a table among others; none if there is no such table. -/
def inside (key : String) (entries : Entries) : Entries :=
  match entries.lookup key with
  | some (.table _ sub) => sub
  | _ => []

theorem SetTables.inside {root : Entries} (h : SetTables root) (set : String) :
    RecipeTables (inside set root) := by
  unfold Draft.inside
  split
  · rename_i origin sub found
    obtain ⟨entries, same, recipes⟩ := h.lookup found
    cases same
    exact recipes
  · exact .nil

/-- One step inside a set changes that set alone. -/
theorem SetTables.descend {root root' : Entries} (h : SetTables root)
    {change : Origin → Entries → Option Entries} {set : String} {path : List String}
    (done : descend .supertable change (set :: path) .header root = some root') :
    ∃ changed, Draft.descend .supertable change path .supertable (Draft.inside set root) = some changed ∧
      (RecipeTables changed → SetTables root') ∧ Draft.inside set root' = changed ∧
      ∀ other, other ≠ set → Draft.inside other root' = Draft.inside other root := by
  have tables : ∀ draft, root.lookup set = some draft → ∃ origin sub, draft = .table origin sub := by
    intro draft found
    obtain ⟨entries, same, -⟩ := h.lookup found
    exact ⟨_, _, same⟩
  obtain ⟨absent, made, first, rfl⟩ | ⟨origin, sub, changed, found, change, rfl⟩ :=
    descend_cons tables done
  · refine ⟨made, ?_, fun recipes => ?_, ?_, fun other apart => ?_⟩
    · rwa [Draft.inside, absent]
    · exact h.concat (lookup_eq_none_iff_keys.1 absent) ⟨made, rfl, recipes⟩
    · simp [Draft.inside, List.lookup_append, absent]
    · have different : (other == set) = false := beq_eq_false_iff_ne.2 apart
      rw [Draft.inside, List.lookup_append, List.lookup_cons, different]
      simp [Draft.inside]
  · obtain ⟨entries, same, -⟩ := h.lookup found
    cases same
    refine ⟨changed, ?_, fun recipes => h.set ⟨changed, rfl, recipes⟩, ?_, fun other apart => ?_⟩
    · rwa [Draft.inside, found]
    · rw [Draft.inside, lookup_set_self found]
    · rw [Draft.inside, lookup_set_other _ _ apart, Draft.inside]

end Craftbook.Toml.Draft
