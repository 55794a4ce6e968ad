import Craftbook.Proofs.Toml.Tables

/-!
Trees in which each table names its entries once. Main statements: the steps that build a document
keep this, and so does reading the finished table off.
-/
namespace Craftbook.Toml

namespace Value

/-- Neither an array nor a table. -/
def IsScalar : Value → Prop
  | .array _ | .table _ => False
  | _ => True

/-- The keys of every table differ, also inside arrays and tables. -/
inductive DistinctKeys : Value → Prop
  | scalar {value : Value} (plain : value.IsScalar) : DistinctKeys value
  | array {elements : List Value} (each : ∀ value ∈ elements, DistinctKeys value) :
    DistinctKeys (.array elements)
  | table {entries : List (String × Value)} (distinct : (entries.map (·.1)).Nodup)
    (each : ∀ entry ∈ entries, DistinctKeys entry.2) : DistinctKeys (.table entries)

theorem DistinctKeys.entries {entries : List (String × Value)}
    (h : (Value.table entries).DistinctKeys) :
    (entries.map (·.1)).Nodup ∧ ∀ entry ∈ entries, entry.2.DistinctKeys := by
  cases h with
  | scalar plain => exact plain.elim
  | table distinct each => exact ⟨distinct, each⟩

theorem DistinctKeys.elements {values : List Value} (h : (Value.array values).DistinctKeys) :
    ∀ value ∈ values, value.DistinctKeys := by
  cases h with
  | scalar plain => exact plain.elim
  | array each => exact each

end Value

namespace Draft

/-- As for values, of a table under construction. -/
inductive DistinctKeys : Draft → Prop
  | leaf {value : Value} (h : value.DistinctKeys) : DistinctKeys (.leaf value)
  | table {origin : Origin} {entries : Entries} (distinct : (entries.map (·.1)).Nodup)
    (each : ∀ entry ∈ entries, DistinctKeys entry.2) : DistinctKeys (.table origin entries)
  | tables {elements : List Entries} (distinct : ∀ entries ∈ elements, (entries.map (·.1)).Nodup)
    (each : ∀ entries ∈ elements, ∀ entry ∈ entries, DistinctKeys entry.2) :
    DistinctKeys (.tables elements)

abbrev Distinct : Entries → Prop := Each DistinctKeys

theorem Distinct.table {entries : Entries} (h : Distinct entries) (origin : Origin) :
    (Draft.table origin entries).DistinctKeys :=
  .table h.distinct h.each

theorem Distinct.of_table {origin : Origin} {entries : Entries}
    (h : (Draft.table origin entries).DistinctKeys) : Distinct entries := by
  cases h with
  | table distinct each => exact ⟨distinct, each⟩

theorem distinctKeys_tables_iff {elements : List Entries} :
    (Draft.tables elements).DistinctKeys ↔ ∀ entries ∈ elements, Distinct entries := by
  refine ⟨fun h => ?_, fun h => ?_⟩
  · cases h with
    | tables distinct each =>
      exact fun entries member => ⟨distinct entries member, each entries member⟩
  · exact .tables (fun entries member => (h entries member).distinct)
      fun entries member => (h entries member).each

theorem elementsValue_eq (elements : List Entries) :
    elementsValue elements = elements.map fun entries => .table (entriesValue entries) := by
  induction elements with
  | nil => rfl
  | cons entries rest ih => rw [elementsValue, ih, List.map_cons]

theorem DistinctKeys.toValue {draft : Draft} (h : draft.DistinctKeys) :
    draft.toValue.DistinctKeys := by
  have entriesTable : ∀ {entries : Entries}, (entries.map (·.1)).Nodup →
      (∀ entry ∈ entries, entry.2.toValue.DistinctKeys) →
        (Value.table (entriesValue entries)).DistinctKeys := by
    intro entries distinct each
    refine .table (by rwa [keys_entriesValue]) ?_
    rw [entriesValue_eq, List.forall_mem_map]
    exact each
  induction h with
  | leaf h => exact h
  | table distinct _ ih => exact entriesTable distinct ih
  | tables distinct _ ih =>
    rw [Draft.toValue, elementsValue_eq]
    refine .array ?_
    rw [List.forall_mem_map]
    exact fun entries member => entriesTable (distinct entries member) (ih entries member)

theorem Distinct.value {entries : Entries} (h : Distinct entries) :
    (Value.table (entriesValue entries)).DistinctKeys :=
  (h.table .header).toValue

theorem Distinct.put {entries : Entries} (h : Distinct entries) {key : String} {draft : Draft}
    (absent : entries.lookup key = none) (new : draft.DistinctKeys) :
    Distinct (entries ++ [(key, draft)]) :=
  h.concat (lookup_eq_none_iff_keys.1 absent) new

/-- A change at the end of a path keeps keys different if it does so where it happens. -/
theorem Distinct.descend {origin here : Origin} {change : Origin → Entries → Option Entries}
    (keeps : ∀ {here entries entries'}, Distinct entries → change here entries = some entries' →
      Distinct entries')
    {path : List String} {entries entries' : Entries} (h : Distinct entries)
    (done : Draft.descend origin change path here entries = some entries') : Distinct entries' := by
  induction path generalizing here entries entries' with
  | nil => exact keeps h done
  | cons key path ih =>
    rw [Draft.descend] at done
    split at done
    · rename_i absent
      obtain ⟨made, first, last⟩ := Option.bind_eq_some_iff.1 done
      rw [← Option.some.inj last]
      exact h.put absent ((ih Each.nil first).table origin)
    · cases done
    · rename_i there sub found
      split at done
      · cases done
      · obtain ⟨changed, first, last⟩ := Option.bind_eq_some_iff.1 done
        rw [← Option.some.inj last]
        exact h.set ((ih (.of_table (h.lookup found)) first).table there)
    · rename_i elements found
      obtain ⟨final, is, done⟩ := Option.bind_eq_some_iff.1 done
      obtain ⟨changed, first, last⟩ := Option.bind_eq_some_iff.1 done
      rw [← Option.some.inj last]
      have tables := distinctKeys_tables_iff.1 (h.lookup found)
      refine h.set (distinctKeys_tables_iff.2 fun entries member => ?_)
      rcases List.mem_append.1 member with member | member
      · exact tables entries (List.dropLast_subset _ member)
      · rw [List.mem_singleton.1 member]
        exact ih (tables final (List.mem_of_getLast? is)) first

theorem Distinct.addLeaf {key : Key} {value : Value} {here : Origin} {entries entries' : Entries}
    (h : Distinct entries) (plain : value.DistinctKeys)
    (done : Draft.addLeaf key value here entries = some entries') : Distinct entries' := by
  unfold Draft.addLeaf at done
  split at done
  · cases done
  · rename_i new
    rw [← Option.some.inj done]
    exact h.put (Option.not_isSome_iff_eq_none.1 fun taken => new (.inr taken)) (.leaf plain)

theorem Distinct.addPairs {pairs : List (Key × Value)}
    (values : ∀ pair ∈ pairs, pair.2.DistinctKeys) {entries entries' : Entries}
    (h : Distinct entries) (done : Draft.addPairs entries pairs = some entries') :
    Distinct entries' := by
  induction pairs generalizing entries with
  | nil =>
    cases done
    exact h
  | cons pair rest ih =>
    obtain ⟨key, value⟩ := pair
    rw [List.forall_mem_cons] at values
    obtain ⟨next, first, later⟩ := Option.bind_eq_some_iff.1 done
    exact ih values.2 (h.descend (fun h => h.addLeaf values.1) first) later

theorem Distinct.addTable {name : String} {pairs : List (Key × Value)}
    (values : ∀ pair ∈ pairs, pair.2.DistinctKeys) {here : Origin} {entries entries' : Entries}
    (h : Distinct entries) (done : Draft.addTable name pairs here entries = some entries') :
    Distinct entries' := by
  unfold Draft.addTable at done
  split at done
  · rename_i absent
    obtain ⟨made, first, last⟩ := Option.bind_eq_some_iff.1 done
    rw [← Option.some.inj last]
    exact h.put absent ((Distinct.addPairs values .nil first).table .header)
  · rename_i sub implied
    obtain ⟨complete, first, last⟩ := Option.bind_eq_some_iff.1 done
    rw [← Option.some.inj last]
    have own : Distinct sub := .of_table (h.lookup implied)
    exact (h.filter _).concat (by simp) ((own.addPairs values first).table .header)
  · cases done

theorem Distinct.addElement {name : String} {pairs : List (Key × Value)}
    (values : ∀ pair ∈ pairs, pair.2.DistinctKeys) {here : Origin} {entries entries' : Entries}
    (h : Distinct entries) (done : Draft.addElement name pairs here entries = some entries') :
    Distinct entries' := by
  unfold Draft.addElement at done
  split at done
  · rename_i absent
    obtain ⟨made, first, last⟩ := Option.bind_eq_some_iff.1 done
    rw [← Option.some.inj last]
    refine h.put absent (distinctKeys_tables_iff.2 fun entries member => ?_)
    rw [List.mem_singleton.1 member]
    exact Distinct.addPairs values .nil first
  · rename_i elements found
    obtain ⟨made, first, last⟩ := Option.bind_eq_some_iff.1 done
    rw [← Option.some.inj last]
    have tables := distinctKeys_tables_iff.1 (h.lookup found)
    refine h.set (distinctKeys_tables_iff.2 fun entries member => ?_)
    rcases List.mem_append.1 member with member | member
    · exact tables entries member
    · rw [List.mem_singleton.1 member]
      exact Distinct.addPairs values .nil first
  · cases done

end Draft

end Craftbook.Toml
