import Craftbook.Proofs.Keyed
import Craftbook.Toml.Document

/-!
One step in the building of a table. Main statements: what a header may do to the entries of a
table, and that a key leads through tables one by one.
-/
namespace Craftbook.Toml.Draft

theorem keys_set (key : String) (draft : Draft) (entries : Entries) :
    (set key draft entries).map (·.1) = entries.map (·.1) := by
  rw [set, List.map_map]
  apply List.map_congr_left
  intro entry _
  by_cases same : entry.1 = key <;> simp [same]

theorem mem_set {key : String} {draft : Draft} {entries : Entries} {entry : String × Draft}
    (h : entry ∈ set key draft entries) :
    entry = (key, draft) ∨ entry ∈ entries ∧ entry.1 ≠ key := by
  obtain ⟨old, member, rfl⟩ := List.mem_map.1 h
  by_cases same : old.1 = key <;> simp [same, member]

theorem lookup_set_self {key : String} {draft old : Draft} {entries : Entries}
    (h : entries.lookup key = some old) : (set key draft entries).lookup key = some draft :=
  lookup_replace_self draft (List.mem_map_of_mem (mem_of_lookup h))

theorem lookup_set_other {key other : String} (draft : Draft) (entries : Entries)
    (h : other ≠ key) : (set key draft entries).lookup other = entries.lookup other :=
  lookup_replace_other draft entries h

theorem entriesValue_eq (entries : Entries) :
    entriesValue entries = entries.map fun entry => (entry.1, entry.2.toValue) := by
  induction entries with
  | nil => rfl
  | cons entry rest ih => rw [entriesValue, ih, List.map_cons]

theorem keys_entriesValue (entries : Entries) :
    (entriesValue entries).map (·.1) = entries.map (·.1) := by
  rw [entriesValue_eq, List.map_map]
  rfl

def isHeaded : Draft → Bool
  | .table .header _ => true
  | _ => false

/-- The names of the tables that have headers of their own. -/
def headedKeys (entries : Entries) : List String := (entries.filter (·.2.isHeaded)).map (·.1)

theorem headedKeys_append (a b : Entries) : headedKeys (a ++ b) = headedKeys a ++ headedKeys b := by
  rw [headedKeys, List.filter_append, List.map_append]
  rfl

theorem headedKeys_cons (entry : String × Draft) (entries : Entries) :
    headedKeys (entry :: entries) =
      if entry.2.isHeaded then entry.1 :: headedKeys entries else headedKeys entries := by
  rw [headedKeys, List.filter_cons]
  split <;> rfl

theorem mem_headedKeys {entries : Entries} {key : String} :
    key ∈ headedKeys entries ↔ ∃ draft, (key, draft) ∈ entries ∧ draft.isHeaded := by
  simp [headedKeys]

/-- A change inside a table does not touch the headers beside it. -/
theorem headedKeys_set {key : String} {origin : Origin} {sub changed : Entries} {entries : Entries}
    (distinct : (entries.map (·.1)).Nodup) (h : entries.lookup key = some (.table origin sub)) :
    headedKeys (set key (.table origin changed) entries) = headedKeys entries := by
  have there := mem_of_lookup h
  rw [headedKeys, headedKeys, set, List.filter_map, List.map_map]
  have flags : ∀ entry ∈ entries,
      ((fun entry => entry.2.isHeaded) ∘ fun entry : String × Draft =>
        if entry.1 = key then (key, .table origin changed) else entry) entry = entry.2.isHeaded := by
    intro entry member
    by_cases same : entry.1 = key
    · have old : entry.2 = .table origin sub := value_unique distinct (same ▸ member) there
      simp only [Function.comp_apply, same, if_true, old]
      cases origin <;> rfl
    · simp [same]
  rw [List.filter_congr flags]
  apply List.map_congr_left
  intro entry _
  by_cases same : entry.1 = key <;> simp [same]

theorem headedKeys_filter {key : String} {entries : Entries} (h : key ∉ headedKeys entries) :
    headedKeys (entries.filter (·.1 ≠ key)) = headedKeys entries := by
  rw [headedKeys, headedKeys, List.filter_filter]
  congr 1
  apply List.filter_congr
  intro entry member
  by_cases same : entry.1 = key
  · have bare : entry.2.isHeaded = false := by
      rw [Bool.eq_false_iff]
      exact fun headed => h (mem_headedKeys.2 ⟨entry.2, same ▸ member, headed⟩)
    simp [bare]
  · simp [same]

/-- What a key that leads through tables does: its first table is made at the end, or the change
happens inside it. -/
theorem descend_cons {change : Origin → Entries → Option Entries} {key : String}
    {path : List String} {here : Origin} {entries entries' : Entries}
    (tables : ∀ draft, entries.lookup key = some draft → ∃ origin sub, draft = .table origin sub)
    (h : descend .supertable change (key :: path) here entries = some entries') :
    (entries.lookup key = none ∧ ∃ made,
      descend .supertable change path .supertable [] = some made ∧
        entries' = entries ++ [(key, .table .supertable made)]) ∨
    ∃ origin sub changed, entries.lookup key = some (.table origin sub) ∧
      descend .supertable change path origin sub = some changed ∧
        entries' = set key (.table origin changed) entries := by
  rw [descend] at h
  cases found : entries.lookup key with
  | none =>
    simp only [found, Option.bind_eq_bind, Option.bind_eq_some_iff] at h
    obtain ⟨made, done, last⟩ := h
    exact .inl ⟨rfl, made, done, (Option.some.inj last).symm⟩
  | some draft =>
    obtain ⟨origin, sub, rfl⟩ := tables draft found
    simp only [found, reduceCtorEq, false_and, if_false, Option.bind_eq_bind,
      Option.bind_eq_some_iff] at h
    obtain ⟨changed, done, last⟩ := h
    exact .inr ⟨origin, sub, changed, rfl, done, (Option.some.inj last).symm⟩

/-- What a header does: its table stands last, and has had no header before. -/
theorem addTable_eq_some {name : String} {pairs : List (Key × Value)} {here : Origin}
    {entries entries' : Entries} (h : addTable name pairs here entries = some entries') :
    (∀ draft, entries.lookup name = some draft → draft.isHeaded = false) ∧
    ∃ complete, entries' = entries.filter (·.1 ≠ name) ++ [(name, .table .header complete)] := by
  unfold addTable at h
  split at h
  · rename_i new
    simp only [Option.bind_eq_bind, Option.bind_eq_some_iff] at h
    obtain ⟨complete, -, last⟩ := h
    refine ⟨by simp [new], complete, ?_⟩
    have whole : entries.filter (·.1 ≠ name) = entries := by
      rw [List.filter_eq_self]
      intro entry member
      have absent := lookup_eq_none_iff_keys.1 new
      simp only [decide_eq_true_eq]
      exact fun same => absent (same ▸ List.mem_map_of_mem member)
    rw [whole, ← Option.some.inj last]
  · rename_i sub implied
    simp only [Option.bind_eq_bind, Option.bind_eq_some_iff] at h
    obtain ⟨complete, -, last⟩ := h
    refine ⟨?_, complete, (Option.some.inj last).symm⟩
    intro draft found
    cases implied.symm.trans found
    rfl
  · cases h

/-- What the header of an element does: no entry but the array is new. -/
theorem addElement_keys {name : String} {pairs : List (Key × Value)} {here : Origin}
    {entries entries' : Entries} (h : addElement name pairs here entries = some entries') :
    ∀ key ∈ entries'.map (·.1), key = name ∨ key ∈ entries.map (·.1) := by
  unfold addElement at h
  split at h
  · simp only [Option.bind_eq_bind, Option.bind_eq_some_iff] at h
    obtain ⟨element, -, last⟩ := h
    rw [← Option.some.inj last]
    intro key member
    simp only [List.map_append, List.map_cons, List.map_nil, List.mem_append,
      List.mem_singleton] at member
    exact member.symm
  · simp only [Option.bind_eq_bind, Option.bind_eq_some_iff] at h
    obtain ⟨element, -, last⟩ := h
    rw [← Option.some.inj last, keys_set]
    exact fun key member => .inr member
  · cases h

end Craftbook.Toml.Draft
