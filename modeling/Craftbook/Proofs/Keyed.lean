import Mathlib.Data.List.Forall2

/-!
Lists of entries by key, each key once.
-/
namespace Craftbook

theorem lookup_eq_none_iff_keys {key : String} {entries : List (String × α)} :
    entries.lookup key = none ↔ key ∉ entries.map (·.1) := by
  rw [List.lookup_eq_none_iff, List.mem_map]
  refine ⟨fun other ⟨entry, member, same⟩ => ?_, fun absent entry member => ?_⟩
  · exact bne_iff_ne.1 (other entry member) same.symm
  · exact bne_iff_ne.2 fun same => absent ⟨entry, member, same.symm⟩

theorem mem_of_lookup {key : String} {value : α} {entries : List (String × α)}
    (h : entries.lookup key = some value) : (key, value) ∈ entries := by
  obtain ⟨before, after, rfl, -⟩ := List.lookup_eq_some_iff.1 h
  simp

theorem lookup_eq_some_iff_mem {key : String} {value : α} {entries : List (String × α)}
    (distinct : (entries.map (·.1)).Nodup) :
    entries.lookup key = some value ↔ (key, value) ∈ entries := by
  refine ⟨mem_of_lookup, fun member => ?_⟩
  obtain ⟨before, after, rfl⟩ := List.append_of_mem member
  rw [List.lookup_eq_some_iff]
  refine ⟨before, after, rfl, fun entry earlier => ?_⟩
  rw [List.map_append, List.nodup_append] at distinct
  have apart := distinct.2.2 entry.1 (List.mem_map_of_mem earlier) key (by simp)
  exact bne_iff_ne.2 apart.symm

theorem value_unique {key : String} {a b : α} {entries : List (String × α)}
    (distinct : (entries.map (·.1)).Nodup) (ha : (key, a) ∈ entries) (hb : (key, b) ∈ entries) :
    a = b := by
  rw [← lookup_eq_some_iff_mem distinct] at ha hb
  exact Option.some.inj (ha.symm.trans hb)

theorem nodup_keys_append {key : String} {value : α} {entries : List (String × α)}
    (distinct : (entries.map (·.1)).Nodup) (new : key ∉ entries.map (·.1)) :
    ((entries ++ [(key, value)]).map (·.1)).Nodup := by
  rw [List.map_append]
  exact (List.perm_append_singleton key _).nodup_iff.2 (List.nodup_cons.2 ⟨new, distinct⟩)

theorem lookup_replace_self {key : String} (value : α) {entries : List (String × α)}
    (there : key ∈ entries.map (·.1)) :
    (entries.map fun entry => if entry.1 = key then (key, value) else entry).lookup key =
      some value := by
  induction entries with
  | nil => cases there
  | cons entry rest ih =>
    rw [List.map_cons, List.lookup_cons]
    by_cases same : entry.1 = key
    · simp [same]
    · have other : (key == entry.1) = false := beq_eq_false_iff_ne.2 (Ne.symm same)
      have later := ((List.mem_cons.1 there).resolve_left (Ne.symm same))
      simp [same, other, ih later]

/-- The entries of other keys are found as before. -/
theorem lookup_replace_other {key other : String} (value : α) (entries : List (String × α))
    (h : other ≠ key) :
    (entries.map fun entry => if entry.1 = key then (key, value) else entry).lookup other =
      entries.lookup other := by
  have apart : (other == key) = false := beq_eq_false_iff_ne.2 h
  induction entries with
  | nil => rfl
  | cons entry rest ih =>
    rw [List.map_cons, List.lookup_cons, List.lookup_cons, ih]
    by_cases same : entry.1 = key <;> simp [same, apart]

/-- Entries that are made of each other keep their keys, and so their look-ups correspond. -/
theorem lookup_forall₂ {R : α → β → Prop} {xs : List (String × α)} {ys : List (String × β)}
    (h : List.Forall₂ (fun x y => x.1 = y.1 ∧ R x.2 y.2) xs ys) {key : String} {y : β}
    (found : ys.lookup key = some y) : ∃ x, xs.lookup key = some x ∧ R x y := by
  induction h with
  | nil => cases found
  | @cons x y' xs ys first _ ih =>
    rw [List.lookup_cons] at found ⊢
    rw [first.1]
    cases same : key == y'.1 with
    | true =>
      rw [same] at found
      cases found
      exact ⟨x.2, rfl, first.2⟩
    | false =>
      rw [same] at found
      exact ih found

theorem keys_forall₂ {R : α → β → Prop} {xs : List (String × α)} {ys : List (String × β)}
    (h : List.Forall₂ (fun x y => x.1 = y.1 ∧ R x.2 y.2) xs ys) :
    xs.map (·.1) = ys.map (·.1) := by
  induction h with
  | nil => rfl
  | cons first _ ih => rw [List.map_cons, List.map_cons, first.1, ih]

end Craftbook
