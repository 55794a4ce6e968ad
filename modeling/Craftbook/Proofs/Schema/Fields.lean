import Craftbook.Proofs.Schema.Reading
import Craftbook.Proofs.Toml.DistinctKeys

/-!
Records whose fields fill parts of their own. Main statements: the order of a table's entries is
immaterial, and an array is read as the table that gives its elements the names of the fields in turn.
-/
namespace Craftbook.Schema
open Toml (Value)

namespace Field
variable {δ α β : Type}

/-- Two fields fill a draft to the same effect in either order. -/
def Independent (first second : Field δ) : Prop :=
  ∀ (v w : Value) (draft filled : δ),
    (∃ middle, first.fill v draft = .ok middle ∧ second.fill w middle = .ok filled) ↔
      ∃ middle, second.fill w draft = .ok middle ∧ first.fill v middle = .ok filled

theorem independent_of {name name' : String} {read : Value → Except Mismatch α}
    {read' : Value → Except Mismatch β} {put : δ → α → δ} {put' : δ → β → δ}
    (apart : ∀ draft a b, put' (put draft a) b = put (put' draft b) a) :
    Independent (.of name read put) (.of name' read' put') := by
  intro v w draft filled
  simp only [fill_of_eq_ok_iff]
  constructor
  · rintro ⟨_, ⟨a, first, rfl⟩, b, second, rfl⟩
    exact ⟨_, ⟨b, second, rfl⟩, a, first, apart draft a b⟩
  · rintro ⟨_, ⟨b, second, rfl⟩, a, first, rfl⟩
    exact ⟨_, ⟨a, first, rfl⟩, b, second, (apart draft a b).symm⟩

/-- Fills a draft with a value, if there is one. -/
def fill? (field : Field δ) : Option Value → δ → Except Mismatch δ
  | none, draft => .ok draft
  | some value, draft => field.fill value draft

theorem Independent.fill? {first second : Field δ} (independent : Independent first second)
    (v w : Option Value) (draft filled : δ) :
    (∃ middle, first.fill? v draft = .ok middle ∧ second.fill? w middle = .ok filled) ↔
      ∃ middle, second.fill? w draft = .ok middle ∧ first.fill? v middle = .ok filled := by
  cases v with
  | none => cases w <;> simp [Field.fill?]
  | some v =>
    cases w with
    | none => simp [Field.fill?]
    | some w => exact independent v w draft filled

/-- The field fills one part of a draft with what is read, and leaves the rest as it is. -/
structure Sets (field : Field δ) (get : δ → β) (set : δ → β → δ) (reads : Value → β → Prop) :
    Prop where
  fill_iff : ∀ {value draft filled}, field.fill value draft = .ok filled ↔
    ∃ b, reads value b ∧ filled = set draft b
  keep : ∀ draft, set draft (get draft) = draft

variable {name : String} {read : Value → Except Mismatch α} {put : δ → α → δ}
  {reads : Value → α → Prop}

theorem sets_of {get : δ → α} (read_iff : ∀ {value a}, read value = .ok a ↔ reads value a)
    (keep : ∀ draft, put draft (get draft) = draft) : (Field.of name read put).Sets get put reads where
  fill_iff := by simp only [fill_of_eq_ok_iff, read_iff, implies_true]
  keep := keep

/-- What is read becomes known in a draft. -/
def Known (reads : Value → α → Prop) (value : Value) (known : Option α) : Prop :=
  ∃ a, reads value a ∧ known = some a

theorem sets_some {get : δ → Option α} {set : δ → Option α → δ}
    (read_iff : ∀ {value a}, read value = .ok a ↔ reads value a)
    (puts : ∀ draft a, put draft a = set draft (some a))
    (keep : ∀ draft, set draft (get draft) = draft) :
    (Field.of name read put).Sets get set (Known reads) where
  fill_iff := by
    intro value draft filled
    simp only [fill_of_eq_ok_iff, read_iff, puts, Known]
    constructor
    · rintro ⟨a, given, rfl⟩
      exact ⟨_, ⟨a, given, rfl⟩, rfl⟩
    · rintro ⟨_, ⟨a, given, rfl⟩, rfl⟩
      exact ⟨a, given, rfl⟩
  keep := keep

end Field

section InOrder
variable {δ β : Type} {fields : List (Field δ)} {entries : List (String × Value)}
  {draft filled : δ} {name : String} {value : Value}

/-- Fills a draft field by field, each from the entry of its name. -/
def fillInOrder (entries : List (String × Value)) : List (Field δ) → δ → Except Mismatch δ
  | [], draft => .ok draft
  | field :: fields, draft => do
    fillInOrder entries fields (← field.fill? (entries.lookup field.name) draft)

theorem fillInOrder_cons_eq_ok_iff {field : Field δ} :
    fillInOrder entries (field :: fields) draft = .ok filled ↔
      ∃ middle, field.fill? (entries.lookup field.name) draft = .ok middle ∧
        fillInOrder entries fields middle = .ok filled := by
  rw [fillInOrder, bind_eq_ok_iff]

theorem fillInOrder_done (entries : List (String × Value)) (draft : δ) :
    fillInOrder entries [] draft = .ok draft := rfl

theorem fillInOrder_nil (fields : List (Field δ)) (draft : δ) :
    fillInOrder [] fields draft = .ok draft := by
  induction fields with
  | nil => rfl
  | cons field fields ih => exact ih

/-- An entry that no field takes is not looked at. -/
theorem fillInOrder_unknown (unknown : name ∉ fields.map (·.name)) :
    fillInOrder ((name, value) :: entries) fields draft = fillInOrder entries fields draft := by
  induction fields generalizing draft with
  | nil => rfl
  | cons field fields ih =>
    rw [List.map_cons, List.mem_cons, not_or] at unknown
    rw [fillInOrder, fillInOrder, List.lookup_cons, beq_false_of_ne (Ne.symm unknown.1)]
    simp only [ih unknown.2]

/-- An entry may be taken before all others. -/
theorem fillInOrder_first (names : (fields.map (·.name)).Nodup)
    (independent : fields.Pairwise Field.Independent) (new : name ∉ entries.map (·.1))
    {field : Field δ} (known : field ∈ fields) (named : field.name = name) :
    fillInOrder ((name, value) :: entries) fields draft = .ok filled ↔
      ∃ middle, field.fill value draft = .ok middle ∧
        fillInOrder entries fields middle = .ok filled := by
  subst named
  induction fields generalizing draft with
  | nil => cases known
  | cons first fields ih =>
    rw [List.map_cons, List.nodup_cons] at names
    rw [List.pairwise_cons] at independent
    rcases List.mem_cons.1 known with rfl | later
    · simp only [fillInOrder_cons_eq_ok_iff, List.lookup_cons_self, lookup_eq_none_iff_keys.2 new,
        Field.fill?, fillInOrder_unknown names.1, Except.ok.injEq, exists_eq_left']
    · have other : first.name ≠ field.name := by
        intro same
        exact names.1 (same ▸ List.mem_map_of_mem later)
      have swap := (independent.1 field later).fill? (entries.lookup first.name) (some value) draft
      simp only [fillInOrder_cons_eq_ok_iff, List.lookup_cons, beq_false_of_ne other,
        ih names.2 independent.2 later]
      constructor
      · rintro ⟨next, first, middle, own, rest⟩
        obtain ⟨before, own, first⟩ := (swap _).1 ⟨next, first, own⟩
        exact ⟨before, own, middle, first, rest⟩
      · rintro ⟨before, own, middle, first, rest⟩
        obtain ⟨next, first, own⟩ := (swap _).2 ⟨before, own, first⟩
        exact ⟨next, first, middle, own, rest⟩

/-- The order of a table's entries is immaterial. -/
theorem fillByName_eq_ok_iff (names : (fields.map (·.name)).Nodup)
    (independent : fields.Pairwise Field.Independent) (distinct : (entries.map (·.1)).Nodup) :
    fillByName fields draft entries = .ok filled ↔
      (∀ key ∈ entries.map (·.1), key ∈ fields.map (·.name)) ∧
        fillInOrder entries fields draft = .ok filled := by
  induction entries generalizing draft with
  | nil => simp [fillByName, fillInOrder_nil]
  | cons entry rest ih =>
    rw [List.map_cons, List.nodup_cons] at distinct
    rw [fillByName_cons_eq_ok_iff, List.map_cons, List.forall_mem_cons]
    simp only [ih distinct.2]
    constructor
    · rintro ⟨field, middle, found, first, known, later⟩
      obtain ⟨member, named⟩ := known_of_find? found
      exact ⟨⟨List.mem_map.2 ⟨field, member, named⟩, known⟩,
        (fillInOrder_first names independent distinct.1 member named).2 ⟨middle, first, later⟩⟩
    · rintro ⟨⟨there, known⟩, done⟩
      obtain ⟨field, member, named⟩ := List.mem_map.1 there
      obtain ⟨middle, first, later⟩ :=
        (fillInOrder_first names independent distinct.1 member named).1 done
      exact ⟨field, middle, named ▸ find?_known names member, first, known, later⟩

/-- An array is read as the table that gives its elements the names of the fields in turn. -/
theorem fillByPlace_eq (names : (fields.map (·.name)).Nodup) (values : List Value) :
    fillByPlace fields draft values =
      fillInOrder ((fields.map (·.name)).zip values) fields draft := by
  induction fields generalizing draft values with
  | nil => cases values <;> rfl
  | cons field fields ih =>
    rw [List.map_cons, List.nodup_cons] at names
    cases values with
    | nil => rw [fillByPlace_nil, List.zip_nil_right, fillInOrder_nil]
    | cons value values =>
      simp only [fillByPlace, fillInOrder, List.map_cons, List.zip_cons_cons, List.lookup_cons_self,
        Field.fill?, ih names.2, fillInOrder_unknown names.1]

theorem Field.Sets.fillInOrder_iff {field : Field δ} {get : δ → β} {set : δ → β → δ}
    {reads : Value → β → Prop} (sets : field.Sets get set reads)
    (distinct : (entries.map (·.1)).Nodup) :
    fillInOrder entries (field :: fields) draft = .ok filled ↔
      ∃ b, Gives reads (get draft) entries field.name b ∧
        fillInOrder entries fields (set draft b) = .ok filled := by
  rw [fillInOrder_cons_eq_ok_iff]
  cases found : entries.lookup field.name with
  | none =>
    have absent := lookup_eq_none_iff_keys.1 found
    have gives (b : β) : Gives reads (get draft) entries field.name b ↔ b = get draft := by
      refine ⟨?_, fun same => .inl ⟨absent, same⟩⟩
      rintro (⟨-, same⟩ | ⟨value, there, -⟩)
      · exact same
      · exact absurd (List.mem_map_of_mem there) absent
    simp [gives, Field.fill?, sets.keep]
  | some value =>
    have there := mem_of_lookup found
    have gives (b : β) : Gives reads (get draft) entries field.name b ↔ reads value b :=
      ⟨fun h => h.of_mem distinct there, fun h => .inr ⟨value, there, h⟩⟩
    simp only [gives, Field.fill?, sets.fill_iff]
    constructor
    · rintro ⟨_, ⟨b, read, rfl⟩, later⟩
      exact ⟨b, read, later⟩
    · rintro ⟨b, read, later⟩
      exact ⟨_, ⟨b, read, rfl⟩, later⟩

section Of
variable {α : Type} {read : Value → Except Mismatch α} {reads : Value → α → Prop}

theorem fillInOrder_of_iff (get : δ → α) (put : δ → α → δ)
    (read_iff : ∀ {value a}, read value = .ok a ↔ reads value a)
    (keep : ∀ draft, put draft (get draft) = draft) (distinct : (entries.map (·.1)).Nodup) :
    fillInOrder entries (.of name read put :: fields) draft = .ok filled ↔
      ∃ a, Gives reads (get draft) entries name a ∧
        fillInOrder entries fields (put draft a) = .ok filled :=
  (Field.sets_of read_iff keep).fillInOrder_iff distinct

theorem fillInOrder_some_iff (get : δ → Option α) (set : δ → Option α → δ)
    (read_iff : ∀ {value a}, read value = .ok a ↔ reads value a)
    (keep : ∀ draft, set draft (get draft) = draft) (distinct : (entries.map (·.1)).Nodup) :
    fillInOrder entries (.of name read (fun draft a => set draft (some a)) :: fields) draft =
        .ok filled ↔
      ∃ known, Gives (Field.Known reads) (get draft) entries name known ∧
        fillInOrder entries fields (set draft known) = .ok filled :=
  (Field.sets_some read_iff (fun _ _ => rfl) keep).fillInOrder_iff distinct

end Of

end InOrder

section Gives
variable {α : Type} {reads : Value → α → Prop} {entries : List (String × Value)} {name : String}

/-- A part that has no default is written by an entry. -/
theorem gives_known_iff {a : α} :
    Gives (Field.Known reads) none entries name (some a) ↔
      ∃ value, (name, value) ∈ entries ∧ reads value a := by
  simp [Gives, Field.Known]

/-- A part that nothing was read into takes its default later. -/
theorem gives_getD_iff {default b : α} :
    (∃ known, Gives (Field.Known reads) none entries name known ∧ b = known.getD default) ↔
      Gives reads default entries name b := by
  constructor
  · rintro ⟨known, ⟨absent, rfl⟩ | ⟨value, there, a, read, rfl⟩, rfl⟩
    · exact .inl ⟨absent, rfl⟩
    · exact .inr ⟨value, there, read⟩
  · rintro (⟨absent, rfl⟩ | ⟨value, there, read⟩)
    · exact ⟨none, .inl ⟨absent, rfl⟩, rfl⟩
    · exact ⟨some b, .inr ⟨value, there, b, read, rfl⟩, rfl⟩

/-- Something is given unless the entry of that name cannot be read. -/
theorem exists_gives_iff (distinct : (entries.map (·.1)).Nodup) {default : α} :
    (∃ b, Gives reads default entries name b) ↔
      ∀ value, (name, value) ∈ entries → ∃ b, reads value b := by
  constructor
  · rintro ⟨b, gives⟩ value there
    exact ⟨b, gives.of_mem distinct there⟩
  · intro each
    by_cases there : name ∈ entries.map (·.1)
    · obtain ⟨⟨_, value⟩, member, rfl⟩ := List.mem_map.1 there
      obtain ⟨b, read⟩ := each value member
      exact ⟨b, .inr ⟨value, member, read⟩⟩
    · exact ⟨default, .inl ⟨there, rfl⟩⟩

end Gives

/-- The named fields of a record: a table's entries, or an array's elements under the names that are
their turn. Surplus elements have none. -/
inductive NamedFields (names : List String) : Value → List (String × Value) → Prop
  | table (entries : List (String × Value)) : NamedFields names (.table entries) entries
  | array (elements : List Value) : NamedFields names (.array elements) (names.zip elements)

theorem keys_zip_sublist (names : List String) (values : List Value) :
    ((names.zip values).map (·.1)).Sublist names := by
  induction names generalizing values with
  | nil => simp
  | cons name names ih =>
    cases values with
    | nil => simp
    | cons value values => exact (ih values).cons_cons name

theorem NamedFields.distinct {names : List String} (nodup : names.Nodup) {value : Value}
    {fields : List (String × Value)} (named : NamedFields names value fields)
    (distinct : value.DistinctKeys) :
    (fields.map (·.1)).Nodup ∧ ∀ field ∈ fields, field.2.DistinctKeys := by
  cases named with
  | table => exact distinct.entries
  | array elements =>
    refine ⟨nodup.sublist (keys_zip_sublist names elements), fun field member => ?_⟩
    exact distinct.elements field.2 (List.of_mem_zip member).2

namespace Reader
variable {δ α : Type} {reader : Reader δ α} {type : RecordType} {value : Value} {a : α}
  {entries : List (String × Value)}

def names (reader : Reader δ α) : List String := reader.fields.map (·.name)

/-- The fields have different names, none of which is that of a moment, and fill parts of their own;
and whether a draft makes a record does not depend on how a missing field is reported. -/
structure Regular (reader : Reader δ α) : Prop where
  names : reader.names.Nodup
  moment : momentField ∉ reader.names
  independent : reader.fields.Pairwise Field.Independent
  finish : ∀ missing missing' draft a, reader.finish missing draft = .ok a →
    reader.finish missing' draft = .ok a

namespace Regular
variable (regular : reader.Regular)
include regular

theorem ofEntries_eq_ok_iff (distinct : (entries.map (·.1)).Nodup) :
    reader.ofEntries entries = .ok a ↔
      (∀ key ∈ entries.map (·.1), key ∈ reader.names) ∧
        ∃ filled, fillInOrder entries reader.fields reader.blank = .ok filled ∧
          ∃ missing, reader.finish missing filled = .ok a := by
  rw [Reader.ofEntries, bind_eq_ok_iff]
  simp only [fillByName_eq_ok_iff regular.names regular.independent distinct]
  constructor
  · rintro ⟨filled, ⟨known, fills⟩, finish⟩
    exact ⟨known, filled, fills, _, finish⟩
  · rintro ⟨known, filled, fills, missing, finish⟩
    exact ⟨filled, ⟨known, fills⟩, regular.finish _ _ _ _ finish⟩

theorem ofElements_eq_ok_iff {elements : List Value} :
    reader.ofElements type elements = .ok a ↔
      reader.ofEntries (reader.names.zip elements) = .ok a := by
  have part := keys_zip_sublist reader.names elements
  rw [Reader.ofElements, bind_eq_ok_iff, regular.ofEntries_eq_ok_iff (regular.names.sublist part),
    fillByPlace_eq regular.names]
  constructor
  · rintro ⟨filled, fills, finish⟩
    exact ⟨fun key member => part.subset member, filled, fills, _, finish⟩
  · rintro ⟨-, filled, fills, missing, finish⟩
    exact ⟨filled, fills, regular.finish _ _ _ _ finish⟩

/-- A moment reads as a table, but not as one of the fields. -/
theorem ofValue_moment (moment : Toml.Moment) : reader.ofValue type (.moment moment) ≠ .ok a := by
  intro h
  obtain ⟨filled, fills, -⟩ := bind_eq_ok_iff.1 h
  exact regular.moment (known_of_fillByName fills momentField (by simp))

theorem ofValue_eq_ok_iff :
    reader.ofValue type value = .ok a ↔
      ∃ fields, NamedFields reader.names value fields ∧ reader.ofEntries fields = .ok a := by
  constructor
  · intro h
    cases value with
    | table entries => exact ⟨entries, .table entries, h⟩
    | array elements => exact ⟨_, .array elements, regular.ofElements_eq_ok_iff.1 h⟩
    | moment moment => exact absurd h (regular.ofValue_moment moment)
    | _ => cases h
  · rintro ⟨fields, named, h⟩
    cases named with
    | table => exact h
    | array => exact regular.ofElements_eq_ok_iff.2 h

end Regular

end Reader

end Craftbook.Schema
