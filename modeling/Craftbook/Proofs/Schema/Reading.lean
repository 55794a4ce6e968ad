import Craftbook.Proofs.Check
import Craftbook.Proofs.Keyed
import Craftbook.Schema.Reading
import Mathlib.Data.List.Nodup

/-!
Values and the fields of records one by one. Main statements: what each reader of a value takes, and
what a table gives for a name: what is read from the entry of that name, or a default.
-/
namespace Craftbook.Schema
open Toml (Value)

theorem quantity_eq_ok_iff {value : Value} {n : Int} :
    quantity value = .ok n ↔ ∃ k : Int64, value = .integer k ∧ n = k.toInt := by
  cases value <;> simp [quantity, wrongType, eq_comm]

theorem float_eq_ok_iff {value : Value} {x : Binary64} :
    float value = .ok x ↔ value = .float x ∨ ∃ k, value = .integer k ∧ x = .ofInt k.toInt := by
  cases value <;> simp [float, wrongType, eq_comm]

theorem sequence_eq_ok_iff {element : Value → Except Mismatch α} {value : Value} {xs : List α} :
    sequence element value = .ok xs ↔
      ∃ values, value = .array values ∧ List.Forall₂ (fun v x => element v = .ok x) values xs := by
  cases value <;> simp [sequence, wrongType, mapM_eq_ok_iff]

namespace Field

variable {δ α β : Type}

theorem fill_of_eq_ok_iff {name : String} {read : Value → Except Mismatch α} {put : δ → α → δ}
    {value : Value} {draft filled : δ} :
    (Field.of name read put).fill value draft = .ok filled ↔
      ∃ a, read value = .ok a ∧ filled = put draft a := by
  refine bind_eq_ok_iff.trans (exists_congr fun a => and_congr_right fun _ => ?_)
  exact ⟨fun h => (Except.ok.inj h).symm, fun h => congrArg _ h.symm⟩

end Field

section Fill

variable {δ β : Type} {fields : List (Field δ)} {entries : List (String × Value)}
  {draft filled : δ}

theorem known_of_find? {name : String} {field : Field δ}
    (found : fields.find? (·.name = name) = some field) : field ∈ fields ∧ field.name = name :=
  ⟨List.mem_of_find?_eq_some found, by simpa using List.find?_some found⟩

theorem find?_known (names : (fields.map (·.name)).Nodup) {field : Field δ}
    (known : field ∈ fields) : fields.find? (·.name = field.name) = some field := by
  obtain ⟨found, is⟩ := Option.isSome_iff_exists.1
    (List.find?_isSome (p := (·.name = field.name)).2 ⟨field, known, by simp⟩)
  obtain ⟨known', named⟩ := known_of_find? is
  rw [is, List.inj_on_of_nodup_map names known' known named]

theorem fillByName_cons_eq_ok_iff {entry : String × Value} :
    fillByName fields draft (entry :: entries) = .ok filled ↔
      ∃ field next, fields.find? (·.name = entry.1) = some field ∧
        field.fill entry.2 draft = .ok next ∧ fillByName fields next entries = .ok filled := by
  rw [fillByName]
  split
  · rename_i unknown
    simp [unknown]
  · rename_i field found
    simp [found, bind_eq_ok_iff]

theorem known_of_fillByName (done : fillByName fields draft entries = .ok filled) :
    ∀ key ∈ entries.map (·.1), key ∈ fields.map (·.name) := by
  induction entries generalizing draft with
  | nil => simp
  | cons entry rest ih =>
    obtain ⟨field, next, found, -, later⟩ := fillByName_cons_eq_ok_iff.1 done
    exact List.forall_mem_cons.2 ⟨List.mem_map.2 ⟨field, known_of_find? found⟩, ih later⟩

theorem fillByPlace_nil (fields : List (Field δ)) (draft : δ) :
    fillByPlace fields draft [] = .ok draft := by
  cases fields <;> rfl

/-- A part that no field of the entries' names fills is left as it was. -/
theorem fillByName_keeps {get : δ → β}
    (keeps : ∀ field ∈ fields, field.name ∈ entries.map (·.1) → ∀ {value draft filled},
      field.fill value draft = .ok filled → get filled = get draft)
    (done : fillByName fields draft entries = .ok filled) : get filled = get draft := by
  induction entries generalizing draft with
  | nil =>
    cases done
    rfl
  | cons entry rest ih =>
    obtain ⟨field, next, found, first, later⟩ := fillByName_cons_eq_ok_iff.1 done
    obtain ⟨known, named⟩ := known_of_find? found
    rw [ih (fun field known there => keeps field known (.tail _ there)) later]
    exact keeps field known (named ▸ .head _) first

variable {name : String} {reads : Value → β → Prop}

/-- What entries give for a name: what is read from the entry of that name, or a default. -/
def Gives (reads : Value → β → Prop) (default : β) (entries : List (String × Value)) (name : String)
    (b : β) : Prop :=
  (name ∉ entries.map (·.1) ∧ b = default) ∨ ∃ value, (name, value) ∈ entries ∧ reads value b

theorem Gives.congr {reads' : Value → β → Prop} {default b : β}
    (same : ∀ {value}, (name, value) ∈ entries → ∀ b, reads value b ↔ reads' value b) :
    Gives reads default entries name b ↔ Gives reads' default entries name b :=
  or_congr_right (exists_congr fun _ => and_congr_right fun there => same there b)

theorem Gives.of_mem {default b : β} (h : Gives reads default entries name b)
    (distinct : (entries.map (·.1)).Nodup) {value : Value} (there : (name, value) ∈ entries) :
    reads value b := by
  obtain ⟨absent, -⟩ | ⟨value', there', read⟩ := h
  · exact absurd (List.mem_map_of_mem there) absent
  · cases value_unique distinct there there'
    exact read

end Fill

end Craftbook.Schema
