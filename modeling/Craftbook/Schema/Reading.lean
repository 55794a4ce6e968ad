import Craftbook.Schema.Mismatch

/-!
Reading typed values and records out of a document. A record is read field by field in the order of
the document, and the first mismatch ends it.
-/
namespace Craftbook.Schema
open Toml (Value)

def wrongType (expected : Expected) (value : Value) : Except Mismatch α :=
  .error (.wrongType (.ofValue value) expected)

def text : Value → Except Mismatch String
  | .text s => .ok s
  | value => wrongType .text value

def boolean : Value → Except Mismatch Bool
  | .boolean b => .ok b
  | value => wrongType .boolean value

def quantity : Value → Except Mismatch Int
  | .integer n => .ok n.toInt
  | value => wrongType .quantity value

def word : Value → Except Mismatch UInt32
  | .integer n =>
    if 0 ≤ n.toInt ∧ n.toInt < UInt32.size then .ok (.ofNat n.toInt.toNat) else .error (.outOfRange n)
  | value => wrongType .word value

/-- A number; an integer stands for the nearest float. -/
def float : Value → Except Mismatch Binary64
  | .float x => .ok x
  | .integer n => .ok (.ofInt n.toInt)
  | value => wrongType .float value

def sequence (element : Value → Except Mismatch α) : Value → Except Mismatch (List α)
  | .array elements => elements.mapM element
  | value => wrongType .sequence value

/-- The name under which a moment shows its text where a table is read. -/
def momentField : String := "$__toml_private_datetime"

/-- The entries of a table. A moment reads as a table of one entry. -/
def entries? : Value → Option (List (String × Value))
  | .table entries => some entries
  | .moment moment => some [(momentField, .text moment.text)]
  | _ => none

/-- A field of a record that is read into a draft. -/
structure Field (δ : Type) where
  name : String
  fill : Value → δ → Except Mismatch δ

def Field.of (name : String) (read : Value → Except Mismatch α) (put : δ → α → δ) : Field δ :=
  ⟨name, fun value draft => return put draft (← read value)⟩

/-- Fills a draft by the names of a table's entries. -/
def fillByName (fields : List (Field δ)) (draft : δ) : List (String × Value) → Except Mismatch δ
  | [] => .ok draft
  | (name, value) :: rest =>
    match fields.find? (·.name = name) with
    | none => .error (.unknownField name (fields.map (·.name)))
    | some field => do fillByName fields (← field.fill value draft) rest

/-- Fills a draft by the places of an array's elements; surplus elements are not looked at. -/
def fillByPlace : List (Field δ) → δ → List Value → Except Mismatch δ
  | field :: fields, draft, value :: rest => do fillByPlace fields (← field.fill value draft) rest
  | [], draft, _ | _, draft, [] => .ok draft

/-- How a record is read: the fields fill a draft, and the draft gives the record if no field without
a default is missing. What a missing field amounts to depends on its place and its name. -/
structure Reader (δ α : Type) where
  fields : List (Field δ)
  blank : δ
  finish : (missing : Nat → String → Mismatch) → δ → Except Mismatch α

namespace Reader

def ofEntries (reader : Reader δ α) (entries : List (String × Value)) : Except Mismatch α := do
  reader.finish (fun _ name => .missingField name) (← fillByName reader.fields reader.blank entries)

def ofElements (reader : Reader δ α) (type : RecordType) (elements : List Value) :
    Except Mismatch α := do
  reader.finish (fun place _ => .tooShort place type)
    (← fillByPlace reader.fields reader.blank elements)

/-- A record inside a document is a table, or an array of its fields. -/
def ofValue (reader : Reader δ α) (type : RecordType) (value : Value) : Except Mismatch α :=
  match value with
  | .array elements => reader.ofElements type elements
  | value =>
    match entries? value with
    | some entries => reader.ofEntries entries
    | none => wrongType (.record type) value

end Reader

/-- The value of a field that has no default. -/
def required (missing : Mismatch) : Option α → Except Mismatch α
  | some a => .ok a
  | none => .error missing

end Craftbook.Schema
