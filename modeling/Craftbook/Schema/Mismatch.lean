import Craftbook.Text.Quoted
import Craftbook.Toml.Value

/-!
How a document's values can differ from what a file format asks for.
-/
namespace Craftbook.Schema

/-- The records of the file formats that may also be written as arrays of their fields. -/
inductive RecordType where
  | recipe
  | set
  | imports
  deriving DecidableEq

inductive Expected where
  | text
  | boolean
  | sequence
  | quantity
  | word
  | float
  | table
  | record (type : RecordType)
  deriving DecidableEq

/-- A value as far as a mismatch shows it. -/
inductive Found where
  | integer (n : Int64)
  | float (x : Binary64)
  | boolean (b : Bool)
  | text (text : String)
  | sequence
  | table
  deriving DecidableEq

inductive Mismatch where
  | unknownField (name : String) (known : List String)
  | missingField (name : String)
  | wrongType (found : Found) (expected : Expected)
  | outOfRange (n : Int64)
  /-- An array that ends before a field that has no default. -/
  | tooShort (length : Nat) (type : RecordType)
  | noRequirement
  deriving DecidableEq

namespace RecordType

def name : RecordType → String
  | .recipe => "RawRecipeDefinition"
  | .set => "SetConfig"
  | .imports => "ImportConfig"

def fieldCount : RecordType → Nat
  | .recipe => 3
  | .set | .imports => 6

end RecordType

def Expected.message : Expected → String
  | .text => "a string"
  | .boolean => "a boolean"
  | .sequence => "a sequence"
  | .quantity => "i64"
  | .word => "u32"
  | .float => "f64"
  | .table => "a table"
  | .record type => s!"struct {type.name}"

namespace Found

def ofValue : Toml.Value → Found
  | .text s => .text s
  | .integer n => .integer n
  | .float x => .float x
  | .boolean b => .boolean b
  | .array _ => .sequence
  | .table _ | .moment _ => .table

def message : Found → String
  | .integer n => s!"integer `{n}`"
  | .float x => s!"floating point `{x.pointedText}`"
  | .boolean b => s!"boolean `{b}`"
  | .text s => s!"string {Text.quoted s}"
  | .sequence => "sequence"
  | .table => "map"

end Found

namespace Mismatch

def message : Mismatch → String
  | .unknownField name known =>
    let known := ", ".intercalate (known.map fun field => s!"`{field}`")
    s!"unknown field `{name}`, expected one of {known}"
  | .missingField name => s!"missing field `{name}`"
  | .wrongType found expected =>
    s!"invalid type: {found.message}, expected {expected.message}"
  | .outOfRange n => s!"invalid value: integer `{n}`, expected u32"
  | .tooShort length type =>
    s!"invalid length {length}, expected struct {type.name} with {type.fieldCount} elements"
  | .noRequirement => "data did not match any variant of untagged enum RawRequirement"

end Mismatch

end Craftbook.Schema
