import Craftbook.Binary64.Decimal
import Craftbook.Toml.Moment

/-!
The values of a TOML document. Tables keep the order of their entries.
-/
namespace Craftbook.Toml

inductive Value where
  | text (text : String)
  | integer (n : Int64)
  | float (x : Binary64)
  | boolean (b : Bool)
  | moment (moment : Moment)
  | array (elements : List Value)
  | table (entries : List (String × Value))

end Craftbook.Toml
