import Craftbook.Error.Load
import Craftbook.Recipe.Book
import Craftbook.Schema.Config
import Craftbook.Schema.Items
import Craftbook.Schema.Recipes
import Craftbook.Toml.Document

/-!
Namespaces, books and configurations from the texts of their files. The path of a file is only used
in errors.
-/
namespace Craftbook

def parse (path text : String) (schema : List (String × Toml.Value) → Except Schema.Mismatch α) :
    Except LoadError α :=
  match Toml.Document.read? text with
  | none => .error (.parse path .malformed)
  | some entries => (schema entries).mapError fun m => .parse path (.mismatch m)

theorem parse_eq_ok_iff_read {path text : String}
    {schema : List (String × Toml.Value) → Except Schema.Mismatch α} {a : α} :
    parse path text schema = .ok a ↔
      ∃ entries, Toml.Document.read? text = some entries ∧ schema entries = .ok a := by
  unfold parse
  cases Toml.Document.read? text with
  | none => simp
  | some entries =>
    simp only [Option.some.injEq, exists_eq_left']
    cases schema entries with
    | error _ => exact ⟨nofun, nofun⟩
    | ok b =>
      change Except.ok b = .ok a ↔ Except.ok b = .ok a
      rw [Except.ok.injEq, Except.ok.injEq]

def Namespace.parse (path text : String) : Traced LoadError Namespace := do
  ofLists (← Traced.ofExcept (Craftbook.parse path text Schema.nameLists.ofEntries))

def Book.parse (path text : String) : Traced LoadError Book := do
  empty.insertAll (← Traced.ofExcept (Craftbook.parse path text Schema.recipeSets))

/-- Reads a configuration and refuses one with a fault. -/
def Config.parse (path text : String) : Except LoadError Config := do
  let config ← Craftbook.parse path text Schema.config.ofEntries
  config.validate.mapError fun fault => LoadError.pass (.config fault)
  return config

end Craftbook
