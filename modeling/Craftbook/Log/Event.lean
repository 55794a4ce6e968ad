import Craftbook.Item.Kind
import Craftbook.Text.Quoted

/-!
The events a pass reports.
-/
namespace Craftbook

inductive Level where
  | debug
  | info
  | warn
  deriving DecidableEq

inductive Event where
  | duplicateKind (kind : ItemKind)
  | namespaceEmpty (path : String)
  | namespaceLoaded (items structures voxels : Nat)
  | setReplaced (key : String)
  | setLoaded (key : String) (path : String) (recipes : Nat)
  | configLoaded (path : String) (rate : UInt32) (sets : Nat)
  | setNotConfigured (key : String)
  | setMissing (key : String)
  | recipeNormalized (name : String) (ingredients : Nat) (result : ItemKind) (amount ticks : UInt32)
  | setCompiled (key : String) (recipes : Nat) (layouts : Option Nat)
  | fileWritten (bytes : Nat) (path : String)
  deriving DecidableEq

namespace Level

def label : Level → String
  | .debug => "DEBUG"
  | .info => "INFO"
  | .warn => "WARN"

end Level

namespace Event

def level : Event → Level
  | .recipeNormalized .. => .debug
  | .namespaceLoaded .. | .setLoaded .. | .configLoaded .. | .setCompiled .. | .fileWritten .. => .info
  | .duplicateKind _ | .namespaceEmpty _ | .setReplaced _ | .setNotConfigured _ | .setMissing _ => .warn

def message : Event → String
  | .duplicateKind kind => s!"Duplicate {kind.tag.label} kind '{kind.name}' in namespace"
  | .namespaceEmpty path =>
    s!"Item namespace {Text.quoted path} is empty, every recipe will fail to resolve"
  | .namespaceLoaded items structures voxels =>
    s!"Loaded item namespace: {items} items, {structures} structures, {voxels} voxels"
  | .setReplaced key => s!"Duplicate recipe set '{key}', overwriting"
  | .setLoaded key path recipes =>
    s!"Loaded recipe set '{key}' from {Text.quoted path}: {recipes} recipes"
  | .configLoaded path rate sets =>
    s!"Loaded codegen config from {Text.quoted path}: {rate} ticks/s, {sets} recipe sets"
  | .setNotConfigured key => s!"Recipe set '{key}' is not configured for emission, skipping"
  | .setMissing key => s!"Recipe set '{key}' is missing, emitting it empty"
  | .recipeNormalized name ingredients result amount ticks =>
    s!"Normalized recipe {name}: {ingredients} ingredients -> " ++
      s!"{result.authored} x{amount} in {ticks} ticks"
  | .setCompiled key recipes none => s!"Compiled recipe set '{key}': {recipes} recipes"
  | .setCompiled key recipes (some layouts) =>
    s!"Compiled recipe set '{key}': {recipes} recipes with {layouts} slot layouts"
  | .fileWritten bytes path => s!"Wrote {bytes} bytes to {Text.quoted path}"

end Event

end Craftbook
