import Craftbook.Files.Atomic
import Craftbook.Load.Text
import Craftbook.Pass

/-!
Loading the files of a data directory and compiling them.
-/
namespace Craftbook

def itemsFile : String := "items.toml"

def recipesFile : String := "recipes.toml"

namespace FileView

def read (view : FileView) (path : String) : Traced LoadError String :=
  .ofExcept ((view path).mapError fun fault => .io path fault none)

def namespaceIn (view : FileView) (directory : String) : Traced LoadError Namespace := do
  let path := Path.join directory itemsFile
  let names ← Namespace.parse path (← view.read path)
  Traced.reportIf names.isEmpty (.namespaceEmpty path)
  Traced.report
    (.namespaceLoaded (names.count .plain) (names.count .structural) (names.count .voxel))
  return names

def reportSets (path : String) : List (String × List Definition) → Traced ε Unit
  | [] => pure ()
  | (key, recipes) :: rest => do
    Traced.report (.setLoaded key path recipes.length)
    reportSets path rest

def bookIn (view : FileView) (directory : String) : Traced LoadError Book := do
  let path := Path.join directory recipesFile
  let book ← Book.parse path (← view.read path)
  reportSets path book.sets
  return book

/-- The configuration of a file, or the default one if there is no path. -/
def config (view : FileView) : Option String → Traced LoadError Config
  | none => pure {}
  | some path => do
    let config ← Traced.ofExcept (Config.parse path (← view.read path))
    Traced.report (.configLoaded path config.rate config.sets.length)
    return config

def generate (view : FileView) (directory : String) (config : Config) : Traced LoadError String := do
  let names ← view.namespaceIn directory
  let book ← view.bookIn directory
  (Pass.source book names config).mapError .pass

end FileView

end Craftbook
