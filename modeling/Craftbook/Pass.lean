import Craftbook.Error.Load
import Craftbook.Recipe.Book
import Craftbook.Source.Render

/-!
A whole pass: every configured set is compiled from the book, in the order of the configuration, and
the results are written as one source file. The first error ends it before anything is written.
-/
namespace Craftbook

namespace Pass

/-- The book's keys that no configured set has. -/
def unconfigured (config : Config) (book : Book) : List String :=
  book.keys.filter fun key => !config.sets.any (·.key = key)

def reportUnconfigured : List String → Traced ε Unit
  | [] => pure ()
  | key :: rest => do
    Traced.report (.setNotConfigured key)
    reportUnconfigured rest

def compileSets (c : Compiler) (book : Book) : List SetConfig → Traced CompileError (List CompiledSet)
  | [] => pure []
  | set :: rest => do
    let recipes := book.get? set.key
    Traced.reportIf recipes.isNone (.setMissing set.key)
    let first ← c.compileSet set (recipes.getD [])
    return first :: (← compileSets c book rest)

def compile (book : Book) (names : Namespace) (config : Config) :
    Traced PassError (List CompiledSet) := do
  (Traced.ofExcept config.validate).mapError .config
  reportUnconfigured (unconfigured config book)
  (compileSets (.ofConfig names config) book config.sets).mapError .compile

def source (book : Book) (names : Namespace) (config : Config) : Traced PassError String := do
  let sets ← compile book names config
  return (SourceFile.ofSets config.imports sets).render

end Pass

end Craftbook
