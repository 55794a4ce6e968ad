import Craftbook.Toml.Statement

/-!
TOML documents: the table that a text describes.
-/
namespace Craftbook.Toml

/-- A header with the pairs under it. -/
structure Section where
  key : Key
  /-- Whether the header adds a table to an array. -/
  element : Bool
  pairs : List (Key × Value)

/-- The pairs before the first header, and the sections. -/
def sections : List Statement → List (Key × Value) × List Section
  | [] => ([], [])
  | .pair key value :: rest =>
    let (pairs, after) := sections rest
    ((key, value) :: pairs, after)
  | .header key :: rest =>
    let (pairs, after) := sections rest
    ([], ⟨key, false, pairs⟩ :: after)
  | .arrayHeader key :: rest =>
    let (pairs, after) := sections rest
    ([], ⟨key, true, pairs⟩ :: after)

namespace Section

def addTo (entries : Draft.Entries) (s : Section) : Option Draft.Entries :=
  Draft.descend .supertable
    (if s.element then Draft.addElement s.key.last s.pairs else Draft.addTable s.key.last s.pairs)
    s.key.parents .header entries

end Section

namespace Document

/-- The table that statements build, unless one of them contradicts an earlier one. -/
def ofStatements? (statements : List Statement) : Option (List (String × Value)) := do
  let (pairs, rest) := sections statements
  let root ← Draft.addPairs [] pairs
  return Draft.entriesValue (← rest.foldlM Section.addTo root)

/-- A byte order mark may stand at the start. -/
def withoutMark : List Char → List Char
  | '\ufeff' :: s => s
  | s => s

/-- The table of a document's text, if the text is TOML. -/
def read? (text : String) : Option (List (String × Value)) := do
  let s := withoutMark text.toList
  ofStatements? (← Statement.readAll? (s.length + 1) s)

end Document

end Craftbook.Toml
