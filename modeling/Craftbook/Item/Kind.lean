import Craftbook.Text.Blank

/-!
Item kinds and their authored form. Structures and voxel materials are written inside a wrapper of
their own, plain items bare.
-/
namespace Craftbook

/-- The part of the namespace a name lives in. -/
inductive KindTag where
  | plain
  | structural
  | voxel
  deriving DecidableEq

structure ItemKind where
  tag : KindTag
  name : String
  deriving DecidableEq

namespace KindTag

def label : KindTag → String
  | .plain => "Plain"
  | .structural => "Structure"
  | .voxel => "Voxel"

/-- What is written before the name. -/
def opening : KindTag → String
  | .plain => ""
  | .structural => "Structure(StructureKind::"
  | .voxel => "Voxel(Voxel::"

/-- What is written after the name. -/
def closing : KindTag → String
  | .plain => ""
  | .structural | .voxel => ")"

/-- The place of the tag in the order of kinds. -/
def rank : KindTag → Nat
  | .plain => 0
  | .structural => 1
  | .voxel => 2

end KindTag

namespace ItemKind

/-- A letter followed by letters, digits or underscores, all ASCII. -/
def isName : List Char → Bool
  | [] => false
  | first :: rest => first.isAlpha && rest.all fun c => c.isAlphanum || c = '_'

/-- The form an author writes. -/
def authored (kind : ItemKind) : String :=
  kind.tag.opening ++ kind.name ++ kind.tag.closing

/-- The expression for the kind in generated source. -/
def path (kind : ItemKind) : String := "ItemKind::" ++ kind.authored

def named? (tag : KindTag) (name : List Char) : Option ItemKind :=
  if isName name then some ⟨tag, String.ofList name⟩ else none

def wrapped? (tag : KindTag) (text : List Char) : Option ItemKind :=
  match tag.closing.toList.isSuffixOf? text with
  | some name => named? tag name
  | none => none

/-- Reads an authored form, white space around it aside. A text that begins like a wrapper is never
a bare name. -/
def parse? (text : String) : Option ItemKind :=
  let text := Text.trim text.toList
  match KindTag.structural.opening.toList.isPrefixOf? text with
  | some rest => wrapped? .structural rest
  | none =>
    match KindTag.voxel.opening.toList.isPrefixOf? text with
    | some rest => wrapped? .voxel rest
    | none => named? .plain text

/-- Plain items first, then structures, then voxels, each by name. -/
def precedes (a b : ItemKind) : Bool :=
  a.tag.rank < b.tag.rank || (a.tag.rank = b.tag.rank && a.name ≤ b.name)

def sort (kinds : List ItemKind) : List ItemKind := kinds.mergeSort precedes

end ItemKind

end Craftbook
