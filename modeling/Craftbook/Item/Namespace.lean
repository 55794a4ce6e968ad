import Craftbook.Log.Traced

/-!
The kinds the game defines: a set of names under each tag.
-/
namespace Craftbook

structure Namespace where
  kinds : List ItemKind
  nodup : kinds.Nodup

/-- The names of a namespace file, by tag. -/
structure NameLists where
  items : List String := []
  structures : List String := []
  voxels : List String := []
  deriving DecidableEq

namespace Namespace

def empty : Namespace := ⟨[], .nil⟩

def contains (ns : Namespace) (kind : ItemKind) : Bool := kind ∈ ns.kinds

def size (ns : Namespace) : Nat := ns.kinds.length

def isEmpty (ns : Namespace) : Bool := ns.size = 0

def count (ns : Namespace) (tag : KindTag) : Nat := ns.kinds.countP (·.tag = tag)

/-- Adds a kind and tells whether it was new; a kind that was there is reported. -/
def insert (ns : Namespace) (kind : ItemKind) : Traced ε (Namespace × Bool) :=
  if h : kind ∈ ns.kinds then do
    Traced.report (.duplicateKind kind)
    pure (ns, false)
  else
    pure (⟨kind :: ns.kinds, List.nodup_cons.2 ⟨h, ns.nodup⟩⟩, true)

def insertAll (ns : Namespace) : List ItemKind → Traced ε Namespace
  | [] => pure ns
  | kind :: rest => do
    let (ns, _) ← ns.insert kind
    ns.insertAll rest

/-- The namespace of a file's lists, in the order of the file format. -/
def ofLists (lists : NameLists) : Traced ε Namespace :=
  empty.insertAll <|
    lists.items.map (⟨.plain, ·⟩) ++ lists.structures.map (⟨.structural, ·⟩) ++
      lists.voxels.map (⟨.voxel, ·⟩)

/-- The known kind that an authored form names. -/
def resolve? (ns : Namespace) (text : String) : Option ItemKind :=
  (ItemKind.parse? text).filter ns.contains

end Namespace

end Craftbook
