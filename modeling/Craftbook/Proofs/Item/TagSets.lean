import Craftbook.Item.Namespace
import Mathlib.Data.Finset.Card

/-!
A namespace as three sets of names, one for each tag. Main statement: inserting into the set of a
kind's own tag alone is inserting into the namespace, with the same answers and the same reports.
-/
namespace Craftbook

namespace Namespace

/-- Inserts kinds one after the other and keeps the answers. -/
def insertEach (ns : Namespace) : List ItemKind → Traced ε (Namespace × List Bool)
  | [] => pure (ns, [])
  | kind :: rest => do
    let (next, new) ← ns.insert kind
    let (last, answers) ← next.insertEach rest
    return (last, new :: answers)

theorem contains_iff {ns : Namespace} {kind : ItemKind} : ns.contains kind ↔ kind ∈ ns.kinds :=
  decide_eq_true_iff

theorem size_eq_counts (ns : Namespace) :
    ns.size = ns.count .plain + ns.count .structural + ns.count .voxel := by
  unfold size count
  induction ns.kinds with
  | nil => rfl
  | cons kind rest ih =>
    obtain ⟨tag, name⟩ := kind
    cases tag <;> simp [ih] <;> omega

end Namespace

/-- A set of names for each tag. -/
structure TagSets where
  items : Finset String
  structures : Finset String
  voxels : Finset String

namespace TagSets

def empty : TagSets := ⟨∅, ∅, ∅⟩

def names (sets : TagSets) : KindTag → Finset String
  | .plain => sets.items
  | .structural => sets.structures
  | .voxel => sets.voxels

/-- Other names for one tag. The other two sets stay. -/
def put (sets : TagSets) (names : Finset String) : KindTag → TagSets
  | .plain => { sets with items := names }
  | .structural => { sets with structures := names }
  | .voxel => { sets with voxels := names }

/-- Adds a kind's name to the set of its tag and tells whether it was new there; one that was there is
reported. -/
def insert (sets : TagSets) (kind : ItemKind) : Traced ε (TagSets × Bool) :=
  if kind.name ∈ sets.names kind.tag then do
    Traced.report (.duplicateKind kind)
    pure (sets, false)
  else
    pure (sets.put (Insert.insert kind.name (sets.names kind.tag)) kind.tag, true)

def insertEach (sets : TagSets) : List ItemKind → Traced ε (TagSets × List Bool)
  | [] => pure (sets, [])
  | kind :: rest => do
    let (next, new) ← sets.insert kind
    let (last, answers) ← next.insertEach rest
    return (last, new :: answers)

def size (sets : TagSets) : Nat := sets.items.card + sets.structures.card + sets.voxels.card

@[simp] theorem names_put (sets : TagSets) (names : Finset String) (tag other : KindTag) :
    (sets.put names tag).names other = if other = tag then names else sets.names other := by
  cases tag <;> cases other <;> rfl

theorem ext_names {a b : TagSets} (same : ∀ tag, a.names tag = b.names tag) : a = b := by
  obtain ⟨_, _, _⟩ := a
  obtain ⟨_, _, _⟩ := b
  cases same .plain
  cases same .structural
  cases same .voxel
  rfl

/-- The names of a namespace under a tag. -/
def under (ns : Namespace) (tag : KindTag) : Finset String :=
  ((ns.kinds.filter (·.tag = tag)).map (·.name)).toFinset

/-- The three sets of a namespace. -/
def ofNamespace (ns : Namespace) : TagSets := ⟨under ns .plain, under ns .structural, under ns .voxel⟩

variable {ns : Namespace} {kind : ItemKind} {tag : KindTag} {name : String}

@[simp] theorem names_ofNamespace (ns : Namespace) (tag : KindTag) :
    (ofNamespace ns).names tag = under ns tag := by
  cases tag <;> rfl

theorem mem_under : name ∈ under ns tag ↔ ⟨tag, name⟩ ∈ ns.kinds := by
  simp only [under, List.mem_toFinset, List.mem_map, List.mem_filter, decide_eq_true_eq]
  constructor
  · rintro ⟨_, ⟨member, rfl⟩, rfl⟩
    exact member
  · intro member
    exact ⟨⟨tag, name⟩, ⟨member, rfl⟩, rfl⟩

/-- Kinds of one tag differ by their names. -/
theorem card_under : (under ns tag).card = ns.count tag := by
  have distinct : ((ns.kinds.filter (·.tag = tag)).map (·.name)).Nodup := by
    apply (ns.nodup.filter _).map_on
    intro a memberA b memberB same
    rw [List.mem_filter, decide_eq_true_eq] at memberA memberB
    obtain ⟨_, _⟩ := a
    obtain ⟨_, _⟩ := b
    cases memberA.2.trans memberB.2.symm
    cases same
    rfl
  rw [under, List.toFinset_card_of_nodup distinct, List.length_map, Namespace.count,
    List.countP_eq_length_filter]

/-- A new kind is one more name under its own tag and none under another. -/
theorem under_cons (nodup : (kind :: ns.kinds).Nodup) (tag : KindTag) :
    under ⟨kind :: ns.kinds, nodup⟩ tag =
      if tag = kind.tag then Insert.insert kind.name (under ns kind.tag) else under ns tag := by
  rw [under, List.filter_cons]
  by_cases own : tag = kind.tag
  · subst own
    simp [under]
  · simp [own, Ne.symm own, under]

theorem insert_ofNamespace (ns : Namespace) (kind : ItemKind) :
    ((ofNamespace ns).insert kind : Traced ε (TagSets × Bool)) =
      Prod.map ofNamespace id <$> ns.insert kind := by
  rw [insert, Namespace.insert, names_ofNamespace]
  by_cases known : kind ∈ ns.kinds
  · rw [if_pos (mem_under.2 known), dif_pos known]
    simp
  · rw [if_neg (mt mem_under.1 known), dif_neg known, map_pure]
    congr 1
    refine Prod.ext (ext_names fun tag => ?_) rfl
    rw [names_put, names_ofNamespace, Prod.map_fst, names_ofNamespace, under_cons]

theorem insertEach_ofNamespace (ns : Namespace) (kinds : List ItemKind) :
    ((ofNamespace ns).insertEach kinds : Traced ε (TagSets × List Bool)) =
      Prod.map ofNamespace id <$> ns.insertEach kinds := by
  induction kinds generalizing ns with
  | nil => rfl
  | cons kind rest ih =>
    simp [insertEach, Namespace.insertEach, insert_ofNamespace, ih]

/-- Three sets that answer as a namespace does. -/
structure Answers (sets : TagSets) (ns : Namespace) : Prop where
  contains : ∀ kind, ns.contains kind ↔ kind.name ∈ sets.names kind.tag
  count : ∀ tag, ns.count tag = (sets.names tag).card
  size : ns.size = sets.size

theorem ofNamespace_answers (ns : Namespace) : (ofNamespace ns).Answers ns where
  contains kind := by rw [Namespace.contains_iff, names_ofNamespace, mem_under]
  count tag := by rw [names_ofNamespace, card_under]
  size := by rw [ns.size_eq_counts, ← card_under, ← card_under, ← card_under]; rfl

end TagSets

end Craftbook
