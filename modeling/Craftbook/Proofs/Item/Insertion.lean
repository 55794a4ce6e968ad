import Craftbook.Proofs.Item.TagSets
import Craftbook.Proofs.Repeats

/-!
Namespaces as sets. Main statement: a namespace knows the kinds that were put in, each once, whatever
their order and however often, and each kind that comes again is reported.
-/
namespace Craftbook

namespace NameLists

/-- The names under a tag. -/
def named (lists : NameLists) : KindTag → List String
  | .plain => lists.items
  | .structural => lists.structures
  | .voxel => lists.voxels

def kinds (lists : NameLists) : List ItemKind :=
  lists.items.map (⟨.plain, ·⟩) ++ lists.structures.map (⟨.structural, ·⟩) ++
    lists.voxels.map (⟨.voxel, ·⟩)

theorem mem_kinds {lists : NameLists} {kind : ItemKind} :
    kind ∈ lists.kinds ↔ kind.name ∈ lists.named kind.tag := by
  obtain ⟨tag, name⟩ := kind
  cases tag <;> simp [kinds, named]

/-- Lists of the same names under each tag, in any order and any number of times. -/
def SameNames (a b : NameLists) : Prop := ∀ tag name, name ∈ a.named tag ↔ name ∈ b.named tag

end NameLists

namespace Namespace

/-- What an insertion does: the kind is known afterwards, as are those that were known before and no
others; the answer is whether it is new, and it is reported if it is not. -/
structure Inserts (ns : Namespace) (kind : ItemKind) (next : Namespace) (new : Bool)
    (events : List Event) : Prop where
  contains : ∀ other, next.contains other ↔ ns.contains other ∨ other = kind
  answer : new = !ns.contains kind
  events : events = if new then [] else [.duplicateKind kind]

theorem insert_inserts (ns : Namespace) (kind : ItemKind) :
    ∃ next new events, (ns.insert kind : Traced ε (Namespace × Bool)) = ⟨.ok (next, new), events⟩ ∧
      ns.Inserts kind next new events := by
  unfold insert
  split
  · rename_i known
    have here : ns.contains kind = true := contains_iff.2 known
    refine ⟨ns, false, [.duplicateKind kind], rfl, fun other => ?_, by simp [here], rfl⟩
    rw [contains_iff, or_iff_left_of_imp]
    rintro rfl
    exact known
  · rename_i new
    have absent : ns.contains kind = false := by simpa [contains] using new
    refine ⟨_, true, [], rfl, fun other => ?_, by simp [absent], rfl⟩
    rw [contains_iff, contains_iff, List.mem_cons, or_comm]

theorem insertAll_eq_insertEach (ns : Namespace) (kinds : List ItemKind) :
    (ns.insertAll kinds : Traced ε Namespace) = Prod.fst <$> ns.insertEach kinds := by
  induction kinds generalizing ns with
  | nil => rfl
  | cons kind rest ih => simp [insertAll, insertEach, ih]

theorem insertEach_concat (ns : Namespace) (kinds : List ItemKind) (kind : ItemKind) :
    (ns.insertEach (kinds ++ [kind]) : Traced ε (Namespace × List Bool)) = do
      let (known, answers) ← ns.insertEach kinds
      let (next, new) ← known.insert kind
      return (next, answers ++ [new]) := by
  induction kinds generalizing ns with
  | nil => simp [insertEach]
  | cons first rest ih => simp [insertEach, ih]

theorem insertEach_step {ns known next : Namespace} {kinds : List ItemKind} {kind : ItemKind}
    {answers : List Bool} {new : Bool} {events more : List Event}
    (run : (ns.insertEach kinds : Traced ε (Namespace × List Bool)) = ⟨.ok (known, answers), events⟩)
    (step : (known.insert kind : Traced ε (Namespace × Bool)) = ⟨.ok (next, new), more⟩) :
    (ns.insertEach (kinds ++ [kind]) : Traced ε (Namespace × List Bool)) =
      ⟨.ok (next, answers ++ [new]), events ++ more⟩ := by
  rw [insertEach_concat, run, Traced.ok_bind]
  dsimp only
  rw [step, Traced.ok_bind, Traced.outcome_pure, Traced.events_pure, List.append_nil]

theorem insertEach_eq (kinds : List ItemKind) :
    ∃ ns, (empty.insertEach kinds : Traced ε (Namespace × List Bool)) =
        ⟨.ok (ns, firstTimes kinds), (repeats kinds).map .duplicateKind⟩ ∧
      ∀ kind, ns.contains kind ↔ kind ∈ kinds := by
  induction kinds using List.reverseRecOn with
  | nil => exact ⟨empty, rfl, by simp [contains, empty]⟩
  | append_singleton kinds kind ih =>
    obtain ⟨known, run, contains⟩ := ih
    obtain ⟨next, new, events, step, inserts⟩ := known.insert_inserts (ε := ε) kind
    have answer : new = decide (kind ∉ kinds) := by
      rw [inserts.answer, decide_not, Bool.eq_iff_iff.2 ((contains kind).trans decide_eq_true_iff.symm)]
    have reported : events = (if kind ∈ kinds then [kind] else []).map .duplicateKind := by
      rw [inserts.events, answer]
      by_cases seen : kind ∈ kinds <;> simp [seen]
    refine ⟨next, ?_, fun other => ?_⟩
    · rw [firstTimes_concat, repeats_concat, List.map_append, ← answer, ← reported]
      exact insertEach_step run step
    · rw [inserts.contains, contains, List.mem_append, List.mem_singleton]

/-- A namespace that holds kinds, as a set holds the elements that were put in: each is known, and
counted once under its tag. -/
structure Holds (ns : Namespace) (kinds : List ItemKind) : Prop where
  contains : ∀ kind, ns.contains kind ↔ kind ∈ kinds
  size : ns.size = kinds.toFinset.card
  count : ∀ tag, ns.count tag = (kinds.toFinset.filter (·.tag = tag)).card
  whole : ns.size = ns.count .plain + ns.count .structural + ns.count .voxel
  isEmpty : ns.isEmpty ↔ kinds = []

theorem holds_of_contains {ns : Namespace} {kinds : List ItemKind}
    (contains : ∀ kind, ns.contains kind ↔ kind ∈ kinds) : ns.Holds kinds := by
  have same : ns.kinds.toFinset = kinds.toFinset := by
    ext kind
    rw [List.mem_toFinset, List.mem_toFinset, ← contains, contains_iff]
  have size : ns.size = kinds.toFinset.card := by
    rw [← same, List.toFinset_card_of_nodup ns.nodup, Namespace.size]
  refine ⟨contains, size, fun tag => ?_, ns.size_eq_counts, ?_⟩
  · have tagged : ns.kinds.toFinset.filter (·.tag = tag) =
        (ns.kinds.filter (·.tag = tag)).toFinset := by
      ext kind
      simp
    rw [← same, tagged, List.toFinset_card_of_nodup (ns.nodup.filter _), count,
      List.countP_eq_length_filter]
  · rw [isEmpty, size]
    simp

/-- Namespaces that no question tells apart. -/
structure Same (a b : Namespace) : Prop where
  contains : ∀ kind, a.contains kind = b.contains kind
  resolve : ∀ text, a.resolve? text = b.resolve? text
  size : a.size = b.size

theorem same_of_contains {a b : Namespace} (same : ∀ kind, a.contains kind ↔ b.contains kind) :
    a.Same b := by
  have contains : a.contains = b.contains := funext fun kind => Bool.eq_iff_iff.2 (same kind)
  have held : a.Holds b.kinds := holds_of_contains fun kind => (same kind).trans contains_iff
  have own : b.Holds b.kinds := holds_of_contains fun _ => contains_iff
  refine ⟨congrFun contains, fun text => ?_, held.size.trans own.size.symm⟩
  rw [resolve?, resolve?, contains]

theorem ofLists_contains (lists : NameLists) :
    ∃ ns, (ofLists lists : Traced ε Namespace).outcome = .ok ns ∧
      ∀ kind, ns.contains kind ↔ kind.name ∈ lists.named kind.tag := by
  obtain ⟨ns, run, contains⟩ := insertEach_eq (ε := ε) lists.kinds
  refine ⟨ns, ?_, fun kind => (contains kind).trans NameLists.mem_kinds⟩
  change (empty.insertAll lists.kinds : Traced ε Namespace).outcome = _
  rw [insertAll_eq_insertEach, run]
  rfl

/-- A namespace is a set of kinds under their tags: an insertion adds one kind and tells by its answer
and by a report whether it was there, so that after any number of them each kind is there once. Lists
of the same names make the same namespace. Three sets of names that do not mix, one for each tag, give
the same answers and reports throughout. -/
theorem kinds_inserted (ε : Type) :
    (∀ (ns : Namespace) (kind : ItemKind), ∃ next new events,
      (ns.insert kind : Traced ε (Namespace × Bool)) = ⟨.ok (next, new), events⟩ ∧
        ns.Inserts kind next new events) ∧
    (∀ kinds : List ItemKind, ∃ ns,
      (empty.insertEach kinds : Traced ε (Namespace × List Bool)) =
          ⟨.ok (ns, firstTimes kinds), (repeats kinds).map .duplicateKind⟩ ∧
        ns.Holds kinds ∧ ns.size = (firstTimes kinds).count true) ∧
    (∀ a b : NameLists, a.SameNames b → ∃ ns ns',
      (ofLists a : Traced ε Namespace).outcome = .ok ns ∧
        (ofLists b : Traced ε Namespace).outcome = .ok ns' ∧
        (∀ kind, ns.contains kind ↔ kind.name ∈ a.named kind.tag) ∧ ns.Same ns') ∧
    (∀ kinds : List ItemKind, (TagSets.empty.insertEach kinds : Traced ε (TagSets × List Bool)) =
      Prod.map TagSets.ofNamespace id <$> empty.insertEach kinds) ∧
    ∀ ns : Namespace, (TagSets.ofNamespace ns).Answers ns := by
  refine ⟨insert_inserts, fun kinds => ?_, fun a b same => ?_,
    TagSets.insertEach_ofNamespace empty, TagSets.ofNamespace_answers⟩
  · obtain ⟨ns, run, contains⟩ := insertEach_eq (ε := ε) kinds
    have held := holds_of_contains contains
    exact ⟨ns, run, held, held.size.trans (count_firstTimes kinds).symm⟩
  · obtain ⟨ns, made, contains⟩ := ofLists_contains (ε := ε) a
    obtain ⟨ns', made', contains'⟩ := ofLists_contains (ε := ε) b
    refine ⟨ns, ns', made, made', contains, same_of_contains fun kind => ?_⟩
    rw [contains, contains', same]

namespace Sample

/-- Stone as an item and as a voxel. -/
def stones : NameLists := { items := ["Stone", "Coal"], voxels := ["Stone"] }

def stonesAgain : NameLists := { items := ["Coal", "Stone", "Coal"], voxels := ["Stone", "Stone"] }

end Sample

open Sample in
theorem kinds_inserted_stones :
    stones.SameNames stonesAgain ∧ ∃ ns ns',
      (ofLists stones : Traced Unit Namespace).outcome = .ok ns ∧
        (ofLists stonesAgain : Traced Unit Namespace).outcome = .ok ns' ∧
        (∀ kind, ns.contains kind ↔ kind.name ∈ stones.named kind.tag) ∧ ns.Same ns' := by
  have same : stones.SameNames stonesAgain := by
    intro tag name
    cases tag with
    | plain =>
      simp only [stones, stonesAgain, NameLists.named, List.mem_cons, List.not_mem_nil]
      tauto
    | structural => rfl
    | voxel => simp [stones, stonesAgain, NameLists.named]
  exact ⟨same, (kinds_inserted Unit).2.2.1 stones stonesAgain same⟩

end Namespace

end Craftbook
