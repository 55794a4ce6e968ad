import Craftbook.Proofs.Toml.DistinctKeys
import Craftbook.Toml.Document

/-!
The tree that a text describes. Main statement: at every level of it, the keys of a table differ.
-/
namespace Craftbook.Toml

namespace Number

theorem isScalar_of_unsigned? {base : Nat} {isDigit : Char → Bool} {s rest : List Char}
    {value : Value} (h : unsigned? base isDigit s = some (value, rest)) : value.IsScalar := by
  obtain ⟨_, -, h⟩ := Option.bind_eq_some_iff.1 h
  obtain ⟨_, -, last⟩ := Option.bind_eq_some_iff.1 h
  cases last
  trivial

theorem isScalar_of_integer? {s rest : List Char} {value : Value}
    (h : integer? s = some (value, rest)) : value.IsScalar := by
  unfold integer? at h
  split at h
  · exact isScalar_of_unsigned? h
  · exact isScalar_of_unsigned? h
  · exact isScalar_of_unsigned? h
  · obtain ⟨_, -, h⟩ := Option.bind_eq_some_iff.1 h
    obtain ⟨_, -, last⟩ := Option.bind_eq_some_iff.1 h
    cases last
    trivial

theorem isScalar_of_float? {negative : Bool} {d : Decimal} {value : Value}
    (h : float? negative d = some value) : value.IsScalar := by
  unfold float? at h
  split at h
  · cases h
  · cases h
    trivial

theorem isScalar_of_read? {s rest : List Char} {value : Value}
    (h : read? s = some (value, rest)) : value.IsScalar := by
  unfold read? at h
  dsimp only at h
  split at h
  · cases h
    trivial
  · split at h
    · obtain ⟨x, is, last⟩ := Option.map_eq_some_iff.1 h
      cases last
      exact isScalar_of_float? is
    · split at h
      · cases h
        trivial
      · exact isScalar_of_integer? h

end Number

namespace Statement

theorem isScalar_of_keyword? {s rest : List Char} {value : Value}
    (h : keyword? s = some (value, rest)) : value.IsScalar := by
  unfold keyword? at h
  split at h <;> cases h <;> trivial

theorem isScalar_of_scalar? {s rest : List Char} {value : Value}
    (h : scalar? s = some (value, rest)) : value.IsScalar := by
  unfold scalar? at h
  split at h
  · obtain ⟨_, -, last⟩ := Option.map_eq_some_iff.1 h
    cases last
    trivial
  · obtain ⟨_, -, last⟩ := Option.map_eq_some_iff.1 h
    cases last
    trivial
  · exact isScalar_of_keyword? h
  · exact isScalar_of_keyword? h
  · exact Number.isScalar_of_read? h

/-- What is read with so much fuel names each entry of a table once. -/
structure ReadsDistinct (fuel : Nat) : Prop where
  value : ∀ {depth s value rest}, value? fuel depth s = some (value, rest) → value.DistinctKeys
  elements : ∀ {depth s elements rest}, elements? fuel depth s = some (elements, rest) →
    ∀ value ∈ elements, value.DistinctKeys
  pairs : ∀ {depth s pairs rest}, pairs? fuel depth s = some (pairs, rest) →
    ∀ pair ∈ pairs, pair.2.DistinctKeys

theorem inlineTable_distinctKeys {pairs : List (Key × Value)} {s rest : List Char} {value : Value}
    (values : ∀ pair ∈ pairs, pair.2.DistinctKeys)
    (h : (do return (Value.table (Draft.entriesValue (← Draft.addPairs [] pairs)), s)) =
      some (value, rest)) : value.DistinctKeys := by
  obtain ⟨entries, built, last⟩ := Option.bind_eq_some_iff.1 h
  cases last
  exact (Draft.Distinct.addPairs values .nil built).value

theorem ReadsDistinct.value_succ {fuel : Nat} (ih : ReadsDistinct fuel) {depth : Nat}
    {s rest : List Char} {value : Value} (h : value? (fuel + 1) depth s = some (value, rest)) :
    value.DistinctKeys := by
  unfold value? at h
  split at h
  · cases h
  · cases h
  · cases h
  · rename_i same
    cases same
    obtain ⟨_, each, last⟩ := Option.bind_eq_some_iff.1 h
    cases last
    exact .array (ih.elements each)
  · rename_i same
    cases same
    dsimp only at h
    split at h
    · rw [Option.bind_eq_bind, Option.bind_some] at h
      exact inlineTable_distinctKeys (by simp) h
    · obtain ⟨_, each, h⟩ := Option.bind_eq_some_iff.1 h
      exact inlineTable_distinctKeys (ih.pairs each) h
  · exact .scalar (isScalar_of_scalar? h)

theorem ReadsDistinct.elements_succ {fuel : Nat} (ih : ReadsDistinct fuel) {depth : Nat}
    {s rest : List Char} {elements : List Value}
    (h : elements? (fuel + 1) depth s = some (elements, rest)) :
    ∀ value ∈ elements, value.DistinctKeys := by
  unfold elements? at h
  obtain ⟨_, -, h⟩ := Option.bind_eq_some_iff.1 h
  split at h
  · cases h
    simp
  · obtain ⟨_, first, h⟩ := Option.bind_eq_some_iff.1 h
    obtain ⟨_, -, h⟩ := Option.bind_eq_some_iff.1 h
    split at h
    · cases h
      simpa using ih.value first
    · obtain ⟨_, later, last⟩ := Option.bind_eq_some_iff.1 h
      cases last
      exact List.forall_mem_cons.2 ⟨ih.value first, ih.elements later⟩
    · cases h

theorem ReadsDistinct.pairs_succ {fuel : Nat} (ih : ReadsDistinct fuel) {depth : Nat}
    {s rest : List Char} {pairs : List (Key × Value)}
    (h : pairs? (fuel + 1) depth s = some (pairs, rest)) :
    ∀ pair ∈ pairs, pair.2.DistinctKeys := by
  unfold pairs? at h
  obtain ⟨⟨key, s⟩, -, h⟩ := Option.bind_eq_some_iff.1 h
  obtain ⟨s, -, h⟩ := Option.bind_eq_some_iff.1 h
  obtain ⟨⟨value, s⟩, first, h⟩ := Option.bind_eq_some_iff.1 h
  dsimp only at h
  split at h
  · cases h
    simpa using ih.value first
  · obtain ⟨_, later, last⟩ := Option.bind_eq_some_iff.1 h
    cases last
    exact List.forall_mem_cons.2 ⟨ih.value first, ih.pairs later⟩
  · cases h

theorem readsDistinct (fuel : Nat) : ReadsDistinct fuel := by
  induction fuel with
  | zero => exact ⟨nofun, nofun, nofun⟩
  | succ fuel ih => exact ⟨ih.value_succ, ih.elements_succ, ih.pairs_succ⟩

/-- The value of a pair names each entry of a table once. -/
def DistinctKeys : Statement → Prop
  | .pair _ value => value.DistinctKeys
  | .header _ | .arrayHeader _ => True

theorem distinctKeys_of_read? {s rest : List Char} {statement : Statement}
    (h : read? s = some (statement, rest)) : statement.DistinctKeys := by
  unfold read? at h
  split at h
  · obtain ⟨_, -, h⟩ := Option.bind_eq_some_iff.1 h
    obtain ⟨_, -, h⟩ := Option.bind_eq_some_iff.1 h
    obtain ⟨_, -, last⟩ := Option.bind_eq_some_iff.1 h
    cases last
    trivial
  · obtain ⟨_, -, h⟩ := Option.bind_eq_some_iff.1 h
    obtain ⟨_, -, last⟩ := Option.bind_eq_some_iff.1 h
    cases last
    trivial
  · obtain ⟨_, -, h⟩ := Option.bind_eq_some_iff.1 h
    obtain ⟨_, -, h⟩ := Option.bind_eq_some_iff.1 h
    obtain ⟨_, read, last⟩ := Option.bind_eq_some_iff.1 h
    cases last
    exact (readsDistinct _).value read

theorem distinctKeys_of_readAll? {fuel : Nat} {s : List Char} {statements : List Statement}
    (h : readAll? fuel s = some statements) : ∀ statement ∈ statements, statement.DistinctKeys := by
  induction fuel generalizing s statements with
  | zero => cases h
  | succ fuel ih =>
    unfold readAll? at h
    split at h
    · cases h
      simp
    · split at h
      · exact ih h
      · obtain ⟨_, first, h⟩ := Option.bind_eq_some_iff.1 h
        obtain ⟨_, -, h⟩ := Option.bind_eq_some_iff.1 h
        obtain ⟨_, later, last⟩ := Option.bind_eq_some_iff.1 h
        cases last
        exact List.forall_mem_cons.2 ⟨distinctKeys_of_read? first, ih later⟩

end Statement

theorem distinctKeys_sections {statements : List Statement}
    (values : ∀ statement ∈ statements, statement.DistinctKeys) :
    (∀ pair ∈ (sections statements).1, pair.2.DistinctKeys) ∧
      ∀ s ∈ (sections statements).2, ∀ pair ∈ s.pairs, pair.2.DistinctKeys := by
  induction statements with
  | nil => exact ⟨by simp [sections], by simp [sections]⟩
  | cons statement rest ih =>
    rw [List.forall_mem_cons] at values
    obtain ⟨pairs, after⟩ := ih values.2
    cases statement with
    | pair key value => exact ⟨List.forall_mem_cons.2 ⟨values.1, pairs⟩, after⟩
    | header key => exact ⟨by simp [sections], List.forall_mem_cons.2 ⟨pairs, after⟩⟩
    | arrayHeader key => exact ⟨by simp [sections], List.forall_mem_cons.2 ⟨pairs, after⟩⟩

theorem Section.addTo_distinct {s : Section} (values : ∀ pair ∈ s.pairs, pair.2.DistinctKeys)
    {entries entries' : Draft.Entries} (h : Draft.Distinct entries)
    (done : s.addTo entries = some entries') : Draft.Distinct entries' := by
  refine h.descend (fun h change => ?_) done
  split at change
  · exact h.addElement values change
  · exact h.addTable values change

namespace Document

theorem distinct_of_foldlM {rest : List Section}
    (values : ∀ s ∈ rest, ∀ pair ∈ s.pairs, pair.2.DistinctKeys)
    {entries entries' : Draft.Entries} (h : Draft.Distinct entries)
    (done : rest.foldlM Section.addTo entries = some entries') : Draft.Distinct entries' := by
  induction rest generalizing entries with
  | nil =>
    cases done
    exact h
  | cons s rest ih =>
    rw [List.forall_mem_cons] at values
    rw [List.foldlM_cons] at done
    obtain ⟨next, first, later⟩ := Option.bind_eq_some_iff.1 done
    exact ih values.2 (Section.addTo_distinct values.1 h first) later

/-- At every level of a document, each entry of a table is named once. -/
theorem distinctKeys_of_read? {text : String} {entries : List (String × Value)}
    (h : read? text = some entries) : (Value.table entries).DistinctKeys := by
  obtain ⟨statements, read, h⟩ := Option.bind_eq_some_iff.1 h
  obtain ⟨root, built, h⟩ := Option.bind_eq_some_iff.1 h
  obtain ⟨whole, folded, last⟩ := Option.bind_eq_some_iff.1 h
  cases last
  obtain ⟨first, rest⟩ := distinctKeys_sections (Statement.distinctKeys_of_readAll? read)
  exact (distinct_of_foldlM rest (Draft.Distinct.addPairs first .nil built) folded).value

end Document

end Craftbook.Toml
