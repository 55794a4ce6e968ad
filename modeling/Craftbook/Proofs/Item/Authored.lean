import Craftbook.Proofs.Item.Path
import Craftbook.Proofs.Text.Word

/-!
Authored forms of kinds. Main statements: what a text names is the kind whose authored form it is,
white space aside, and so known names that differ otherwise name different kinds.
-/
namespace Craftbook.ItemKind

theorem named_iff_word {kind : ItemKind} : kind.Named ↔ Text.Word Text.IsLetter kind.name := by
  unfold Named Text.Word
  cases kind.name.toList with
  | nil => simp [isName]
  | cons first rest =>
    simp only [isName, Bool.and_eq_true, List.all_eq_true, Text.isAlpha_iff,
      Text.isAlphanum_or_underscore_iff, List.cons.injEq]
    refine ⟨fun h => ⟨first, rest, ⟨rfl, rfl⟩, h⟩, ?_⟩
    rintro ⟨_, _, ⟨rfl, rfl⟩, h⟩
    exact h

theorem named?_eq_some_iff {tag : KindTag} {name : List Char} {kind : ItemKind} :
    named? tag name = some kind ↔ kind.Named ∧ kind.tag = tag ∧ name = kind.name.toList := by
  unfold named? Named
  split
  · rename_i valid
    rw [Option.some_inj]
    refine ⟨?_, ?_⟩
    · rintro rfl
      exact ⟨by rwa [String.toList_ofList], rfl, String.toList_ofList.symm⟩
    · rintro ⟨-, rfl, rfl⟩
      rw [String.ofList_toList]
  · rename_i invalid
    simp only [reduceCtorEq, false_iff]
    rintro ⟨valid, -, rfl⟩
    exact absurd valid invalid

theorem wrapped?_eq_some_iff {tag : KindTag} {text : List Char} {kind : ItemKind} :
    wrapped? tag text = some kind ↔
      kind.Named ∧ kind.tag = tag ∧ text = kind.name.toList ++ tag.closing.toList := by
  unfold wrapped?
  split
  · rename_i name found
    rw [named?_eq_some_iff, ← List.isSuffixOf?_eq_some_iff_append_eq.1 found,
      List.append_left_inj]
  · rename_i missing
    simp only [reduceCtorEq, false_iff]
    rintro ⟨-, rfl, rfl⟩
    rw [List.isSuffixOf?_eq_some_iff_append_eq.2 rfl] at missing
    cases missing

/-- Only a kind of a wrapped tag is written with the wrapper of the tag. -/
theorem tag_of_opening {kind : ItemKind} (named : kind.Named) {tag : KindTag} (wraps : tag ≠ .plain)
    {rest : List Char} (h : kind.authored.toList = tag.opening.toList ++ rest) : kind.tag = tag := by
  obtain ⟨own, name⟩ := kind
  rw [authored_toList] at h
  cases own with
  | plain =>
    -- A name has no bracket.
    have bracket : '(' ∈ tag.opening.toList := by
      cases tag with
      | plain => exact absurd rfl wraps
      | structural | voxel => decide +kernel
    have inside : '(' ∈ name.toList := by
      have written : name.toList = tag.opening.toList ++ rest := by
        simpa [KindTag.opening, KindTag.closing] using h
      rw [written]
      exact List.mem_append_left _ bracket
    exact absurd (named.isNameChar '(' inside) (by decide)
  | structural =>
    cases tag with
    | plain => exact absurd rfl wraps
    | structural => rfl
    | voxel => simp [KindTag.opening] at h
  | voxel =>
    cases tag with
    | plain => exact absurd rfl wraps
    | structural => simp [KindTag.opening] at h
    | voxel => rfl

theorem wrapped?_parses {tag : KindTag} (wraps : tag ≠ .plain) {rest : List Char} {kind : ItemKind} :
    wrapped? tag rest = some kind ↔
      kind.Named ∧ tag.opening.toList ++ rest = kind.authored.toList := by
  rw [wrapped?_eq_some_iff]
  refine and_congr_right fun named => ⟨?_, fun h => ?_⟩
  · rintro ⟨rfl, rfl⟩
    exact (authored_toList kind).symm
  · obtain rfl := tag_of_opening named wraps h.symm
    rw [authored_toList] at h
    exact ⟨rfl, List.append_cancel_left h⟩

theorem named?_parses {text : List Char} {kind : ItemKind}
    (bare : ∀ tag ≠ KindTag.plain, tag.opening.toList.isPrefixOf? text = none) :
    named? .plain text = some kind ↔ kind.Named ∧ text = kind.authored.toList := by
  rw [named?_eq_some_iff, authored_toList]
  refine and_congr_right fun named => ⟨?_, ?_⟩
  · rintro ⟨plain, rfl⟩
    rw [plain]
    exact (List.append_nil _).symm
  · intro written
    by_cases plain : kind.tag = .plain
    · refine ⟨plain, ?_⟩
      rw [written, plain]
      exact List.append_nil _
    · have missing := bare kind.tag plain
      rw [List.isPrefixOf?_eq_some_iff_append_eq.2 written.symm] at missing
      cases missing

/-- The kind that a text names is the one whose authored form it is, white space around it aside. -/
theorem parse?_eq_some_iff {text : String} {kind : ItemKind} :
    parse? text = some kind ↔ kind.Named ∧ Text.trim text.toList = kind.authored.toList := by
  unfold parse?
  dsimp only
  split
  · rename_i rest found
    rw [wrapped?_parses (by decide), List.isPrefixOf?_eq_some_iff_append_eq.1 found]
  · rename_i notStructural
    split
    · rename_i rest found
      rw [wrapped?_parses (by decide), List.isPrefixOf?_eq_some_iff_append_eq.1 found]
    · rename_i notVoxel
      apply named?_parses
      intro tag wraps
      cases tag with
      | plain => exact absurd rfl wraps
      | structural => exact notStructural
      | voxel => exact notVoxel

theorem resolve?_eq_some_iff {names : Namespace} {text : String} {kind : ItemKind} :
    names.resolve? text = some kind ↔
      kind.Named ∧ Text.trim text.toList = kind.authored.toList ∧ names.contains kind := by
  rw [Namespace.resolve?, Option.filter_eq_some_iff, parse?_eq_some_iff, and_assoc]

/-- Two known names make the same kind exactly if they are the same text, white space around them
aside. -/
theorem resolve?_eq_iff {names : Namespace} {text text' : String}
    (known : (names.resolve? text).isSome) (known' : (names.resolve? text').isSome) :
    names.resolve? text = names.resolve? text' ↔
      Text.trim text.toList = Text.trim text'.toList := by
  obtain ⟨kind, made⟩ := Option.isSome_iff_exists.1 known
  obtain ⟨kind', made'⟩ := Option.isSome_iff_exists.1 known'
  obtain ⟨named, written, -⟩ := resolve?_eq_some_iff.1 made
  obtain ⟨named', written', -⟩ := resolve?_eq_some_iff.1 made'
  rw [made, made', written, written', Option.some_inj, ← path_inj named named', path, path]
  rw [← String.toList_inj, String.toList_append, String.toList_append, List.append_right_inj]

end Craftbook.ItemKind
