import Craftbook.Proofs.Item.Authored
import Craftbook.Proofs.Text.Spacing

/-!
The grammar of authored forms. Main statement: the texts that name a kind are its form with any white
space around it, so that reading takes back what writing made, and nothing else is read.
-/
namespace Craftbook

namespace Text

theorem not_isBlank_of_isWordChar {c : Char} (h : IsWordChar c) : ¬ isBlank c := by
  simp only [IsWordChar, IsLetter, isBlank, Char.le_def, ← Char.val_inj, Bool.or_eq_true,
    Bool.and_eq_true, decide_eq_true_eq, UInt32.le_iff_toNat_le, ← UInt32.toNat_inj,
    Char.reduceVal, UInt32.reduceToNat] at h ⊢
  omega

theorem trim_of_not_blank {s : List Char} (solid : ∀ c ∈ s, ¬ isBlank c) : trim s = s := by
  have front : s.dropWhile isBlank = s := by
    rw [List.dropWhile_eq_self_iff]
    exact fun _ => solid _ (List.getElem_mem _)
  rw [trim_eq, front, List.rdropWhile_eq_self_iff]
  exact fun _ => solid _ (List.getLast_mem _)

end Text

namespace ItemKind

/-- The grammar of forms: a name by itself, or in the wrapper of its tag. -/
inductive Denotes : String → ItemKind → Prop
  | plain {name : String} : Text.Word Text.IsLetter name → Denotes name ⟨.plain, name⟩
  | structural {name : String} : Text.Word Text.IsLetter name →
      Denotes ("Structure(StructureKind::" ++ name ++ ")") ⟨.structural, name⟩
  | voxel {name : String} : Text.Word Text.IsLetter name →
      Denotes ("Voxel(Voxel::" ++ name ++ ")") ⟨.voxel, name⟩

/-- A form with any amount of white space around it. -/
def Writes (text : String) (kind : ItemKind) : Prop :=
  ∃ form, Denotes form kind ∧ Text.Spaced form.toList text.toList

theorem denotes_iff {form : String} {kind : ItemKind} :
    Denotes form kind ↔ kind.Named ∧ form = kind.authored := by
  constructor
  · rintro (word | word | word)
    · exact ⟨named_iff_word.2 word, by simp [authored, KindTag.opening, KindTag.closing]⟩
    · exact ⟨named_iff_word.2 word, rfl⟩
    · exact ⟨named_iff_word.2 word, rfl⟩
  · rintro ⟨named, rfl⟩
    obtain ⟨tag, name⟩ := kind
    have word := named_iff_word.1 named
    cases tag with
    | plain => simpa [authored, KindTag.opening, KindTag.closing] using Denotes.plain word
    | structural => exact .structural word
    | voxel => exact .voxel word

theorem wrapper_not_blank (tag : KindTag) :
    (∀ c ∈ tag.opening.toList, ¬ Text.isBlank c) ∧ ∀ c ∈ tag.closing.toList, ¬ Text.isBlank c := by
  rw [← List.any_eq_false, ← List.any_eq_false]
  cases tag <;> decide +kernel

/-- There is no white space in a form. -/
theorem Named.trim_authored {kind : ItemKind} (named : kind.Named) :
    Text.trim kind.authored.toList = kind.authored.toList := by
  obtain ⟨opening, closing⟩ := wrapper_not_blank kind.tag
  apply Text.trim_of_not_blank
  intro c member
  rw [authored_toList, List.mem_append, List.mem_append] at member
  rcases member with before | inside | after
  · exact opening c before
  · have wordChar := Text.isAlphanum_or_underscore_iff.1 (named.isNameChar c inside)
    exact Text.not_isBlank_of_isWordChar wordChar
  · exact closing c after

theorem writes_iff {text : String} {kind : ItemKind} :
    Writes text kind ↔ kind.Named ∧ Text.trim text.toList = kind.authored.toList := by
  simp only [Writes, denotes_iff]
  constructor
  · rintro ⟨_, ⟨named, rfl⟩, spaced⟩
    exact ⟨named, spaced.trim_eq.trans named.trim_authored⟩
  · rintro ⟨named, trimmed⟩
    refine ⟨_, ⟨named, rfl⟩, ?_⟩
    rw [← trimmed]
    exact Text.spaced_trim text.toList

theorem parse?_eq_some_iff_writes {text : String} {kind : ItemKind} :
    parse? text = some kind ↔ Writes text kind :=
  parse?_eq_some_iff.trans writes_iff.symm

theorem writes_padded {kind : ItemKind} (named : kind.Named) {before after : List Char}
    (blankBefore : ∀ c ∈ before, Text.isBlank c) (blankAfter : ∀ c ∈ after, Text.isBlank c) :
    Writes (String.ofList before ++ kind.authored ++ String.ofList after) kind := by
  refine ⟨kind.authored, denotes_iff.2 ⟨named, rfl⟩, before, after, blankBefore, blankAfter, ?_⟩
  simp only [String.toList_append, String.toList_ofList]

/-- Reading accepts the forms of the grammar with white space around them, and no other texts. It is
the inverse of writing, so that a text is a form of one kind at most; and a namespace resolves it if
it has that kind. -/
theorem reading_inverts_writing (names : Namespace) (text : String) (kind : ItemKind) :
    (parse? text = some kind ↔ Writes text kind) ∧
    (Writes text kind ↔ Text.Word Text.IsLetter kind.name ∧
      String.ofList (Text.trim text.toList) = kind.authored) ∧
    (Text.Word Text.IsLetter kind.name → ∀ before after : List Char,
      (∀ c ∈ before, Text.isBlank c) → (∀ c ∈ after, Text.isBlank c) →
        parse? (String.ofList before ++ kind.authored ++ String.ofList after) = some kind) ∧
    (∀ other, Writes text kind → Writes text other → kind = other) ∧
    (names.resolve? text = some kind ↔ Writes text kind ∧ names.contains kind) := by
  refine ⟨parse?_eq_some_iff_writes, ?_, fun word before after blank blank' => ?_,
    fun other first second => ?_, ?_⟩
  · rw [writes_iff, named_iff_word, ← String.toList_inj, String.toList_ofList]
  · exact parse?_eq_some_iff_writes.2 (writes_padded (named_iff_word.2 word) blank blank')
  · rw [← parse?_eq_some_iff_writes] at first second
    exact Option.some.inj (first.symm.trans second)
  · rw [resolve?_eq_some_iff, writes_iff, and_assoc]

theorem reading_inverts_writing_belt :
    let belt : ItemKind := ⟨.structural, "Belt"⟩
    let yard : Namespace := ⟨[belt, ⟨.plain, "Belt"⟩], by decide⟩
    let text := String.ofList ['\t', '\u3000'] ++ belt.authored ++ String.ofList ['\x85']
    Text.Word Text.IsLetter belt.name ∧ (∀ c ∈ ['\t', '\u3000'], Text.isBlank c) ∧
      (∀ c ∈ ['\x85'], Text.isBlank c) ∧ parse? text = some belt ∧ Writes text belt ∧
      (∀ other, Writes text other → belt = other) ∧ yard.resolve? text = some belt := by
  intro belt yard text
  have named : isName belt.name.toList := by decide
  have word := named_iff_word.1 named
  have blank : ∀ c ∈ ['\t', '\u3000'], Text.isBlank c := List.all_eq_true.1 rfl
  have blank' : ∀ c ∈ ['\x85'], Text.isBlank c := List.all_eq_true.1 rfl
  obtain ⟨read, -, padded, unique, resolved⟩ := reading_inverts_writing yard text belt
  have found := padded word _ _ blank blank'
  have written := read.1 found
  exact ⟨word, blank, blank', found, written, fun other => unique other written,
    resolved.2 ⟨written, by decide⟩⟩

end ItemKind

end Craftbook
