import Craftbook.Item.Namespace
import Craftbook.Proofs.Text.Reading

/-!
Kinds with well-formed names, which are the only ones that names resolve to. Main statement: such a
kind can be read off the front of a text, so different kinds have different paths.
-/
namespace Craftbook.ItemKind

def isNameChar (c : Char) : Bool := c.isAlphanum || c = '_'

/-- A kind whose name is a letter followed by letters, digits or underscores. -/
def Named (kind : ItemKind) : Prop := isName kind.name.toList

theorem Named.isNameChar {kind : ItemKind} (h : kind.Named) :
    ∀ c ∈ kind.name.toList, isNameChar c := by
  unfold Named at h
  cases name : kind.name.toList with
  | nil => simp
  | cons first rest =>
    rw [name, isName, Bool.and_eq_true, List.all_eq_true] at h
    intro c member
    rcases List.mem_cons.1 member with rfl | member
    · simp [ItemKind.isNameChar, Char.isAlphanum, h.1]
    · exact h.2 c member

theorem named?_named {tag : KindTag} {name : List Char} {kind : ItemKind}
    (h : named? tag name = some kind) : kind.Named := by
  unfold named? at h
  split at h
  · rename_i valid
    cases h
    simpa only [Named, String.toList_ofList] using valid
  · cases h

theorem wrapped?_named {tag : KindTag} {text : List Char} {kind : ItemKind}
    (h : wrapped? tag text = some kind) : kind.Named := by
  unfold wrapped? at h
  split at h
  · exact named?_named h
  · cases h

theorem parse?_named {text : String} {kind : ItemKind} (h : parse? text = some kind) :
    kind.Named := by
  unfold parse? at h
  dsimp only at h
  split at h
  · exact wrapped?_named h
  · split at h
    · exact wrapped?_named h
    · exact named?_named h

theorem resolve?_named {names : Namespace} {text : String} {kind : ItemKind}
    (h : names.resolve? text = some kind) : kind.Named :=
  parse?_named (Option.filter_eq_some_iff.1 h).1

/-- Neither a name nor a wrapper goes on here. -/
def EndsKind : List Char → Prop := Text.Ends fun c => isNameChar c || c = '('

theorem EndsKind.endsName {s : List Char} (h : EndsKind s) : Text.Ends isNameChar s := by
  intro c member
  exact (Bool.or_eq_false_iff.1 (h c member)).1

theorem authored_toList (kind : ItemKind) :
    kind.authored.toList =
      kind.tag.opening.toList ++ (kind.name.toList ++ kind.tag.closing.toList) := by
  rw [authored, String.toList_append, String.toList_append, List.append_assoc]

theorem bare_ne_wrapped {name word r s : List Char} (hn : ∀ c ∈ name, isNameChar c)
    (hw : ∀ c ∈ word, isNameChar c) (hr : EndsKind r) : name ++ r ≠ word ++ '(' :: s := by
  intro h
  obtain ⟨-, rest⟩ := Text.cancel_run hn hw hr.endsName (Text.ends_cons rfl) h
  have ended := hr '(' (by rw [rest]; rfl)
  cases ended

theorem authored_cancels : Text.Cancels Named EndsKind fun kind => kind.authored.toList := by
  rintro ⟨tag, name⟩ ⟨tag', name'⟩ r s ha hb hr hs h
  have run := ha.isNameChar
  have run' := hb.isNameChar
  have structural : ∀ c ∈ "Structure".toList, isNameChar c := List.all_eq_true.1 rfl
  have voxel : ∀ c ∈ "Voxel".toList, isNameChar c := List.all_eq_true.1 rfl
  have wrapped : ∀ {r s : List Char}, name.toList ++ ')' :: r = name'.toList ++ ')' :: s →
      name = name' ∧ r = s := by
    intro r s h
    obtain ⟨same, rest⟩ := Text.cancel_run run run' (Text.ends_cons rfl) (Text.ends_cons rfl) h
    exact ⟨String.toList_injective same, (List.cons.inj rest).2⟩
  simp only [authored_toList, List.append_assoc] at h
  -- A bare name ends where a wrapper has its bracket; the two wrappers differ in a letter.
  cases tag <;> cases tag'
  case plain.plain =>
    obtain ⟨same, rest⟩ := Text.cancel_run run run' hr.endsName hs.endsName h
    exact ⟨congrArg (ItemKind.mk .plain) (String.toList_injective same), rest⟩
  case structural.structural =>
    obtain ⟨rfl, rest⟩ := wrapped (List.append_cancel_left h)
    exact ⟨rfl, rest⟩
  case voxel.voxel =>
    obtain ⟨rfl, rest⟩ := wrapped (List.append_cancel_left h)
    exact ⟨rfl, rest⟩
  case plain.structural => exact absurd h (bare_ne_wrapped run structural hr)
  case plain.voxel => exact absurd h (bare_ne_wrapped run voxel hr)
  case structural.plain => exact absurd h.symm (bare_ne_wrapped run' structural hs)
  case voxel.plain => exact absurd h.symm (bare_ne_wrapped run' voxel hs)
  case structural.voxel => cases h
  case voxel.structural => cases h

theorem path_toList (kind : ItemKind) :
    kind.path.toList = "ItemKind::".toList ++ kind.authored.toList := by
  rw [path, String.toList_append]

theorem path_cancels : Text.Cancels Named EndsKind fun kind => kind.path.toList := by
  intro a b r s ha hb hr hs h
  simp only [path_toList, List.append_assoc] at h
  exact authored_cancels ha hb hr hs (List.append_cancel_left h)

theorem path_inj {a b : ItemKind} (ha : a.Named) (hb : b.Named) : a.path = b.path ↔ a = b := by
  refine ⟨?_, ?_⟩
  · intro h
    have nothing : EndsKind [] := by simp [EndsKind, Text.Ends]
    have texts : a.path.toList ++ [] = b.path.toList ++ [] := by rw [h]
    exact (path_cancels ha hb nothing nothing texts).1
  · rintro rfl
    rfl

end Craftbook.ItemKind
