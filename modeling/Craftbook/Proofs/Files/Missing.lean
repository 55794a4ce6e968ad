import Craftbook.Proofs.Files.System

/-!
Paths that do not exist. Main statement: reading fails as not found exactly if following the path
comes to where nothing is.
-/
namespace Craftbook

theorem Place.step_ne_notFound (name : String) (here : Place) :
    here.step name ≠ .error .notFound := by
  unfold step child
  split
  · nofun
  · split
    · nofun
    · split <;> nofun

theorem Path.accept_eq_notFound_iff {path : String} : accept path = .error .notFound ↔ path = "" := by
  constructor
  · intro h
    unfold accept at h
    split at h
    · cases h
    · split at h
      · cases h
      · split at h
        · assumption
        · cases h
  · rintro rfl
    simp [accept]

namespace FileSystem
variable {fs : FileSystem} {here place : Place} {path : String}

/-- A path that does not exist: it is empty, or its first steps lead to a place where nothing is. -/
inductive Missing (fs : FileSystem) (path : String) : Prop
  | empty (none : path = "")
  | gap {there : Place} {front back : List String} (accepted : Path.accept path = .ok ())
      (split : Path.steps path = front ++ back)
      (followed : fs.follow (fs.start path) front = .ok there) (gone : fs.look there = none)

theorem directory_eq_notFound_iff :
    fs.directory place = .error .notFound ↔ fs.look place = none := by
  rw [directory, look]
  split <;> simp_all

/-- Following stops short of where nothing is. -/
theorem follow_eq_notFound_iff {steps : List String} :
    fs.follow here steps = .error .notFound ↔
      ∃ front name back there, steps = front ++ name :: back ∧ fs.follow here front = .ok there ∧
        fs.look there = none := by
  induction steps generalizing here with
  | nil => simp [follow]
  | cons step rest ih =>
    simp only [follow_cons, bind_eq_error_iff, directory_eq_notFound_iff, Place.step_ne_notFound,
      false_or, ih]
    constructor
    · rintro (gone | ⟨entries, found, next, stepped, front, name, back, there, rfl, followed, gone⟩)
      · exact ⟨[], step, rest, here, rfl, rfl, gone⟩
      · refine ⟨step :: front, name, back, there, rfl, ?_, gone⟩
        simp only [follow_cons, bind_eq_ok_iff]
        exact ⟨entries, found, next, stepped, followed⟩
    · rintro ⟨front, name, back, there, split, followed, gone⟩
      cases front with
      | nil =>
        cases split
        cases followed
        exact .inl gone
      | cons first front =>
        cases split
        simp only [follow_cons, bind_eq_ok_iff] at followed
        obtain ⟨entries, found, next, stepped, later⟩ := followed
        exact .inr ⟨entries, found, next, stepped, front, name, back, there, rfl, later, gone⟩

theorem readBytes_eq_notFound_iff_locate :
    fs.readBytes path = .error .notFound ↔
      fs.locate path = .error .notFound ∨
        ∃ place, fs.locate path = .ok place ∧ fs.look place = none := by
  rw [readBytes, bind_eq_error_iff]
  refine or_congr_right (exists_congr fun place => and_congr_right fun _ => ?_)
  rw [look]
  split <;> simp_all [pure, Except.pure, throw, throwThe, MonadExceptOf.throw]

theorem locate_eq_notFound_iff :
    fs.locate path = .error .notFound ↔
      path = "" ∨ Path.accept path = .ok () ∧
        fs.follow (fs.start path) (Path.steps path) = .error .notFound := by
  rw [locate, bind_eq_error_iff, Path.accept_eq_notFound_iff]
  refine or_congr_right ?_
  constructor
  · rintro ⟨_, accepted, stopped⟩
    exact ⟨accepted, stopped⟩
  · rintro ⟨accepted, stopped⟩
    exact ⟨(), accepted, stopped⟩

theorem readBytes_eq_notFound_iff : fs.readBytes path = .error .notFound ↔ fs.Missing path := by
  rw [readBytes_eq_notFound_iff_locate]
  simp only [locate_eq_notFound_iff, locate_eq_ok_iff, follow_eq_notFound_iff]
  constructor
  · rintro ((empty | ⟨accepted, front, name, back, there, split, followed, gone⟩) |
      ⟨place, ⟨accepted, followed⟩, gone⟩)
    · exact .empty empty
    · exact .gap accepted split followed gone
    · exact .gap accepted (List.append_nil _).symm followed gone
  · intro missing
    cases missing with
    | empty none => exact .inl (.inl none)
    | @gap there front back accepted split followed gone =>
      cases back with
      | nil =>
        rw [List.append_nil] at split
        exact .inr ⟨there, ⟨accepted, split ▸ followed⟩, gone⟩
      | cons name back =>
        exact .inl (.inr ⟨accepted, front, name, back, there, split, followed, gone⟩)

end FileSystem

end Craftbook
