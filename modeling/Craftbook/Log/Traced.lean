import Craftbook.Log.Event

/-!
Computations that report events and may stop at an error. What was reported before the error is
kept, and nothing is reported after it.
-/
namespace Craftbook

structure Traced (ε α : Type) where
  outcome : Except ε α
  events : List Event

namespace Traced

instance : Monad (Traced ε) where
  pure a := ⟨.ok a, []⟩
  bind x f :=
    match x.outcome with
    | .ok a => ⟨(f a).outcome, x.events ++ (f a).events⟩
    | .error e => ⟨.error e, x.events⟩

def ofExcept (outcome : Except ε α) : Traced ε α := ⟨outcome, []⟩

def report (event : Event) : Traced ε Unit := ⟨.ok (), [event]⟩

def reportIf (condition : Bool) (event : Event) : Traced ε Unit :=
  ⟨.ok (), if condition then [event] else []⟩

def mapError (f : ε → δ) (x : Traced ε α) : Traced δ α := ⟨x.outcome.mapError f, x.events⟩

@[simp] theorem outcome_pure (a : α) : (pure a : Traced ε α).outcome = .ok a := rfl

@[simp] theorem events_pure (a : α) : (pure a : Traced ε α).events = [] := rfl

@[simp] theorem outcome_bind (x : Traced ε α) (f : α → Traced ε β) :
    (x >>= f).outcome = x.outcome >>= fun a => (f a).outcome := by
  obtain ⟨outcome, events⟩ := x
  cases outcome <;> rfl

@[simp] theorem outcome_ofExcept (outcome : Except ε α) : (ofExcept outcome).outcome = outcome := rfl

@[simp] theorem outcome_report (event : Event) :
    (report event : Traced ε Unit).outcome = .ok () := rfl

@[simp] theorem outcome_reportIf (condition : Bool) (event : Event) :
    (reportIf condition event : Traced ε Unit).outcome = .ok () := rfl

@[simp] theorem outcome_mapError (f : ε → δ) (x : Traced ε α) :
    (x.mapError f).outcome = x.outcome.mapError f := rfl

theorem ok_bind (a : α) (events : List Event) (f : α → Traced ε β) :
    (⟨.ok a, events⟩ : Traced ε α) >>= f = ⟨(f a).outcome, events ++ (f a).events⟩ := rfl

theorem events_bind_ok {x : Traced ε α} {a : α} (h : x.outcome = .ok a) (f : α → Traced ε β) :
    (x >>= f).events = x.events ++ (f a).events := by
  obtain ⟨outcome, events⟩ := x
  cases h
  rfl

theorem events_bind_error {x : Traced ε α} {e : ε} (h : x.outcome = .error e)
    (f : α → Traced ε β) : (x >>= f).events = x.events := by
  obtain ⟨outcome, events⟩ := x
  cases h
  rfl

theorem events_bind_pure (x : Traced ε α) (f : α → β) :
    (x >>= fun a => pure (f a)).events = x.events := by
  obtain ⟨_ | _, _⟩ := x
  · rfl
  · exact List.append_nil _

theorem id_map_eq (x : Traced ε α) : id <$> x = x := by
  obtain ⟨_ | _, _⟩ := x
  · rfl
  · exact congrArg (Traced.mk _) (List.append_nil _)

theorem bind_assoc_eq (x : Traced ε α) (f : α → Traced ε β) (g : β → Traced ε γ) :
    x >>= f >>= g = x >>= fun a => f a >>= g := by
  obtain ⟨_ | a, _⟩ := x
  · rfl
  · simp only [bind]
    cases (f a).outcome
    · rfl
    · simp [List.append_assoc]

instance : LawfulMonad (Traced ε) :=
  .mk' _ id_map_eq (fun _ _ => rfl) bind_assoc_eq

end Traced

end Craftbook
