import MailSearch.Event

/-!
# Results with events

`Logged α` is a result together with the events noticed on the way to it, in order. Sequencing
concatenates the events, so a definition reports what its parts reported.
-/

namespace MailSearch

/-- A result and the events on the way to it. -/
@[ext]
structure Logged (α : Type) where
  value : α
  events : List Event := []

namespace Logged

variable {α β : Type}

/-- A result that gave rise to an event. -/
def note (event : Event) (value : α) : Logged α :=
  ⟨value, [event]⟩

protected def bind (x : Logged α) (f : α → Logged β) : Logged β :=
  ⟨(f x.value).value, x.events ++ (f x.value).events⟩

instance : Monad Logged where
  pure value := ⟨value, []⟩
  bind := Logged.bind

@[simp] theorem value_pure (a : α) : (pure a : Logged α).value = a := rfl

@[simp] theorem events_pure (a : α) : (pure a : Logged α).events = [] := rfl

@[simp] theorem value_bind (x : Logged α) (f : α → Logged β) :
    (x >>= f).value = (f x.value).value := rfl

@[simp] theorem events_bind (x : Logged α) (f : α → Logged β) :
    (x >>= f).events = x.events ++ (f x.value).events := rfl

@[simp] theorem value_note (event : Event) (a : α) : (note event a).value = a := rfl

@[simp] theorem events_note (event : Event) (a : α) : (note event a).events = [event] := rfl

instance : LawfulMonad Logged :=
  LawfulMonad.mk' Logged
    (fun x => by ext <;> simp [Functor.map, Logged.bind])
    (fun a f => by ext <;> simp)
    (fun x f g => by ext <;> simp)

end Logged

end MailSearch
