import Polyglot.Language.Error

/-!
# Events

What happens while languages are registered and rules dispatched, as values, and
results that keep a record of their events.

- `Logged.andThen`: going on from a success; the events of the first step stand before those of
  the second.
-/

namespace Polyglot

universe u v w

/-- Something worth recording. -/
inductive Event where
  | versionRejected (language version : String) (cause : RegistryError)
  | versionRegistered (language version : String) (aliases : List String) (isDefault : Bool)
  | moduleReady (language : String) (versions : Nat) (default : String)
  | languageAdded (language : String)
  | catalogLoading (path : String)
  | catalogLoaded (languages : Nat)
  | ruleDispatched (rule : String) (candidates : Nat)
  | nodesNotIndexed (indexed nodes : Nat)
deriving DecidableEq, Repr

/-- A value and the events on the way to it, oldest first. -/
structure Logged (α : Type u) where
  value : α
  events : List Event := []
deriving DecidableEq, Repr

namespace Logged

variable {α : Type u} {β : Type v}

/-- Change the value alone. -/
def map (f : α → β) (x : Logged α) : Logged β := ⟨f x.value, x.events⟩

/-- Go on from a success; a failure is the answer, with the events so far. -/
def andThen {ε : Type w} (x : Logged (Except ε α)) (f : α → Logged (Except ε β)) :
    Logged (Except ε β) :=
  match x.value with
  | .ok a => ⟨(f a).value, x.events ++ (f a).events⟩
  | .error e => ⟨.error e, x.events⟩

end Logged

end Polyglot
