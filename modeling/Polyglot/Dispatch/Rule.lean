/-!
# Rules

A rule is applied to nodes in a context that it may change, and it may fail; a
failure keeps the changes made until then. Actions on a context are run one after
the other up to the first failure.

- `Action.all_append`: a run can be cut into a run of the front and, if that
  succeeds, a run of the rest.
-/

namespace Polyglot

universe u v w

/-- Something with a kind, such as a node of a syntax tree. -/
class HasKind (ν : Type u) where
  kind : ν → String

/-- A step on a context `κ` that may fail with an `ε`; the context is left either way. -/
abbrev Action (κ : Type v) (ε : Type w) := κ → κ × Except ε Unit

namespace Action

variable {κ : Type v} {ε : Type w}

/-- Succeed and leave the context alone. -/
def skip : Action κ ε := fun c => (c, .ok ())

/-- Run a second action if the first one succeeds. -/
def andThen (first second : Action κ ε) : Action κ ε := fun c =>
  match first c with
  | (c', .ok ()) => second c'
  | (c', .error e) => (c', .error e)

/-- Run actions in order up to the first failure. -/
def all : List (Action κ ε) → Action κ ε
  | [] => skip
  | a :: as => andThen a (all as)

@[simp] theorem skip_andThen (a : Action κ ε) : andThen skip a = a := rfl

theorem andThen_assoc (a b c : Action κ ε) :
    andThen (andThen a b) c = andThen a (andThen b c) := by
  funext x
  simp only [andThen]
  rcases a x with ⟨y, _ | _⟩ <;> rfl

/-- A run can be cut into a run of the front and a run of the rest. -/
theorem all_append (as bs : List (Action κ ε)) : all (as ++ bs) = andThen (all as) (all bs) := by
  induction as with
  | nil => rfl
  | cons a as ih => simp only [List.cons_append, all, ih, andThen_assoc]

end Action

/-- A rule for nodes `ν`. -/
structure Rule (ν : Type u) (κ : Type v) (ε : Type w) where
  name : String
  /-- The kinds that the rule asks for; none means every node. -/
  targetKinds : List String := []
  apply : List ν → Action κ ε

/-- Visit one node: the rule gets it as a list of one. -/
def Rule.visit {ν : Type u} {κ : Type v} {ε : Type w} (r : Rule ν κ ε) (node : ν) : Action κ ε :=
  r.apply [node]

end Polyglot
