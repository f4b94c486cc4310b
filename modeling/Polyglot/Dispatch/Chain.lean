import Polyglot.Dispatch.KindIndex
import Polyglot.Dispatch.Strategy
import Polyglot.Log.Event

/-!
# Dispatchers and rule chains

A dispatcher indexes the nodes of a unit and then offers each rule the positions
of the nodes that it should visit. The baseline dispatcher has no index and offers
every position; the kind-indexed one offers the positions of the kinds that the
rule targets, or every position if it targets none.

A chain indexes a unit once and visits, rule by rule, the candidates of each rule
up to the first failure.

- `Dispatcher.candidates`: the positions offered, with a warning for a unit of
  another size than the indexed one.
- `Chain.apply`: a whole unit.
-/

namespace Polyglot

universe u v w

/-- What a strategy keeps about the unit indexed last. -/
inductive Dispatcher where
  | baseline
  | kindIndexed (index : KindIndex)
deriving DecidableEq, Repr, Inhabited

/-- A fresh dispatcher of the strategy. -/
def Strategy.dispatcher : Strategy → Dispatcher
  | .baseline => .baseline
  | .kindIndexed => .kindIndexed {}

namespace Dispatcher

variable {ν : Type u} {κ : Type v} {ε : Type w}

/-- Index the nodes of a unit; nothing of an earlier unit is kept. -/
def index [HasKind ν] (d : Dispatcher) (nodes : List ν) : Dispatcher :=
  match d with
  | .baseline => .baseline
  | .kindIndexed _ => .kindIndexed (.ofKinds (nodes.map HasKind.kind))

/-- The positions in `nodes` at which the rule should be visited. -/
def candidates (d : Dispatcher) (r : Rule ν κ ε) (nodes : List ν) : Logged (List Nat) :=
  match d with
  | .baseline => ⟨List.range nodes.length, []⟩
  | .kindIndexed x =>
    if r.targetKinds.isEmpty then ⟨List.range nodes.length, []⟩
    else
      ⟨x.select r.targetKinds nodes.length,
        if x.indexed = nodes.length then [] else [.nodesNotIndexed x.indexed nodes.length]⟩

end Dispatcher

/-! ## Chains -/

/-- Rules applied together, in order. -/
abbrev Chain (ν : Type u) (κ : Type v) (ε : Type w) := List (Rule ν κ ε)

/-- What a chain leaves: the dispatcher, the context, how it ended, and the events. -/
structure ChainRun (κ : Type v) (ε : Type w) where
  dispatcher : Dispatcher
  context : κ
  result : Except ε Unit
  events : List Event

namespace Chain

variable {ν : Type u} {κ : Type v} {ε : Type w}

/-- Visit the nodes at the given positions, in order. -/
def visits (r : Rule ν κ ε) (nodes : List ν) (positions : List Nat) : Action κ ε :=
  Action.all ((positions.filterMap (nodes[·]?)).map r.visit)

/-- Visit every rule with its candidates, up to the first failure. -/
def dispatch (d : Dispatcher) (nodes : List ν) : Chain ν κ ε → κ → Logged (κ × Except ε Unit)
  | [], c => ⟨(c, .ok ()), []⟩
  | r :: rs, c =>
    let found := d.candidates r nodes
    let events := found.events ++ [.ruleDispatched r.name found.value.length]
    match visits r nodes found.value c with
    | (c', .ok ()) =>
      let rest := dispatch d nodes rs c'
      ⟨rest.value, events ++ rest.events⟩
    | (c', .error e) => ⟨(c', .error e), events⟩

/-- Index the unit, then visit every rule with its candidates, up to the first failure. -/
def apply [HasKind ν] (chain : Chain ν κ ε) (d : Dispatcher) (nodes : List ν) (c : κ) :
    ChainRun κ ε :=
  let indexed := d.index nodes
  let run := dispatch indexed nodes chain c
  ⟨indexed, run.value.1, run.value.2, run.events⟩

end Chain

end Polyglot
