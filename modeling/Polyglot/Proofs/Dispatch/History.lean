import Polyglot.Dispatch.Chain

/-!
# A dispatcher over its life

A dispatcher serves one unit after the other. Of all that was done with it, it knows the
unit indexed last and nothing else (`run_dispatcher`), and a chain indexes its own unit
before it visits any node. So a chain on a used dispatcher runs as it does on a fresh one
(`apply_forgets_history`).

- `Dispatcher.Use`: what can be done with a dispatcher.
- `Strategy.knowing`: the dispatcher that knows one unit.
-/

namespace Polyglot

universe u v w t

namespace Dispatcher

/-- Something done with a dispatcher. Nodes, contexts and failures may be of other types from one
use to the next. -/
inductive Use : Type (t + 1) where
  | index {ν : Type t} [HasKind ν] (nodes : List ν)
  | candidates {ν κ ε : Type t} (r : Rule ν κ ε) (nodes : List ν)
  | visit {ν κ ε : Type t} (r : Rule ν κ ε) (node : ν) (c : κ)
  | apply {ν κ ε : Type t} [HasKind ν] (chain : Chain ν κ ε) (nodes : List ν) (c : κ)

/-- The kinds of the unit that a use indexes, if it indexes one. -/
def Use.kinds? : Use.{t} → Option (List String)
  | @Use.index _ _ nodes => some (nodes.map HasKind.kind)
  | .candidates .. => none
  | .visit .. => none
  | @Use.apply _ _ _ _ _ nodes _ => some (nodes.map HasKind.kind)

/-- The dispatcher that a use leaves. Candidates and visits only read it; a chain leaves the index
of its unit, also when one of its rules fails. -/
def after (d : Dispatcher) : Use.{t} → Dispatcher
  | @Use.index _ _ nodes => d.index nodes
  | .candidates .. => d
  | .visit .. => d
  | @Use.apply _ _ _ _ chain nodes c => (chain.apply d nodes c).dispatcher

/-- The dispatcher that uses leave one after the other. -/
def run (d : Dispatcher) (history : List Use.{t}) : Dispatcher := history.foldl after d

theorem run_cons (d : Dispatcher) (use : Use.{t}) (history : List Use.{t}) :
    d.run (use :: history) = (d.after use).run history := rfl

end Dispatcher

/-! ## What a dispatcher knows -/

/-- The dispatcher of the strategy that has indexed a unit with these kinds. -/
def Strategy.knowing (kinds : List String) : Strategy → Dispatcher
  | .baseline => .baseline
  | .kindIndexed => .kindIndexed (.ofKinds kinds)

/-- A fresh dispatcher is one that has indexed the unit without nodes. -/
theorem Strategy.dispatcher_eq_knowing (s : Strategy) : s.dispatcher = s.knowing [] := by
  cases s <;> rfl

namespace Dispatcher

/-- Indexing a unit replaces all that was known. -/
theorem index_knowing {ν : Type u} [HasKind ν] (s : Strategy) (kinds : List String)
    (nodes : List ν) : (s.knowing kinds).index nodes = s.knowing (nodes.map HasKind.kind) := by
  cases s <;> rfl

/-- A use leaves the dispatcher that knows the unit of this use, or the one known before if the
use indexes none. -/
theorem after_knowing (s : Strategy) (kinds : List String) (use : Use.{t}) :
    (s.knowing kinds).after use = s.knowing (use.kinds?.getD kinds) := by
  cases use with
  | index nodes => exact index_knowing s kinds nodes
  | candidates r nodes => rfl
  | visit r node c => rfl
  | apply chain nodes c => exact index_knowing s kinds nodes

theorem run_knowing (s : Strategy) (kinds : List String) (history : List Use.{t}) :
    (s.knowing kinds).run history
      = s.knowing ((history.filterMap Use.kinds?).getLast?.getD kinds) := by
  induction history generalizing kinds with
  | nil => rfl
  | cons use history ih =>
    rw [run_cons, after_knowing, ih]
    cases hkinds : use.kinds? with
    | none => rw [List.filterMap_cons_none hkinds, Option.getD_none]
    | some unit =>
      rw [List.filterMap_cons_some hkinds, List.getLast?_cons, Option.getD_some, Option.getD_some]

/-- Whatever was done with a dispatcher, it knows the unit indexed last, which is the one without
nodes as long as none was indexed. -/
theorem run_dispatcher (s : Strategy) (history : List Use.{t}) :
    s.dispatcher.run history
      = s.knowing ((history.filterMap Use.kinds?).getLast?.getD []) := by
  rw [Strategy.dispatcher_eq_knowing, run_knowing]

end Dispatcher

/-! ## The next unit -/

/-- Nothing is carried over to the next unit: a chain on a dispatcher with any history leaves the
context, the result, the events and the dispatcher that it leaves on a fresh one. -/
theorem Chain.apply_forgets_history {ν : Type u} {κ : Type v} {ε : Type w} [HasKind ν]
    (s : Strategy) (history : List Dispatcher.Use.{t}) (chain : Chain ν κ ε)
    (nodes : List ν) (c : κ) :
    chain.apply (s.dispatcher.run history) nodes c = chain.apply s.dispatcher nodes c := by
  have hindex : (s.dispatcher.run history).index nodes = s.dispatcher.index nodes := by
    rw [Dispatcher.run_dispatcher, Strategy.dispatcher_eq_knowing, Dispatcher.index_knowing,
      Dispatcher.index_knowing]
  rw [apply, apply, hindex]

end Polyglot
