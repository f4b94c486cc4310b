import Polyglot.Proofs.Dispatch.Chain

/-!
# A unit in pieces

A chain can be cut anywhere: its front is run and then, if that succeeds, its rest, on the same
nodes and with the dispatcher that the front leaves. Nothing tells the two runs from the one, not
even the events. A unit can be cut as well, as long as the chain has one rule only. Then each piece
is indexed by itself, with positions that count from its own start, and the rule still visits the
same nodes in the same order.

- `ChainRun.andThen`: go on from a run that succeeded.
- `Chain.dispatch_append`: where a chain is cut, a failure in the front is the end.
- `Chain.plan_append_nodes`: the plan of one rule on a unit is that on its pieces in a row.
- `Chain.apply_in_pieces`: both cuts.
-/

namespace Polyglot

universe u v w

variable {ν : Type u} {κ : Type v} {ε : Type w}

/-! ## Runs in a row -/

namespace ChainRun

/-- The context that a run leaves, and how it ended. -/
def outcome (run : ChainRun κ ε) : κ × Except ε Unit := (run.context, run.result)

/-- Go on from a run that succeeded, with the dispatcher and the context that it left. -/
def andThen (run : ChainRun κ ε) (next : Dispatcher → κ → ChainRun κ ε) : ChainRun κ ε :=
  match run.result with
  | .ok () =>
    let rest := next run.dispatcher run.context
    { rest with events := run.events ++ rest.events }
  | .error _ => run

/-- Runs that do what actions do, in a row do what the actions do in a row. -/
theorem outcome_andThen {run : ChainRun κ ε} {next : Dispatcher → κ → ChainRun κ ε}
    {first second : Action κ ε} {c : κ} (hrun : run.outcome = first c)
    (hnext : ∀ c', (next run.dispatcher c').outcome = second c') :
    (run.andThen next).outcome = Action.andThen first second c := by
  obtain ⟨d, c', result, events⟩ := run
  rw [Action.andThen, ← hrun]
  cases result with
  | error e => rfl
  | ok => exact hnext c'

end ChainRun

/-! ## Indexing -/

/-- Indexing forgets the unit before. -/
theorem Dispatcher.index_index [HasKind ν] (d : Dispatcher) (before nodes : List ν) :
    (d.index before).index nodes = d.index nodes := by
  cases d <;> rfl

/-- Which nodes are offered does not depend on what was indexed. -/
theorem Dispatcher.offers_index [HasKind ν] (d : Dispatcher) (nodes : List ν) (r : Rule ν κ ε) :
    (d.index nodes).offers r = (d.offers r : ν → Bool) := by
  cases d <;> rfl

namespace Chain

/-! ## Cutting the chain -/

/-- The rules behind a cut are reached when those before it succeed. -/
theorem dispatch_append (d : Dispatcher) (nodes : List ν) (first second : Chain ν κ ε) (c : κ) :
    dispatch d nodes (first ++ second) c =
      match dispatch d nodes first c with
      | ⟨(c', .ok ()), events⟩ =>
        let rest := dispatch d nodes second c'
        ⟨rest.value, events ++ rest.events⟩
      | ⟨(c', .error e), events⟩ => ⟨(c', .error e), events⟩ := by
  induction first generalizing c with
  | nil => rfl
  | cons r rs ih =>
    rw [List.cons_append, dispatch, dispatch]
    rcases visits r nodes (d.candidates r nodes).value c with ⟨c', e | _⟩
    · rfl
    · simp only [ih c']
      rcases dispatch d nodes rs c' with ⟨⟨c'', e | _⟩, events⟩
      · rfl
      · simp only [List.append_assoc]

theorem apply_append [HasKind ν] (first second : Chain ν κ ε) (d : Dispatcher) (nodes : List ν)
    (c : κ) :
    Chain.apply (first ++ second) d nodes c
      = (first.apply d nodes c).andThen fun d' => second.apply d' nodes := by
  rw [apply, dispatch_append, ChainRun.andThen, apply]
  rcases dispatch (d.index nodes) nodes first c with ⟨⟨c', e | _⟩, events⟩
  · rfl
  · simp only [apply, Dispatcher.index_index]

/-! ## Cutting the unit -/

theorem plan_index [HasKind ν] (d : Dispatcher) (before nodes : List ν) (chain : Chain ν κ ε) :
    plan (d.index before) nodes chain = plan d nodes chain := by
  simp only [plan, Dispatcher.offers_index]

/-- The visits of one rule to a unit are those to its pieces in a row. With more rules this fails,
as the first one visits the whole unit before the second one begins. -/
theorem plan_append_nodes [HasKind ν] (d : Dispatcher) (r : Rule ν κ ε) (front back : List ν) :
    plan d (front ++ back) [r] = plan d front [r] ++ plan d back [r] := by
  simp only [plan, List.flatMap_singleton, List.filter_append, List.map_append]

/-- Applying a chain can be cut into pieces, whatever the dispatcher and its history. Applying two
chains as one is applying the first and, if that succeeds, the second, to the same nodes and with
the dispatcher and the context that the first leaves. Applying one rule to two lists of nodes as one
leaves the context and the result of applying it to the first list and, if that succeeds, to the
second. -/
theorem apply_in_pieces [HasKind ν] (d : Dispatcher) (c : κ) :
    (∀ (first second : Chain ν κ ε) (nodes : List ν),
      Chain.apply (first ++ second) d nodes c
        = (first.apply d nodes c).andThen fun d' => second.apply d' nodes) ∧
      ∀ (r : Rule ν κ ε) (front back : List ν),
        (Chain.apply [r] d (front ++ back) c).outcome
          = ((Chain.apply [r] d front c).andThen fun d' => Chain.apply [r] d' back).outcome := by
  refine ⟨fun first second nodes => apply_append first second d nodes c, fun r front back => ?_⟩
  have hfront : (Chain.apply [r] d front c).outcome = Action.all (plan d front [r]) c :=
    apply_eq_plan [r] d front c
  have hback : ∀ c', (Chain.apply [r] (d.index front) back c').outcome
      = Action.all (plan d back [r]) c' := fun c' =>
    (apply_eq_plan [r] (d.index front) back c').trans (by rw [plan_index])
  calc (Chain.apply [r] d (front ++ back) c).outcome
      = Action.all (plan d (front ++ back) [r]) c := apply_eq_plan [r] d (front ++ back) c
    _ = Action.andThen (Action.all (plan d front [r])) (Action.all (plan d back [r])) c := by
        rw [plan_append_nodes, Action.all_append]
    _ = ((Chain.apply [r] d front c).andThen fun d' => Chain.apply [r] d' back).outcome :=
        (ChainRun.outcome_andThen hfront hback).symm

end Chain

end Polyglot
