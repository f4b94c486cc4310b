import Polyglot.Proofs.Dispatch.Chain
import Polyglot.Proofs.Dispatch.History

/-!
# Candidates on a used dispatcher

A dispatcher can be asked for the candidates of a rule in any list of nodes, also in one that it
has not indexed. What it then offers is told by two lists alone, the nodes given and the kinds of
the unit indexed last, whatever was done with the dispatcher before.

- `Dispatcher.lastKinds`: the kinds of the unit indexed last.
- `KindIndex.mem_select_ofKinds`: a selection never leaves the shorter of the two lists.
- `Dispatcher.candidates_exact`: the candidates, and when a warning is given.
-/

namespace Polyglot

universe u v w t

variable {ν : Type u} {κ : Type v} {ε : Type w}

/-- What is selected are the positions within both lists at which a wanted kind was indexed. -/
theorem KindIndex.mem_select_ofKinds {kinds wanted : List String} {bound i : Nat} :
    i ∈ (ofKinds kinds).select wanted bound ↔
      i < min kinds.length bound ∧ ∃ k, kinds[i]? = some k ∧ k ∈ wanted := by
  rw [mem_select, Nat.lt_min]
  constructor
  · rintro ⟨⟨k, hwanted, hi⟩, hbound⟩
    have hk := mem_find_ofKinds.1 hi
    exact ⟨⟨(List.getElem?_eq_some_iff.1 hk).1, hbound⟩, k, hk, hwanted⟩
  · rintro ⟨⟨-, hbound⟩, k, hk, hwanted⟩
    exact ⟨⟨k, hwanted, mem_find_ofKinds.2 hk⟩, hbound⟩

namespace Dispatcher

/-- The kinds of the unit that was indexed last, none as long as there was no unit. -/
def lastKinds (history : List Use.{t}) : List String :=
  (history.filterMap Use.kinds?).getLast?.getD []

/-- A kind index that knows a unit offers every position to a rule without targets, and to another
one a selection; it warns of nodes that are more or fewer than those of the unit. -/
theorem candidates_knowing (kinds : List String) (r : Rule ν κ ε) (nodes : List ν) :
    (Strategy.kindIndexed.knowing kinds).candidates r nodes
      = if r.targetKinds = [] then ⟨List.range nodes.length, []⟩
        else ⟨(KindIndex.ofKinds kinds).select r.targetKinds nodes.length,
          if kinds.length = nodes.length then []
          else [.nodesNotIndexed kinds.length nodes.length]⟩ := by
  simp only [Strategy.knowing, candidates, List.isEmpty_iff]
  rfl

/-- The candidates of a rule among any nodes, on a kind index with any history, in strictly
ascending order: every position if the rule has no targets, and otherwise the positions within the
nodes and within the unit indexed last at which this unit has a kind that the rule targets. A
warning is given exactly when a rule with targets is offered a list of another length than that of
the unit. -/
theorem candidates_exact (history : List Use.{t}) (r : Rule ν κ ε) (nodes : List ν) :
    let kinds := lastKinds history
    let found := (Strategy.kindIndexed.dispatcher.run history).candidates r nodes
    found.value.Pairwise (· < ·) ∧
      (r.targetKinds = [] → found.value = List.range nodes.length) ∧
      (r.targetKinds ≠ [] → ∀ i, i ∈ found.value ↔
        i < min kinds.length nodes.length ∧ ∃ k, kinds[i]? = some k ∧ k ∈ r.targetKinds) ∧
      found.events = if r.targetKinds ≠ [] ∧ kinds.length ≠ nodes.length
        then [.nodesNotIndexed kinds.length nodes.length] else [] := by
  intro kinds found
  have hfound : found = (Strategy.kindIndexed.knowing kinds).candidates r nodes :=
    congrArg (candidates · r nodes) (run_dispatcher .kindIndexed history)
  rw [hfound, candidates_knowing]
  by_cases htargets : r.targetKinds = []
  · have hnone : ¬ (r.targetKinds ≠ [] ∧ kinds.length ≠ nodes.length) := fun h => h.1 htargets
    rw [if_pos htargets, if_neg hnone]
    exact ⟨List.pairwise_lt_range, fun _ => rfl, fun h => absurd htargets h, rfl⟩
  · rw [if_neg htargets]
    refine ⟨KindIndex.select_ascending _ _ _, fun h => absurd h htargets,
      fun _ i => KindIndex.mem_select_ofKinds, ?_⟩
    by_cases hlength : kinds.length = nodes.length
    · rw [if_pos hlength, if_neg fun h => h.2 hlength]
    · rw [if_neg hlength, if_pos ⟨htargets, hlength⟩]

end Dispatcher

end Polyglot
