import Polyglot.Dispatch.Chain
import Polyglot.Proofs.Dispatch.KindIndex

/-!
# What a chain does

A chain on a unit is a plain list of visits, run up to the first failure
(`apply_eq_plan`): rule by rule, and for each rule the nodes that the dispatcher
offers, in document order (`filterMap_candidates`). What was indexed before plays no
part, since indexing forgets it.

The two strategies are compared through this plan: a kind index does what the
baseline does with rules that skip the nodes of other kinds (`apply_kindIndexed`).
-/

namespace Polyglot

universe u v w

variable {ν : Type u} {κ : Type v} {ε : Type w}

/-! ## Actions in sequence -/

/-- Sequences of actions may be exchanged group by group. -/
theorem Action.all_flatMap_congr {α : Type u} {f g : α → List (Action κ ε)} {xs : List α}
    (h : ∀ x ∈ xs, all (f x) = all (g x)) : all (xs.flatMap f) = all (xs.flatMap g) := by
  induction xs with
  | nil => rfl
  | cons x xs ih =>
    rw [List.flatMap_cons, List.flatMap_cons, all_append, all_append, h x List.mem_cons_self,
      ih fun y hy => h y (List.mem_cons_of_mem _ hy)]

/-! ## Nodes that are offered -/

/-- Whether a dispatcher offers a node to a rule: a kind index only offers the kinds that the
rule targets, or every node to a rule without targets. -/
def Dispatcher.offers [HasKind ν] (d : Dispatcher) (r : Rule ν κ ε) (node : ν) : Bool :=
  match d with
  | .baseline => true
  | .kindIndexed _ => r.targetKinds.isEmpty || r.targetKinds.contains (HasKind.kind node)

@[simp] theorem Dispatcher.offers_baseline [HasKind ν] (r : Rule ν κ ε) :
    Dispatcher.offers (ν := ν) .baseline r = fun _ => true := rfl

/-- Reading a unit at the positions of the nodes with a property gives these nodes; the unit may
be the end of a longer list, as long as the positions count from its start there. -/
theorem filterMap_findIdxs (before nodes : List ν) (p : ν → Bool) :
    (nodes.findIdxs p before.length).filterMap ((before ++ nodes)[·]?) = nodes.filter p := by
  induction nodes generalizing before with
  | nil => simp
  | cons n ns ih =>
    have hlen : before.length + 1 = (before ++ [n]).length := by simp
    have hsplit : before ++ n :: ns = (before ++ [n]) ++ ns := by simp
    have hn : (before ++ n :: ns)[before.length]? = some n := by simp
    have htail : (ns.findIdxs p (before.length + 1)).filterMap ((before ++ n :: ns)[·]?)
        = ns.filter p := by
      rw [hlen, hsplit]
      exact ih (before ++ [n])
    rw [List.findIdxs_cons, List.filter_cons]
    split
    · rw [List.filterMap_cons, hn, htail]
    · exact htail

/-- Every position of a unit, in order. -/
theorem range_eq_findIdxs (nodes : List ν) :
    List.range nodes.length = nodes.findIdxs fun _ => true := by
  refine List.pairwise_lt_range.eq_of_mem_iff List.pairwise_findIdxs fun i => ?_
  rw [List.mem_range, List.mem_findIdxs_iff_exists_getElem_pos]
  simp

/-- On the unit indexed last, the candidates are the positions of the nodes that are offered. -/
theorem Dispatcher.candidates_index [HasKind ν] (d : Dispatcher) (r : Rule ν κ ε)
    (nodes : List ν) :
    ((d.index nodes).candidates r nodes).value = nodes.findIdxs (d.offers r) := by
  cases d with
  | baseline => exact range_eq_findIdxs nodes
  | kindIndexed x =>
    simp only [index, candidates]
    by_cases h : r.targetKinds.isEmpty
    · have hall : Dispatcher.offers (.kindIndexed x) r = fun _ : ν => true := by
        funext n
        simp [offers, h]
      rw [if_pos h, hall]
      exact range_eq_findIdxs nodes
    · have hkind : Dispatcher.offers (.kindIndexed x) r
          = (r.targetKinds.contains ·) ∘ (HasKind.kind : ν → String) := by
        funext n
        simp [offers, h]
      rw [if_neg h, hkind, ← List.findIdxs_map]
      show (KindIndex.ofKinds _).select _ _ = _
      rw [KindIndex.select_ofKinds, List.take_of_length_le (by simp)]

/-- The nodes at the candidates are the nodes that are offered, in document order. -/
theorem Dispatcher.filterMap_candidates [HasKind ν] (d : Dispatcher) (r : Rule ν κ ε)
    (nodes : List ν) :
    ((d.index nodes).candidates r nodes).value.filterMap (nodes[·]?)
      = nodes.filter (d.offers r) := by
  rw [candidates_index]
  exact filterMap_findIdxs [] nodes (d.offers r)

/-! ## The plan of a chain -/

namespace Chain

/-- The visits of a chain on a unit: rule by rule, the nodes that are offered, in order. -/
def plan [HasKind ν] (d : Dispatcher) (nodes : List ν) (chain : Chain ν κ ε) :
    List (Action κ ε) :=
  chain.flatMap fun r => (nodes.filter (d.offers r)).map r.visit

/-- Dispatching on the indexed unit runs the plan up to the first failure. -/
theorem dispatch_index [HasKind ν] (d : Dispatcher) (nodes : List ν) (chain : Chain ν κ ε)
    (c : κ) :
    (dispatch (d.index nodes) nodes chain c).value = Action.all (plan d nodes chain) c := by
  induction chain generalizing c with
  | nil => rfl
  | cons r rs ih =>
    have hvisits : visits r nodes ((d.index nodes).candidates r nodes).value
        = Action.all ((nodes.filter (d.offers r)).map r.visit) := by
      rw [visits, Dispatcher.filterMap_candidates]
    rw [plan, List.flatMap_cons, Action.all_append, dispatch, Action.andThen]
    simp only [hvisits]
    -- the visits of the first rule decide whether the others are reached
    split
    · rename_i c' hc
      rw [hc]
      exact ih c'
    · rename_i c' e hc
      rw [hc]

/-- A chain leaves the context and the result of its plan, whatever was indexed before. -/
theorem apply_eq_plan [HasKind ν] (chain : Chain ν κ ε) (d : Dispatcher) (nodes : List ν)
    (c : κ) :
    ((chain.apply d nodes c).context, (chain.apply d nodes c).result)
      = Action.all (plan d nodes chain) c :=
  dispatch_index d nodes chain c

end Chain

/-! ## Strategies compared -/

/-- The rule that leaves the nodes of other kinds alone, by itself: on such a node it succeeds and
does nothing. A rule without target kinds is kept as it is. -/
def Rule.restricted [HasKind ν] (r : Rule ν κ ε) : Rule ν κ ε :=
  if r.targetKinds.isEmpty then r
  else
    { r with
      apply := fun
        | [n] => if r.targetKinds.contains (HasKind.kind n) then r.apply [n] else Action.skip
        | ns => r.apply ns }

/-- Visiting the nodes that a kind index offers is visiting all nodes with the restricted rule. -/
theorem Rule.all_visit_restricted [HasKind ν] (r : Rule ν κ ε) (x : KindIndex)
    (nodes : List ν) :
    Action.all ((nodes.filter (Dispatcher.offers (.kindIndexed x) r)).map r.visit)
      = Action.all (nodes.map r.restricted.visit) := by
  have hvisit : ∀ n, r.restricted.visit n
      = if Dispatcher.offers (.kindIndexed x) r n then r.visit n else Action.skip := by
    intro n
    by_cases h : r.targetKinds.isEmpty
    · simp [restricted, Dispatcher.offers, h]
    · simp [restricted, Dispatcher.offers, visit, h]
  induction nodes with
  | nil => rfl
  | cons n ns ih =>
    rw [List.map_cons, Action.all, hvisit, List.filter_cons, ← ih]
    split
    · rw [List.map_cons, Action.all]
    · rw [Action.skip_andThen]

/-- Kind-indexed dispatch ends with the context and the result of baseline dispatch over the
restricted rules: the same visits in the same order, and the same first failure. -/
theorem Chain.apply_kindIndexed [HasKind ν] (chain : Chain ν κ ε) (x : KindIndex)
    (nodes : List ν) (c : κ) :
    let indexed := chain.apply (.kindIndexed x) nodes c
    let scanned := Chain.apply (chain.map Rule.restricted) .baseline nodes c
    indexed.context = scanned.context ∧ indexed.result = scanned.result := by
  have hplan : Action.all (Chain.plan (.kindIndexed x) nodes chain)
      = Action.all (Chain.plan .baseline nodes (chain.map Rule.restricted)) := by
    rw [Chain.plan, Chain.plan, List.flatMap_map]
    refine Action.all_flatMap_congr fun r _ => ?_
    rw [Rule.all_visit_restricted, Dispatcher.offers_baseline, List.filter_true]
  have h := (Chain.apply_eq_plan chain (.kindIndexed x) nodes c).trans <|
    (congrFun hplan c).trans (Chain.apply_eq_plan _ .baseline nodes c).symm
  exact Prod.mk.inj h

end Polyglot
