import Polyglot.Proofs.Dispatch.Chain

/-!
# The calls of a chain

Which calls a chain makes on a unit, in which order and in which contexts. A rule is an
opaque function, so its calls are watched by giving it a context that keeps a record of
them (`Rule.recording`); what the rule does to its own context stays the same.

- `Chain.plannedFrom`: the calls that a chain is to make, rule by rule and node by node.
- `Carries`: the calls made of a plan, up to the first failure, each in the context that
  the one before it left.
- `events_dispatch`: a rule is told of when it is reached, and nothing else is told.
- `apply_carries_plan`: the calls that a recording chain notes are those of its plan.
-/

namespace Polyglot

universe u v w

variable {ν : Type u} {κ : Type v} {ε : Type w}

/-! ## Plans -/

/-- A call that is to be made: the rule, its place in the chain, and the node. -/
structure PlannedCall (ν : Type u) (κ : Type v) (ε : Type w) where
  place : Nat
  rule : Rule ν κ ε
  node : ν

/-- A call that was made: the place of the rule, and the nodes and the context that it got. -/
structure MadeCall (ν : Type u) (κ : Type v) where
  place : Nat
  nodes : List ν
  context : κ

/-- The calls that a chain is to make on a unit: rule by rule, one for each node that the rule is
offered, in document order. The places of the rules count from `start`. -/
def Chain.plannedFrom [HasKind ν] (d : Dispatcher) (nodes : List ν) (start : Nat) :
    Chain ν κ ε → List (PlannedCall ν κ ε)
  | [] => []
  | r :: rs =>
    (nodes.filter (d.offers r)).map (⟨start, r, ·⟩) ++ plannedFrom d nodes (start + 1) rs

/-- What comes of a plan, begun in the first context and left in the second: the calls made, and
how it ended. A call gets its node as a list of one and the context that the call before it
left; the first one that fails is the last one made. -/
inductive Carries :
    List (PlannedCall ν κ ε) → κ → List (MadeCall ν κ) → κ → Except ε Unit → Prop
  | done (c : κ) : Carries [] c [] c (.ok ())
  | succeeded {p : PlannedCall ν κ ε} {plan : List (PlannedCall ν κ ε)} {c c' c'' : κ}
      {made : List (MadeCall ν κ)} {result : Except ε Unit}
      (call : p.rule.apply [p.node] c = (c', .ok ()))
      (rest : Carries plan c' made c'' result) :
      Carries (p :: plan) c (⟨p.place, [p.node], c⟩ :: made) c'' result
  | failed {p : PlannedCall ν κ ε} {plan : List (PlannedCall ν κ ε)} {c c' : κ} {e : ε}
      (call : p.rule.apply [p.node] c = (c', .error e)) :
      Carries (p :: plan) c [⟨p.place, [p.node], c⟩] c' (.error e)

section Carries

variable {plan : List (PlannedCall ν κ ε)} {c c' : κ} {made : List (MadeCall ν κ)}
  {result : Except ε Unit}

/-- A plan that is cut in two ends in its front, or it goes through the front and on from there. -/
theorem Carries.of_append {front back : List (PlannedCall ν κ ε)}
    (h : Carries (front ++ back) c made c' result) :
    (∃ e, result = .error e ∧ Carries front c made c' (.error e)) ∨
      ∃ first rest mid, made = first ++ rest ∧ Carries front c first mid (.ok ()) ∧
        Carries back mid rest c' result := by
  induction front generalizing c made with
  | nil => exact .inr ⟨[], made, c, rfl, .done c, h⟩
  | cons p front ih =>
    rw [List.cons_append] at h
    cases h with
    | failed call => exact .inl ⟨_, rfl, .failed call⟩
    | succeeded call rest =>
      obtain ⟨e, he, hfront⟩ | ⟨first, later, mid, rfl, hfront, hback⟩ := ih rest
      · exact .inl ⟨e, he, .succeeded call hfront⟩
      · exact .inr ⟨_ :: first, later, mid, rfl, .succeeded call hfront, hback⟩

/-- A failure is that of the last call, and this one was planned. -/
theorem Carries.exists_last {e : ε} (h : Carries plan c made c' (.error e)) :
    ∃ last, made.getLast? = some last ∧ ∃ p ∈ plan, p.place = last.place := by
  generalize hresult : Except.error e = result at h
  induction h with
  | done => cases hresult
  | failed => exact ⟨_, rfl, _, List.mem_cons_self, rfl⟩
  | succeeded _ _ ih =>
    obtain ⟨last, hlast, p, hp, hplace⟩ := ih hresult
    refine ⟨last, ?_, p, List.mem_cons_of_mem _ hp, hplace⟩
    rw [List.getLast?_cons, hlast, Option.getD_some]

/-- Running the visits of a plan leaves the context and the result of its calls. -/
theorem Carries.all_eq (h : Carries plan c made c' result) :
    Action.all (plan.map fun p => p.rule.visit p.node) c = (c', result) := by
  induction h with
  | done => rfl
  | failed call =>
    rw [List.map_cons, Action.all, Action.andThen, Rule.visit, call]
  | succeeded call _ ih =>
    rw [List.map_cons, Action.all, Action.andThen, Rule.visit, call]
    exact ih

end Carries

/-! ## Recording -/

/-- The rule with a record of its calls beside the context. -/
def Rule.recording (place : Nat) (r : Rule ν κ ε) : Rule ν (κ × List (MadeCall ν κ)) ε where
  name := r.name
  targetKinds := r.targetKinds
  apply nodes := fun (c, made) =>
    (((r.apply nodes c).1, made ++ [⟨place, nodes, c⟩]), (r.apply nodes c).2)

/-- The chain whose rules note each call in one common record. -/
def Chain.recordingFrom (start : Nat) :
    Chain ν κ ε → Chain ν (κ × List (MadeCall ν κ)) ε
  | [] => []
  | r :: rs => r.recording start :: recordingFrom (start + 1) rs

/-- Of every plan some calls are made, and the recording rules note them. -/
theorem exists_carries (plan : List (PlannedCall ν κ ε)) (c : κ) (noted : List (MadeCall ν κ)) :
    ∃ made c' result, Carries plan c made c' result ∧
      Action.all (plan.map fun p => (p.rule.recording p.place).visit p.node) (c, noted)
        = ((c', noted ++ made), result) := by
  induction plan generalizing c noted with
  | nil =>
    refine ⟨[], c, .ok (), .done c, ?_⟩
    rw [List.append_nil]
    rfl
  | cons p plan ih =>
    have hvisit : (p.rule.recording p.place).visit p.node (c, noted)
        = (((p.rule.apply [p.node] c).1, noted ++ [⟨p.place, [p.node], c⟩]),
          (p.rule.apply [p.node] c).2) := rfl
    rw [List.map_cons, Action.all, Action.andThen, hvisit]
    rcases call : p.rule.apply [p.node] c with ⟨mid, e | _⟩
    · exact ⟨_, mid, .error e, .failed call, rfl⟩
    · obtain ⟨made, c', result, hcarries, hall⟩ := ih mid (noted ++ [⟨p.place, [p.node], c⟩])
      refine ⟨_ :: made, c', result, .succeeded call hcarries, ?_⟩
      rw [List.append_assoc] at hall
      exact hall

namespace Chain

variable [HasKind ν] (d : Dispatcher) (nodes : List ν)

theorem plan_eq_map (chain : Chain ν κ ε) (start : Nat) :
    plan d nodes chain = (plannedFrom d nodes start chain).map fun p => p.rule.visit p.node := by
  induction chain generalizing start with
  | nil => rfl
  | cons r rs ih =>
    have hrest := ih (start + 1)
    rw [plan] at hrest ⊢
    rw [List.flatMap_cons, hrest, plannedFrom, List.map_append, List.map_map]
    rfl

/-- A recording chain has the plan of the chain itself, since it asks for the same nodes. -/
theorem plan_recordingFrom (chain : Chain ν κ ε) (start : Nat) :
    plan d nodes (chain.recordingFrom start)
      = (plannedFrom d nodes start chain).map
        fun p => (p.rule.recording p.place).visit p.node := by
  induction chain generalizing start with
  | nil => rfl
  | cons r rs ih =>
    have hoffers : d.offers (r.recording start) = (d.offers r : ν → Bool) := by
      cases d <;> rfl
    have hrest := ih (start + 1)
    rw [plan] at hrest ⊢
    rw [recordingFrom, List.flatMap_cons, hrest, hoffers, plannedFrom, List.map_append,
      List.map_map]
    rfl

end Chain

/-! ## Events -/

/-- On the unit indexed last there is nothing to warn of. -/
theorem Dispatcher.events_candidates_index [HasKind ν] (d : Dispatcher) (r : Rule ν κ ε)
    (nodes : List ν) : ((d.index nodes).candidates r nodes).events = [] := by
  cases d with
  | baseline => rfl
  | kindIndexed x =>
    have hsize : (KindIndex.ofKinds (nodes.map HasKind.kind)).indexed = nodes.length :=
      List.length_map _
    by_cases h : r.targetKinds.isEmpty
    · simp only [index, candidates, h, if_true]
    · simp only [index, candidates, h, hsize, if_true, if_false, Bool.false_eq_true]

/-- What is told of a rule that is reached: its name, and how many nodes it is offered. -/
def Rule.reached [HasKind ν] (d : Dispatcher) (nodes : List ν) (r : Rule ν κ ε) : Event :=
  .ruleDispatched r.name (nodes.findIdxs (d.offers r)).length

namespace Chain

/-- The events of a chain on the indexed unit: one for each rule that is reached, in order. These
are all rules, or those up to the one of the last call, if this call failed. -/
theorem events_dispatch [HasKind ν] (d : Dispatcher) (nodes : List ν) (chain : Chain ν κ ε)
    {start : Nat} {c c' : κ} {made : List (MadeCall ν κ)} {result : Except ε Unit}
    (h : Carries (plannedFrom d nodes start chain) c made c' result) :
    (result = .ok () →
      (dispatch (d.index nodes) nodes chain c).events = chain.map (·.reached d nodes)) ∧
    ∀ e, result = .error e → ∃ last k, made.getLast? = some last ∧ last.place = start + k ∧
      (dispatch (d.index nodes) nodes chain c).events
        = (chain.take (k + 1)).map (·.reached d nodes) := by
  induction chain generalizing start c made with
  | nil =>
    cases h with
    | done => exact ⟨fun _ => rfl, fun e he => by cases he⟩
  | cons r rs ih =>
    have htold : ((d.index nodes).candidates r nodes).events
        ++ [.ruleDispatched r.name ((d.index nodes).candidates r nodes).value.length]
        = [r.reached d nodes] := by
      rw [Dispatcher.events_candidates_index, Dispatcher.candidates_index]
      rfl
    have hvisits : visits r nodes ((d.index nodes).candidates r nodes).value
        = Action.all (((nodes.filter (d.offers r)).map (PlannedCall.mk start r)).map
          fun p => p.rule.visit p.node) := by
      rw [visits, Dispatcher.filterMap_candidates, List.map_map]
      rfl
    rw [plannedFrom] at h
    obtain ⟨e, rfl, hmine⟩ | ⟨first, rest, mid, rfl, hmine, hrest⟩ := h.of_append
    · -- a call of the first rule failed, so no other rule is reached
      obtain ⟨last, hlast, p, hp, hplace⟩ := hmine.exists_last
      obtain ⟨n, -, rfl⟩ := List.mem_map.1 hp
      have hvalue := hmine.all_eq
      rw [← hvisits] at hvalue
      refine ⟨fun he => (by cases he), fun e' _ => ⟨last, 0, hlast, hplace.symm, ?_⟩⟩
      simp only [dispatch, hvalue, htold]
      rfl
    · have hvalue := hmine.all_eq
      rw [← hvisits] at hvalue
      have hevents : (dispatch (d.index nodes) nodes (r :: rs) c).events
          = r.reached d nodes :: (dispatch (d.index nodes) nodes rs mid).events := by
        simp only [dispatch, hvalue, htold]
        rfl
      obtain ⟨hok, herror⟩ := ih hrest
      refine ⟨fun he => ?_, fun e he => ?_⟩
      · rw [hevents, hok he, List.map_cons]
      · obtain ⟨last, k, hlast, hplace, htaken⟩ := herror e he
        refine ⟨last, k + 1, ?_, by omega, ?_⟩
        · rw [List.getLast?_append, hlast, Option.some_or]
        · rw [hevents, htaken, List.take_succ_cons, List.map_cons]

/-! ## Whole units -/

/-- A chain makes the calls of its plan up to the first failure, and no others: this is what the
rules note when they record their calls, and recording them changes neither the context nor the
result. The candidates of a rule are the positions of the nodes that it is offered, each rule
that is reached is told of with their number, and no warning is given. Nothing of this depends
on what the dispatcher had indexed before. -/
theorem apply_carries_plan [HasKind ν] (chain : Chain ν κ ε) (d : Dispatcher) (nodes : List ν)
    (c : κ) :
    let run := chain.apply d nodes c
    let recorded := (chain.recordingFrom 0).apply d nodes (c, [])
    let made := recorded.context.2
    (recorded.context.1 = run.context ∧ recorded.result = run.result) ∧
      Carries (chain.plannedFrom d nodes 0) c made run.context run.result ∧
      (∀ r ∈ chain, ((d.index nodes).candidates r nodes).value = nodes.findIdxs (d.offers r)) ∧
      (run.result = .ok () → run.events = chain.map (·.reached d nodes)) ∧
      (∀ e, run.result = .error e → ∃ last, made.getLast? = some last ∧
        run.events = (chain.take (last.place + 1)).map (·.reached d nodes)) ∧
      ∀ indexed given, .nodesNotIndexed indexed given ∉ run.events := by
  intro run recorded made
  obtain ⟨calls, c', result, hcarries, hall⟩ := exists_carries (chain.plannedFrom d nodes 0) c []
  -- both chains run their plans, and these are one plan
  have hrun : (run.context, run.result) = (c', result) := by
    rw [apply_eq_plan, plan_eq_map d nodes chain 0]
    exact hcarries.all_eq
  have hrecorded : (recorded.context, recorded.result) = ((c', calls), result) := by
    rw [apply_eq_plan, plan_recordingFrom]
    exact hall
  obtain ⟨hcontext, hresult⟩ := Prod.mk.inj hrun
  obtain ⟨hnoted, hresult'⟩ := Prod.mk.inj hrecorded
  have hmade : made = calls := congrArg Prod.snd hnoted
  have hplan : Carries (chain.plannedFrom d nodes 0) c made run.context run.result := by
    rw [hmade, hcontext, hresult]
    exact hcarries
  obtain ⟨hok, herror⟩ := events_dispatch d nodes chain hplan
  have htold : ∃ told : Chain ν κ ε, run.events = told.map (·.reached d nodes) := by
    rcases hend : run.result with e | ⟨⟩
    · obtain ⟨_, k, _, _, hevents⟩ := herror e hend
      exact ⟨_, hevents⟩
    · exact ⟨chain, hok hend⟩
  refine ⟨⟨?_, hresult'.trans hresult.symm⟩, hplan, fun r _ => d.candidates_index r nodes, hok,
    fun e he => ?_, fun indexed given hmem => ?_⟩
  · rw [hnoted, hcontext]
  · obtain ⟨last, k, hlast, hplace, hevents⟩ := herror e he
    rw [Nat.zero_add] at hplace
    exact ⟨last, hlast, hplace ▸ hevents⟩
  · obtain ⟨told, hevents⟩ := htold
    rw [hevents] at hmem
    obtain ⟨r, -, hr⟩ := List.mem_map.1 hmem
    cases hr

end Chain

end Polyglot
