import FixturePlan.Proofs.Order.Component
import FixturePlan.Proofs.Plan.Topological

/-!
# The entities that are named where there is no order

Where required links form cycles, the failure names the entities of one of them. They are all entities
that require each other, directly or through others, and each of them lies on a cycle among them
(`EntitySet.requiredCycle_of_cyclic`). An entity that only waits for a cycle, or that a cycle waits for,
is not named.
-/

namespace FixturePlan.EntitySet

open Relation

variable {s : EntitySet}

/-- Edges lead against the links. -/
theorem hasEdge_requiredEdges : Order.HasEdge s.requiredEdges = Function.swap s.Requires := by
  funext a b
  exact propext mem_requiredEdges_iff_requires

theorem lt_size_of_transGen {a b : EntityId} (h : TransGen s.Requires a b) : a < s.size := by
  obtain ⟨c, ⟨e, he, -⟩, -⟩ := TransGen.head'_iff.1 h
  exact lt_size_of_get? he

theorem exists_path_iff :
    (∃ id, Order.Path s.requiredEdges id id) ↔ ∃ id, TransGen s.Requires id id := by
  refine exists_congr fun id => ?_
  show TransGen (Order.HasEdge s.requiredEdges) id id ↔ _
  rw [hasEdge_requiredEdges, transGen_swap]

theorem topologicalOrderBy_eq_requiredCycle (search : Order.ComponentSearch)
    (hplaced : s.firstPlaceholder? = none) (hcyclic : ∃ id, TransGen s.Requires id id) :
    s.topologicalOrderBy search =
      .error (.requiredCycle ((Order.cycleBy search s.size s.requiredEdges).map s.label)) := by
  obtain ⟨id, hcycle⟩ := hcyclic
  rw [topologicalOrderBy, hplaced]
  cases hsorted : Order.leastFirst? s.size s.requiredEdges with
  | none => rfl
  | some order =>
    have horder : s.topologicalOrder = .ok order := by
      rw [topologicalOrder, topologicalOrderBy, hplaced]
      simp only [hsorted]
    exact absurd hcycle (acyclic_of_topologicalOrder horder id)

/-- In a set whose required links stay inside, and where they form a cycle and none is a placeholder:
whatever finds the components, **the failure names, in ascending order, the entities of one component of
the links, all of which lie on cycles within it**. No entity is named that is on no cycle. -/
theorem requiredCycle_of_cyclic {search : Order.ComponentSearch} (hsearch : Order.FindsComponents search)
    (hinside : ∀ e ∈ s.toList, ∀ l ∈ e.required, ∀ t, l.target = .resolved t → t < s.size)
    (hplaced : ∀ e ∈ s.toList, ∀ l ∈ e.required, ∀ p, l.target ≠ .placeholder p)
    (hcyclic : ∃ id, TransGen s.Requires id id) :
    ∃ members, s.topologicalOrderBy search = .error (.requiredCycle (members.map s.label)) ∧
      members.Pairwise (· < ·) ∧ (∀ id ∈ members, id < s.size) ∧
      Order.IsCyclicComponent s.Requires members ∧
      ∀ id, ¬TransGen s.Requires id id → id ∉ members := by
  obtain ⟨hcomponent, hascending⟩ := Order.isCyclicComponent_cycleBy hsearch
    (inRange_requiredEdges (lt_size_of_requires hinside)) (exists_path_iff.2 hcyclic)
  rw [hasEdge_requiredEdges] at hcomponent
  have hmembers := hcomponent.swap
  refine ⟨_, topologicalOrderBy_eq_requiredCycle search (firstPlaceholder?_eq_none_iff.2 hplaced) hcyclic,
    hascending, ?_, hmembers, ?_⟩
  · exact fun id hid => lt_size_of_transGen (hmembers.transGen hid)
  · exact fun id hfree hid => hfree (hmembers.transGen hid)

/-- A chick that requires an egg, the egg and its hen, the farm that the hen requires, and a mirror
that requires itself. -/
def tangle : EntitySet :=
  let chick := { Entity.extracted 0 "chick" with required := [Plan.sampleLink "egg" 1] }
  let egg := { Entity.extracted 0 "egg" with required := [Plan.sampleLink "layer" 2] }
  let hen := { Entity.extracted 0 "hen" with
    required := [Plan.sampleLink "laid" 1, Plan.sampleLink "hatched" 1, Plan.sampleLink "farm" 3] }
  let mirror := { Entity.extracted 0 "mirror" with required := [Plan.sampleLink "image" 4] }
  (((∅ : EntitySet).push chick).push egg |>.push hen |>.push (.extracted 0 "farm")).push mirror

theorem requiredEdges_tangle :
    tangle.requiredEdges = [(1, 0), (2, 1), (1, 2), (1, 2), (3, 2), (4, 4)] := rfl

theorem cycleBy_tangle : Order.cycleBy Order.components tangle.size tangle.requiredEdges = [1, 2] := by
  have hforward : Order.successorTable tangle.size tangle.requiredEdges =
      #[[], [2, 2, 0], [1], [2], [4]] := rfl
  have hbackward : Order.successorTable tangle.size (tangle.requiredEdges.map Prod.swap) =
      #[[1], [2], [3, 1, 1], [], [4]] := rfl
  have hleft : (Order.walk #[[], [2, 2, 0], [1], [2], [4]] (List.range tangle.size)).left =
      [4, 3, 1, 2, 0] := by
    have hsize : tangle.size = 5 := rfl
    rw [hsize]
    cbv
  -- the components of the nodes that are left last
  have hcomponent : ∀ node nodes, (Order.walk #[[], [2, 2, 0], [1], [2], [4]] [node]).left.filter
        (Order.walk #[[1], [2], [3, 1, 1], [], [4]] [node]).entered.contains = nodes →
      Order.component #[[], [2, 2, 0], [1], [2], [4]] #[[1], [2], [3, 1, 1], [], [4]] node =
        nodes := fun _ _ hnodes => hnodes
  have hfound : Order.components tangle.size tangle.requiredEdges = [[0], [1, 2], [3], [4]] := by
    rw [Order.components, hforward, hbackward, hleft]
    simp only [Order.collectComponents, hcomponent 4 [4] (by cbv), hcomponent 3 [3] (by cbv),
      hcomponent 1 [1, 2] (by cbv), hcomponent 0 [0] (by cbv)]
    rfl
  rw [Order.cycleBy, hfound]
  exact List.mergeSort_of_pairwise (by decide)

theorem requiredCycle_of_cyclic_sample :
    tangle.topologicalOrder = .error (.requiredCycle ["egg", "hen"]) ∧
      ∃ members, members.map tangle.label = ["egg", "hen"] ∧
        Order.IsCyclicComponent tangle.Requires members ∧ 0 ∉ members ∧ 3 ∉ members := by
  have hplaced : tangle.firstPlaceholder? = none := rfl
  have hmirror : tangle.Requires 4 4 := by
    rw [← mem_requiredEdges_iff_requires, requiredEdges_tangle]
    decide
  have herror : tangle.topologicalOrder = .error (.requiredCycle ["egg", "hen"]) := by
    rw [topologicalOrder, topologicalOrderBy_eq_requiredCycle _ hplaced ⟨4, .single hmirror⟩,
      cycleBy_tangle]
    rfl
  -- no entity requires the chick, and the farm requires none
  have hchick : ∀ a, ¬tangle.Requires a 0 := by
    intro a
    rw [← mem_requiredEdges_iff_requires, requiredEdges_tangle]
    simp
  have hfarm : ∀ a, ¬tangle.Requires 3 a := by
    intro a
    rw [← mem_requiredEdges_iff_requires, requiredEdges_tangle]
    simp
  have hinside : ∀ e ∈ tangle.toList, ∀ l ∈ e.required, ∀ t, l.target = .resolved t → t < tangle.size := by
    intro e he l hl t htarget
    obtain ⟨id, hget⟩ := mem_toList_iff.1 he
    have hedge := mem_requiredEdges_iff_requires.2 ⟨e, hget, l, hl, htarget⟩
    rw [requiredEdges_tangle] at hedge
    exact (by decide : ∀ edge ∈ [(1, 0), (2, 1), (1, 2), (1, 2), (3, 2), (4, 4)], edge.1 < 5) _ hedge
  obtain ⟨members, heq, -, -, hcomponent, hfree⟩ := requiredCycle_of_cyclic
    Order.findsComponents_components hinside (firstPlaceholder?_eq_none_iff.1 hplaced)
    ⟨4, .single hmirror⟩
  rw [← topologicalOrder, herror] at heq
  refine ⟨herror, members, ?_, hcomponent, hfree 0 ?_, hfree 3 ?_⟩
  · exact (PlanError.requiredCycle.inj (Except.error.inj heq)).symm
  · intro h
    obtain ⟨a, -, ha⟩ := TransGen.tail'_iff.1 h
    exact hchick a ha
  · intro h
    obtain ⟨a, ha, -⟩ := TransGen.head'_iff.1 h
    exact hfarm a ha

end FixturePlan.EntitySet
