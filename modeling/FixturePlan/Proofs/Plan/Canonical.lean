import FixturePlan.Proofs.Order.Earliest
import FixturePlan.Proofs.Plan.Topological
import Mathlib.Order.Bounds.Basic

/-!
# The order of a set is the least of its topological orders

A set can have many orders in which every entity comes after those that it requires. The one that
`topologicalOrder` gives is the first of them in the order of a dictionary
(`EntitySet.isLeast_topologicalOrder`). Which entities require which is all that it depends on: how
links are named, how often an entity requires another and in what sequence make no difference.
-/

namespace FixturePlan.EntitySet

variable {s : EntitySet} {order : List EntityId}

theorem IsTopological.forwards (h : s.IsTopological order) :
    Order.Forwards s.requiredEdges order := by
  intro before id after hsplit t hedge
  exact h.mem_before before id after hsplit t (mem_requiredEdges_iff_requires.1 hedge)

theorem IsTopological.lt_size_of_requires (h : s.IsTopological order) {a b : EntityId}
    (hrequires : s.Requires a b) : b < s.size := by
  have ha : a < s.size := by
    obtain ⟨e, he, -⟩ := hrequires
    exact lt_size_of_get? he
  obtain ⟨before, after, hsplit⟩ := List.append_of_mem (h.perm.mem_iff.2 (List.mem_range.2 ha))
  have hb : b ∈ order := by
    rw [hsplit]
    exact List.mem_append_left _ (h.mem_before before a after hsplit b hrequires)
  exact List.mem_range.1 (h.perm.mem_iff.1 hb)

theorem topologicalOrder_le (h : s.topologicalOrder = .ok order) {other : List EntityId}
    (hother : s.IsTopological other) : order ≤ other := by
  obtain ⟨rfl, -⟩ := Order.eq_place_of_leastFirst? (leastFirst?_of_topologicalOrder h)
  exact Order.place_le List.pairwise_lt_range hother.perm hother.forwards

/-- A topological order remains one where entities require less. -/
theorem IsTopological.of_requires {s' : EntitySet} (h : s.IsTopological order)
    (hsize : s.size = s'.size) (hrequires : ∀ a b, s'.Requires a b → s.Requires a b) :
    s'.IsTopological order where
  perm := hsize ▸ h.perm
  mem_before before id after hsplit t ht :=
    h.mem_before before id after hsplit t (hrequires id t ht)

/-- **The order of a set is the least of its topological orders**, compared entity by entity. It is
also the order of every other set of as many entities that require each other in the same way and
have no placeholders left. -/
theorem isLeast_topologicalOrder (h : s.topologicalOrder = .ok order) :
    IsLeast {other | s.IsTopological other} order ∧
      ∀ s' : EntitySet, s'.size = s.size → (∀ a b, s'.Requires a b ↔ s.Requires a b) →
        (∀ e ∈ s'.toList, ∀ l ∈ e.required, ∀ p, l.target ≠ .placeholder p) →
        s'.topologicalOrder = .ok order := by
  refine ⟨⟨isTopological h, fun other => topologicalOrder_le h⟩, ?_⟩
  intro s' hsize hrequires hplaced
  have hinside : ∀ a b, s'.Requires a b → b < s'.size := by
    intro a b hab
    rw [hsize]
    exact (isTopological h).lt_size_of_requires ((hrequires a b).1 hab)
  have hacyclic : ∀ id, ¬Relation.TransGen s'.Requires id id := by
    have heq : s'.Requires = s.Requires := funext₂ fun a b => propext (hrequires a b)
    rw [heq]
    exact acyclic_of_topologicalOrder h
  obtain ⟨order', horder'⟩ :=
    exists_order_of_acyclic hinside (firstPlaceholder?_eq_none_iff.2 hplaced) hacyclic
  -- both orders are topological orders of both sets, and each is the least of one of them
  have hle : order ≤ order' := topologicalOrder_le h
    ((isTopological horder').of_requires hsize fun a b => (hrequires a b).2)
  have hge : order' ≤ order := topologicalOrder_le horder'
    ((isTopological h).of_requires hsize.symm fun a b => (hrequires a b).1)
  rw [horder', le_antisymm hge hle]

/-- A basket that holds an egg and needs a handle, which needs a nail. -/
def basket : EntitySet :=
  let basket := { Entity.extracted 0 "basket" with
    required := [Plan.sampleLink "content" 2, Plan.sampleLink "handle" 3] }
  let handle := { Entity.extracted 0 "handle" with required := [Plan.sampleLink "nail" 1] }
  (((∅ : EntitySet).push basket).push (.extracted 0 "nail") |>.push (.extracted 0 "egg")).push handle

/-- The same with links in another sequence, one of them twice. -/
def basketAgain : EntitySet :=
  let basket := { Entity.extracted 0 "basket" with
    required := [Plan.sampleLink "grip" 3, Plan.sampleLink "content" 2, Plan.sampleLink "egg" 2] }
  let handle := { Entity.extracted 0 "handle" with required := [Plan.sampleLink "pin" 1] }
  (((∅ : EntitySet).push basket).push (.extracted 0 "nail") |>.push (.extracted 0 "egg")).push handle

theorem isLeast_topologicalOrder_sample :
    IsLeast {other | basket.IsTopological other} [1, 2, 3, 0] ∧
      basketAgain.topologicalOrder = .ok [1, 2, 3, 0] := by
  have hsorted : basket.topologicalOrder = .ok [1, 2, 3, 0] := topologicalOrder_eq_ok rfl rfl rfl
  have hplaced : ∀ e ∈ basketAgain.toList, ∀ l ∈ e.required, ∀ p, l.target ≠ .placeholder p :=
    firstPlaceholder?_eq_none_iff.1 rfl
  have hrequires : ∀ a b, basketAgain.Requires a b ↔ basket.Requires a b := by
    intro a b
    simp only [← mem_requiredEdges_iff_requires]
    have hedges : basketAgain.requiredEdges = [(3, 0), (2, 0), (2, 0), (1, 3)] := rfl
    have hedges' : basket.requiredEdges = [(2, 0), (3, 0), (1, 3)] := rfl
    rw [hedges, hedges']
    simp only [List.mem_cons]
    tauto
  obtain ⟨hleast, hsame⟩ := isLeast_topologicalOrder hsorted
  exact ⟨hleast, hsame basketAgain rfl hrequires hplaced⟩

end FixturePlan.EntitySet
