import FixturePlan.Plan.Order
import FixturePlan.Proofs.Entity.Set
import FixturePlan.Proofs.Order.Acyclic

/-!
# Laws of the order of entities

If `topologicalOrder` gives an order, the order has every entity of the set once, and every entity
comes after the entities that it requires.
-/

namespace FixturePlan.EntitySet

variable {s : EntitySet} {order : List EntityId}

theorem mem_requiredEdges {a b : EntityId} :
    (a, b) ∈ s.requiredEdges ↔ ∃ e, s.get? b = some e ∧ a ∈ e.requiredEntities := by
  simp only [requiredEdges, List.mem_flatMap, List.mem_map, Prod.mk.injEq, mem_toList_iff]
  constructor
  · rintro ⟨e, ⟨id, he⟩, _, ha, rfl, rfl⟩
    exact ⟨e, (id_of_get? he).symm ▸ he, ha⟩
  · rintro ⟨e, he, ha⟩
    exact ⟨e, ⟨b, he⟩, a, ha, rfl, id_of_get? he⟩

/-- An edge leads to the entity that has the link. -/
theorem lt_size_of_mem_requiredEdges {e : Order.Edge} (h : e ∈ s.requiredEdges) : e.2 < s.size := by
  obtain ⟨entity, he, -⟩ := mem_requiredEdges.1 h
  exact lt_size_of_get? he

theorem leastFirst?_of_topologicalOrder (h : s.topologicalOrder = .ok order) :
    Order.leastFirst? s.size s.requiredEdges = some order := by
  unfold topologicalOrder topologicalOrderBy at h
  split at h
  · cases h
  · split at h
    · next hsome => cases h; exact hsome
    · cases h

theorem perm_of_topologicalOrder (h : s.topologicalOrder = .ok order) :
    order.Perm (List.range s.size) :=
  Order.perm_of_leastFirst? (leastFirst?_of_topologicalOrder h)

theorem nodup_of_topologicalOrder (h : s.topologicalOrder = .ok order) : order.Nodup :=
  (perm_of_topologicalOrder h).nodup_iff.2 List.nodup_range

theorem mem_topologicalOrder_iff (h : s.topologicalOrder = .ok order) {id : EntityId} :
    id ∈ order ↔ id < s.size := by
  rw [(perm_of_topologicalOrder h).mem_iff, List.mem_range]

/-- What an entity requires comes before it. -/
theorem mem_before_of_topologicalOrder (h : s.topologicalOrder = .ok order)
    {before after : List EntityId} {id : EntityId} (horder : order = before ++ id :: after)
    {e : Entity} (he : s.get? id = some e) {t : EntityId} (ht : t ∈ e.requiredEntities) :
    t ∈ before :=
  Order.mem_of_leastFirst?_eq_append (leastFirst?_of_topologicalOrder h) horder
    (mem_requiredEdges.2 ⟨e, he, ht⟩)

/-- How to evaluate the order of a given set. -/
theorem topologicalOrder_eq_ok (hplaced : s.firstPlaceholder? = none)
    (horder : Order.placeUpTo s.size s.requiredEdges (List.range s.size) = order)
    (hlength : order.length = s.size) : s.topologicalOrder = .ok order := by
  have hleast : Order.leastFirst? s.size s.requiredEdges = some order := by
    exact Order.leastFirst?_eq_some_of_placeUpTo (fun _ => lt_size_of_mem_requiredEdges) horder hlength
  rw [topologicalOrder, topologicalOrderBy, hplaced]
  simp only [hleast]

theorem firstPlaceholder?_eq_none_iff : s.firstPlaceholder? = none ↔
    ∀ e ∈ s.toList, ∀ l ∈ e.required, ∀ p, l.target ≠ .placeholder p := by
  simp only [firstPlaceholder?, List.findSome?_eq_none_iff, Option.map_eq_none_iff,
    List.find?_eq_none, Option.isSome_iff_exists, Reference.placeholder?_eq_some_iff, not_exists,
    ne_eq]

/-- Where entities require only entities with smaller numbers, they stay in the order of their
numbers. -/
theorem topologicalOrder_eq_range (hplaced : s.firstPlaceholder? = none)
    (hbefore : ∀ e ∈ s.toList, ∀ t ∈ e.requiredEntities, t < e.id) :
    s.topologicalOrder = .ok (List.range s.size) := by
  have hleast : Order.leastFirst? s.size s.requiredEdges = some (List.range s.size) := by
    refine Order.leastFirst?_eq_range fun (a, b) hedge => ?_
    obtain ⟨e, he, ha⟩ := mem_requiredEdges.1 hedge
    have hlt := hbefore e (mem_toList_iff.2 ⟨b, he⟩) a ha
    exact ⟨id_of_get? he ▸ hlt, lt_size_of_get? he⟩
  rw [topologicalOrder, topologicalOrderBy, hplaced]
  simp only [hleast]

end FixturePlan.EntitySet
