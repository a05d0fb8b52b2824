import FixturePlan.Proofs.Order.Acyclic
import FixturePlan.Proofs.Schema.Graph
import FixturePlan.Schema.CreationOrder

/-!
# Laws of the creation order

The creation order has every table once (`Schema.perm_creationOrder`). If the tables need each other in
no circle, every table stands behind the tables that it needs (`Schema.idxOf_creationOrder_lt`).
-/

namespace FixturePlan.Schema

/-- A NOT NULL key leads from the table `b` to the other table `a`, which has to be created first. -/
def NeededBy (s : Schema) (a b : TableId) : Prop :=
  ∃ k ∈ s.foreignKeys, k.nullable = false ∧ k.isSelfReference = false ∧ k.target = a ∧ k.source = b

variable {s : Schema}

theorem mem_creationEdges {a b : TableId} : (a, b) ∈ s.creationEdges ↔ s.NeededBy a b := by
  simp only [creationEdges, NeededBy, List.mem_map, List.mem_filter, Bool.and_eq_true,
    Bool.not_eq_true', Prod.mk.injEq, and_assoc]

/-- The creation order has every table once. -/
theorem perm_creationOrder (s : Schema) : s.creationOrder.Perm (List.range s.tables.length) := by
  unfold creationOrder
  cases horder : s.acyclicOrder? with
  | none => exact .refl _
  | some order => exact Order.perm_of_leastFirst? horder

theorem nodup_creationOrder (s : Schema) : s.creationOrder.Nodup :=
  (perm_creationOrder s).nodup_iff.2 List.nodup_range

/-- Tables are known by their positions, and keys stand between tables of the schema. -/
structure Numbered (s : Schema) : Prop where
  table_id : ∀ id t, s.table? id = some t → t.id = id
  source_lt : ∀ k ∈ s.foreignKeys, k.source < s.tables.length
  target_lt : ∀ k ∈ s.foreignKeys, k.target < s.tables.length

theorem WellFormed.numbered (hs : s.WellFormed) : s.Numbered where
  table_id := hs.table_id
  source_lt := by
    intro k hk
    obtain ⟨source, target, hj⟩ := hs.exists_joins k hk
    exact (List.getElem?_eq_some_iff.1 hj.source_eq).1
  target_lt := by
    intro k hk
    obtain ⟨source, target, hj⟩ := hs.exists_joins k hk
    exact (List.getElem?_eq_some_iff.1 hj.target_eq).1

theorem Numbered.lt_of_neededBy (hs : s.Numbered) {a b : TableId} (h : s.NeededBy a b) :
    a < s.tables.length ∧ b < s.tables.length := by
  obtain ⟨k, hk, -, -, rfl, rfl⟩ := h
  exact ⟨hs.target_lt k hk, hs.source_lt k hk⟩

theorem Numbered.inRange_creationEdges (hs : s.Numbered) :
    ∀ e ∈ s.creationEdges, e.1 < s.tables.length ∧ e.2 < s.tables.length := fun _ he =>
  hs.lt_of_neededBy (mem_creationEdges.1 he)

theorem acyclic_creationEdges_iff :
    Order.Acyclic s.creationEdges ↔ ∀ t, ¬Relation.TransGen s.NeededBy t t := by
  have hedges : (fun a b => (a, b) ∈ s.creationEdges) = s.NeededBy :=
    funext₂ fun a b => propext mem_creationEdges
  rw [Order.Acyclic, ← hedges]
  rfl

/-- How to evaluate the order of a given schema. -/
theorem creationOrder_eq {order : List TableId}
    (hto : ∀ e ∈ s.creationEdges, e.2 < s.tables.length)
    (horder : Order.placeUpTo s.tables.length s.creationEdges (List.range s.tables.length) = order)
    (hlength : order.length = s.tables.length) : s.creationOrder = order := by
  rw [creationOrder, acyclicOrder?, Order.leastFirst?_eq_some_of_placeUpTo hto horder hlength,
    Option.getD_some]

section Acyclic

variable (hs : s.Numbered) (hacyclic : ∀ t, ¬Relation.TransGen s.NeededBy t t)

include hs hacyclic

theorem acyclicOrder?_eq_some : s.acyclicOrder? = some s.creationOrder := by
  obtain ⟨order, horder⟩ := (acyclic_creationEdges_iff.2 hacyclic).exists_leastFirst?
    hs.inRange_creationEdges
  have hfound : s.acyclicOrder? = some order := horder
  rw [creationOrder, hfound, Option.getD_some]

/-- In the creation order a table stands behind the tables that it needs. -/
theorem idxOf_creationOrder_lt {a b : TableId} (h : s.NeededBy a b) :
    s.creationOrder.idxOf a < s.creationOrder.idxOf b :=
  Order.idxOf_lt_of_leastFirst? (acyclicOrder?_eq_some hs hacyclic) (mem_creationEdges.2 h)
    (hs.lt_of_neededBy h).2

end Acyclic

end FixturePlan.Schema
