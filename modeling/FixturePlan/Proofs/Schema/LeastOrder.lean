import FixturePlan.Proofs.Order.Earliest
import FixturePlan.Proofs.Schema.Build
import FixturePlan.Proofs.Schema.CreationOrder
import Mathlib.Order.Bounds.Basic

/-!
# The creation order is the least of all

If the tables need each other in no circle, they have orders in which each stands behind those that it
needs (`Schema.IsCreationOrder`), and the creation order is the first of them in the order of a
dictionary. If they do, it is the order of discovery, with a warning (`Schema.isLeast_creationOrder`).
NOT NULL keys between different tables are all that either depends on.
-/

namespace FixturePlan.Schema

/-- An order of all tables in which each stands behind the tables that it needs. -/
structure IsCreationOrder (s : Schema) (order : List TableId) : Prop where
  /-- The order has every table of the schema once. -/
  perm : order.Perm (s.tables.map (·.id))
  mem_before : ∀ before b after, order = before ++ b :: after → ∀ a, s.NeededBy a b → a ∈ before

variable {s s' : Schema} {order : List TableId}

/-- Tables are numbered in the order in which they were discovered. -/
theorem Numbered.map_id_tables (hs : s.Numbered) :
    s.tables.map (·.id) = List.range s.tables.length := by
  apply List.ext_getElem?
  intro i
  rw [List.getElem?_map]
  cases ht : s.tables[i]? with
  | none => simpa using ht
  | some t =>
    have hlt : i < s.tables.length := (List.getElem?_eq_some_iff.1 ht).1
    rw [Option.map_some, hs.table_id i t ht, List.getElem?_range hlt]

theorem IsCreationOrder.forwards (h : s.IsCreationOrder order) :
    Order.Forwards s.creationEdges order := by
  intro before b after hsplit a hedge
  exact h.mem_before before b after hsplit a (mem_creationEdges.1 hedge)

section Acyclic

variable (hs : s.Numbered) (hacyclic : ∀ t, ¬Relation.TransGen s.NeededBy t t)

include hs hacyclic

theorem isCreationOrder : s.IsCreationOrder s.creationOrder where
  perm := hs.map_id_tables ▸ perm_creationOrder s
  mem_before _ _ _ hsplit _ ha :=
    Order.mem_of_leastFirst?_eq_append (acyclicOrder?_eq_some hs hacyclic) hsplit
      (mem_creationEdges.2 ha)

theorem creationOrder_le (h : s.IsCreationOrder order) : s.creationOrder ≤ order := by
  obtain ⟨hplace, -⟩ := Order.eq_place_of_leastFirst? (acyclicOrder?_eq_some hs hacyclic)
  rw [hplace]
  exact Order.place_le List.pairwise_lt_range (hs.map_id_tables ▸ h.perm) h.forwards

end Acyclic

/-- There is no order if the tables need each other in a circle. -/
theorem acyclicOrder?_eq_none (hs : s.Numbered)
    (hcyclic : ∃ t, Relation.TransGen s.NeededBy t t) : s.acyclicOrder? = none := by
  apply Option.eq_none_iff_forall_ne_some.2
  intro order horder
  obtain ⟨t, ht⟩ := hcyclic
  refine acyclic_creationEdges_iff.1 (Order.acyclic_of_leastFirst? horder ?_) t ht
  exact fun e he => (hs.inRange_creationEdges e he).2

/-- How many tables there are and which of them need which is all that the order depends on. -/
theorem acyclicOrder?_congr (hs : s.Numbered) (hlength : s'.tables.length = s.tables.length)
    (hneeds : ∀ a b, s'.NeededBy a b ↔ s.NeededBy a b) : s'.acyclicOrder? = s.acyclicOrder? := by
  have hedges : ∀ e, e ∈ s.creationEdges ↔ e ∈ s'.creationEdges := fun (a, b) => by
    rw [mem_creationEdges, mem_creationEdges, hneeds]
  rw [acyclicOrder?, acyclicOrder?, hlength,
    Order.leastFirst?_congr hedges fun e he => (hs.inRange_creationEdges e he).2]

/-- **The creation order has every table once. Where NOT NULL keys between different tables form no
cycle, it is the least order in which every table stands behind those it needs; where they do, it is the
order of discovery, and there is one warning.** All other keys make no difference: two schemas with as
many tables that need each other in the same way have the same order and the same warnings. -/
theorem isLeast_creationOrder (hs : s.Numbered) :
    s.creationOrder.Perm (s.tables.map (·.id)) ∧
    ((∀ t, ¬Relation.TransGen s.NeededBy t t) →
      IsLeast {order | s.IsCreationOrder order} s.creationOrder ∧ s.creationWarnings = []) ∧
    ((∃ t, Relation.TransGen s.NeededBy t t) →
      s.creationOrder = s.tables.map (·.id) ∧ s.creationWarnings = [.tableCycle]) ∧
    ∀ s' : Schema, s'.tables.length = s.tables.length →
      (∀ a b, s'.NeededBy a b ↔ s.NeededBy a b) →
      s'.creationOrder = s.creationOrder ∧ s'.creationWarnings = s.creationWarnings := by
  refine ⟨hs.map_id_tables ▸ perm_creationOrder s, ?_, ?_, ?_⟩
  · intro hacyclic
    refine ⟨⟨isCreationOrder hs hacyclic, fun order => creationOrder_le hs hacyclic⟩, ?_⟩
    rw [creationWarnings, acyclicOrder?_eq_some hs hacyclic]
    rfl
  · intro hcyclic
    have hnone := acyclicOrder?_eq_none hs hcyclic
    rw [creationOrder, creationWarnings, hnone, hs.map_id_tables]
    exact ⟨rfl, rfl⟩
  · intro s' hlength hneeds
    have hsame := acyclicOrder?_congr hs hlength hneeds
    rw [creationOrder, creationOrder, creationWarnings, creationWarnings, hsame, hlength]
    exact ⟨rfl, rfl⟩

/-! ### A sample

The crew of a ship, each with a mate, and the port and the captain of the ship. As long as a ship can do
without a captain, all can be created. -/

/-- A table with columns that admit NULL or not. -/
def fleetTable (id : TableId) (name : String) (columns : List (String × Bool)) : Table where
  id
  name := ⟨"main", name⟩
  columns := columns.map fun (name, nullable) =>
    ⟨name, ⟨"integer", TypeCode.other, nullable, none, none⟩, nullable, false⟩
  primaryKey := []
  outgoing := []
  incoming := []

/-- A key from one table to another. -/
def fleetKey (source column target : String) : KeySpec :=
  ⟨column, ⟨"main", source⟩, ⟨"main", target⟩, [⟨1, column, "id"⟩]⟩

/-- The schema of a fleet in which ships may lack a captain or not. -/
def fleet (mayLackCaptain : Bool) : Schema :=
  let tables :=
    [fleetTable 0 "crew" [("id", false), ("ship", false), ("mate", false)],
      fleetTable 1 "ship" [("id", false), ("captain", mayLackCaptain), ("port", false)],
      fleetTable 2 "port" [("id", false)], fleetTable 3 "log" [("id", false)]]
  ({ empty "main" with tables }.attach
    [fleetKey "crew" "ship" "ship", fleetKey "crew" "mate" "crew", fleetKey "ship" "captain" "crew",
      fleetKey "ship" "port" "port"]).state.schema

theorem wellFormed_fleet (mayLackCaptain : Bool) : (fleet mayLackCaptain).WellFormed := by
  let infos : List TableInfo := ["crew", "ship", "port", "log"].map (.table "main")
  have hnames : (infos.map qualified).Nodup := by decide
  apply wellFormed_attach
  refine wellFormed_of_loaded ?_ hnames
  exact .cons ⟨rfl, rfl, nofun, rfl, rfl⟩ (.cons ⟨rfl, rfl, nofun, rfl, rfl⟩
    (.cons ⟨rfl, rfl, nofun, rfl, rfl⟩ (.cons ⟨rfl, rfl, nofun, rfl, rfl⟩ .nil)))

theorem isLeast_creationOrder_sample :
    IsLeast {order | (fleet true).IsCreationOrder order} [2, 1, 0, 3] ∧
      (fleet true).creationWarnings = [] ∧
      (fleet false).creationOrder = [0, 1, 2, 3] ∧
      (fleet false).creationWarnings = [.tableCycle] := by
  have hacyclic : ∀ t, ¬Relation.TransGen (fleet true).NeededBy t t := by
    -- all needed tables were discovered later
    have hlater : ∀ a b, (fleet true).NeededBy a b → b < a := by
      rintro _ _ ⟨k, hk, hnullable, hself, rfl, rfl⟩
      revert k
      decide
    intro t ht
    have hpath : Relation.TransGen (fun a b => b < a) t t := Relation.TransGen.mono hlater _ _ ht
    rw [Relation.transGen_eq_self] at hpath
    exact Nat.lt_irrefl t hpath
  have hcyclic : ∃ t, Relation.TransGen (fleet false).NeededBy t t := by
    refine ⟨0, .tail (.single (b := 1) ?_) ?_⟩
    · exact ⟨_, List.mem_of_getElem? (i := 2) rfl, rfl, rfl, rfl, rfl⟩
    · exact ⟨_, List.mem_of_getElem? (i := 0) rfl, rfl, rfl, rfl, rfl⟩
  have horder : (fleet true).creationOrder = [2, 1, 0, 3] :=
    creationOrder_eq (by decide) rfl rfl
  obtain ⟨-, hleast, -, -⟩ := isLeast_creationOrder (wellFormed_fleet true).numbered
  obtain ⟨-, -, hdiscovered, -⟩ := isLeast_creationOrder (wellFormed_fleet false).numbered
  exact ⟨horder ▸ (hleast hacyclic).1, (hleast hacyclic).2, hdiscovered hcyclic⟩

end FixturePlan.Schema
