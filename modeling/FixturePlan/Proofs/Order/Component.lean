import FixturePlan.Proofs.Order.Acyclic
import FixturePlan.Proofs.Order.Walk
import Mathlib.Data.List.Sort

/-!
# The cycle that is named

The components of a graph are the sets of nodes that lead to each other (`IsComponent`). A component counts
as cyclic if its nodes lie on cycles within it, so that where there is a cycle at all, `cycleBy` names the
nodes of such a component, whatever search it goes by (`isCyclicComponent_cycleBy`). All that is asked of
the search is that it finds components, and one for every node (`FindsComponents`), as the walk of
`components` does (`findsComponents_components`).
-/

namespace FixturePlan.Order

open Relation

/-! ### Components of a relation

What a component is does not depend on the direction of the edges, nor on the order of the list. -/

section Relation

variable {r : Nat → Nat → Prop} {members : List Nat} {a b : Nat}

/-- Nodes that all lead to each other along a relation, as many as do, each listed once. -/
structure IsComponent (r : Nat → Nat → Prop) (members : List Nat) : Prop where
  ne_nil : members ≠ []
  nodup : members.Nodup
  connected : ∀ a ∈ members, ∀ b ∈ members, ReflTransGen r a b
  maximal : ∀ a ∈ members, ∀ b, ReflTransGen r a b → ReflTransGen r b a → b ∈ members

/-- Nodes that all lead to each other along a relation, as many as do, and that lie on cycles which
stay among them. -/
structure IsCyclicComponent (r : Nat → Nat → Prop) (members : List Nat) : Prop where
  ne_nil : members ≠ []
  connected : ∀ a ∈ members, ∀ b ∈ members, ReflTransGen r a b
  maximal : ∀ a ∈ members, ∀ b, ReflTransGen r a b → ReflTransGen r b a → b ∈ members
  on_cycle : ∀ a ∈ members, TransGen (fun x y => x ∈ members ∧ y ∈ members ∧ r x y) a a

namespace IsCyclicComponent

/-- Against the relation, the components are the same. -/
theorem swap (h : IsCyclicComponent r members) : IsCyclicComponent (Function.swap r) members where
  ne_nil := h.ne_nil
  connected a ha b hb := reflTransGen_swap.2 (h.connected b hb a ha)
  maximal a ha b hab hba :=
    h.maximal a ha b (reflTransGen_swap.1 hba) (reflTransGen_swap.1 hab)
  on_cycle a ha := by
    refine TransGen.mono (fun x y hyx => ?_) a a (transGen_swap.2 (h.on_cycle a ha))
    exact ⟨hyx.2.1, hyx.1, hyx.2.2⟩

theorem transGen (h : IsCyclicComponent r members) (ha : a ∈ members) : TransGen r a a :=
  TransGen.mono (fun _ _ hxy => hxy.2.2) a a (h.on_cycle a ha)

/-- In what order the nodes are listed makes no difference. -/
theorem perm {members' : List Nat} (h : IsCyclicComponent r members) (hperm : members.Perm members') :
    IsCyclicComponent r members' where
  ne_nil hnil := h.ne_nil (List.perm_nil.1 (hnil ▸ hperm))
  connected a ha b hb := h.connected a (hperm.mem_iff.2 ha) b (hperm.mem_iff.2 hb)
  maximal a ha b hab hba := hperm.mem_iff.1 (h.maximal a (hperm.mem_iff.2 ha) b hab hba)
  on_cycle a ha := by
    refine TransGen.mono (fun x y hxy => ?_) a a (h.on_cycle a (hperm.mem_iff.2 ha))
    exact ⟨hperm.mem_iff.1 hxy.1, hperm.mem_iff.1 hxy.2.1, hxy.2.2⟩

end IsCyclicComponent

/-- A way that can be led back to where it began stays in the component of its beginning. -/
theorem transGen_within
    (hmaximal : ∀ a ∈ members, ∀ b, ReflTransGen r a b → ReflTransGen r b a → b ∈ members)
    (ha : a ∈ members) (hway : TransGen r a b) (hback : ReflTransGen r b a) :
    TransGen (fun x y => x ∈ members ∧ y ∈ members ∧ r x y) a b := by
  induction hway with
  | single h => exact .single ⟨ha, hmaximal a ha _ (.single h) hback, h⟩
  | @tail c d hac hcd ih =>
    have hca : ReflTransGen r c a := hback.head hcd
    have hc : c ∈ members := hmaximal a ha c hac.to_reflTransGen hca
    have hd : d ∈ members := hmaximal a ha d (hac.tail hcd).to_reflTransGen hback
    exact (ih hca).tail ⟨hc, hd, hcd⟩

end Relation

/-! ### Components of a graph

The component of a node is what can be reached from it and leads back to it. -/

/-- An edge leads from one node to another. -/
abbrev HasEdge (edges : List Edge) (a b : Nat) : Prop := (a, b) ∈ edges

/-- The component of a node, found by walks along the edges and against them. -/
abbrev componentOf (count : Nat) (edges : List Edge) (node : Nat) : List Nat :=
  component (successorTable count edges) (successorTable count (edges.map Prod.swap)) node

variable {count : Nat} {edges : List Edge} {a b node : Nat} {c nodes : List Nat}
  {found : List (List Nat)} {forward backward : Array (List Nat)}

theorem mem_successorTable :
    b ∈ (successorTable count edges)[a]?.getD [] ↔ a < count ∧ HasEdge edges a b := by
  rw [successorTable, Array.getElem?_ofFn]
  by_cases ha : a < count
  · simp [ha, successors]
  · simp [ha]

theorem mem_component : b ∈ component forward backward a ↔ Leads forward a b ∧ Leads backward a b := by
  rw [component, List.mem_filter, mem_left_walk, Std.HashSet.contains_iff_mem, mem_entered_walk]
  simp only [List.mem_singleton, exists_eq_left]

theorem nodup_component (forward backward : Array (List Nat)) (node : Nat) :
    (component forward backward node).Nodup :=
  (nodup_left_walk forward [node]).filter _

/-! ### Collecting components

Every node gets into one component, when it or another node of its component is first met. -/

theorem mem_collectComponents_of_mem (hc : c ∈ found) :
    c ∈ collectComponents forward backward found nodes := by
  induction nodes generalizing found with
  | nil => exact hc
  | cons node rest ih =>
    rw [collectComponents]
    split
    · exact ih hc
    · exact ih (List.mem_cons_of_mem _ hc)

theorem eq_component_of_mem_collect (hc : c ∈ collectComponents forward backward found nodes) :
    c ∈ found ∨ ∃ node ∈ nodes, c = component forward backward node := by
  induction nodes generalizing found with
  | nil => exact Or.inl hc
  | cons node rest ih =>
    rw [collectComponents] at hc
    split at hc
    · exact (ih hc).imp_right fun ⟨n, hn, heq⟩ => ⟨n, List.mem_cons_of_mem _ hn, heq⟩
    · rcases ih hc with hc | ⟨n, hn, heq⟩
      · rcases List.mem_cons.1 hc with heq | hc
        · exact Or.inr ⟨node, List.mem_cons_self, heq⟩
        · exact Or.inl hc
      · exact Or.inr ⟨n, List.mem_cons_of_mem _ hn, heq⟩

/-- Every node gets into a component. -/
theorem exists_mem_collectComponents (hnode : node ∈ nodes) :
    ∃ c ∈ collectComponents forward backward found nodes, node ∈ c := by
  induction nodes generalizing found with
  | nil => cases hnode
  | cons first rest ih =>
    rw [collectComponents]
    rcases List.mem_cons.1 hnode with rfl | hnode
    · split
      · next hany =>
        obtain ⟨c, hc, hmem⟩ := List.any_eq_true.1 hany
        exact ⟨c, mem_collectComponents_of_mem hc, by simpa using hmem⟩
      · exact ⟨_, mem_collectComponents_of_mem List.mem_cons_self, mem_component.2 ⟨.refl, .refl⟩⟩
    · split
      · exact ih hnode
      · exact ih hnode

theorem exists_mem_components (ha : a < count) : ∃ c ∈ components count edges, a ∈ c :=
  exists_mem_collectComponents (mem_left_walk.2 ⟨a, List.mem_range.2 ha, .refl⟩)

section InRange

variable (hto : ∀ e ∈ edges, e.2 < count)

include hto

/-! ### Components and edges

So the components that are collected are components along the edges. -/

/-- A way from a node of the table never leaves the table. -/
theorem lt_of_reflTransGen (ha : a < count) (h : ReflTransGen (HasEdge edges) a b) : b < count := by
  cases h with
  | refl => exact ha
  | tail _ hedge => exact hto _ hedge

theorem leads_forward_iff (ha : a < count) :
    Leads (successorTable count edges) a b ↔ ReflTransGen (HasEdge edges) a b := by
  constructor
  · exact ReflTransGen.mono (fun _ _ hstep => (mem_successorTable.1 hstep).2) a b
  · intro h
    induction h with
    | refl => exact .refl
    | tail hway hedge ih =>
      exact ih.tail (mem_successorTable.2 ⟨lt_of_reflTransGen hto ha hway, hedge⟩)

theorem leads_backward_iff :
    Leads (successorTable count (edges.map Prod.swap)) a b ↔ ReflTransGen (HasEdge edges) b a := by
  have hstep : (fun x y => y ∈ (successorTable count (edges.map Prod.swap))[x]?.getD []) =
      Function.swap (HasEdge edges) := by
    funext x y
    have hswap : HasEdge (edges.map Prod.swap) x y ↔ HasEdge edges y x := by simp
    rw [mem_successorTable, hswap]
    exact propext ⟨And.right, fun h => ⟨hto _ h, h⟩⟩
  rw [Leads, hstep, reflTransGen_swap]

theorem mem_componentOf (ha : a < count) : b ∈ componentOf count edges a ↔
    ReflTransGen (HasEdge edges) a b ∧ ReflTransGen (HasEdge edges) b a := by
  rw [mem_component, leads_forward_iff hto ha, leads_backward_iff hto]

theorem isComponent_componentOf (hnode : node < count) :
    IsComponent (HasEdge edges) (componentOf count edges node) where
  ne_nil := List.ne_nil_of_mem ((mem_componentOf hto hnode).2 ⟨.refl, .refl⟩)
  nodup := nodup_component _ _ _
  connected a ha b hb :=
    ((mem_componentOf hto hnode).1 ha).2.trans ((mem_componentOf hto hnode).1 hb).1
  maximal a ha b hab hba := by
    obtain ⟨hna, han⟩ := (mem_componentOf hto hnode).1 ha
    exact (mem_componentOf hto hnode).2 ⟨hna.trans hab, hba.trans han⟩

theorem exists_of_mem_components (hc : c ∈ components count edges) :
    ∃ node < count, c = componentOf count edges node := by
  rcases eq_component_of_mem_collect hc with hc | ⟨node, hnode, heq⟩
  · cases hc
  · obtain ⟨start, hstart, hway⟩ := mem_left_walk.1 hnode
    have hlt := List.mem_range.1 hstart
    exact ⟨node, lt_of_reflTransGen hto hlt ((leads_forward_iff hto hlt).1 hway), heq⟩

end InRange

/-! ### Cyclic components

A component counts as cyclic if it has two nodes or an edge from its node to itself. -/

namespace IsComponent

/-- In a component that counts as cyclic, every node lies on a cycle. -/
theorem transGen_of_isCyclic (h : IsComponent (HasEdge edges) c) (hcyclic : isCyclic edges c = true)
    (ha : a ∈ c) : TransGen (HasEdge edges) a a := by
  rw [isCyclic, Bool.or_eq_true, decide_eq_true_iff, List.any_eq_true] at hcyclic
  rcases hcyclic with hlength | ⟨n, hn, hedge⟩
  · -- there and back, by way of another node
    obtain ⟨b, hb, hne⟩ : ∃ b ∈ c, b ≠ a := by
      refine Classical.byContradiction fun hall => ?_
      have hsub : c ⊆ [a] := fun b hb =>
        List.mem_singleton.2 (Classical.byContradiction fun hne => hall ⟨b, hb, hne⟩)
      exact absurd (List.Nodup.length_le_of_subset h.nodup hsub) (Nat.not_le_of_lt hlength)
    rcases reflTransGen_iff_eq_or_transGen.1 (h.connected a ha b hb) with heq | hway
    · exact absurd heq hne
    · exact hway.trans_left (h.connected b hb a ha)
  · have hloop : HasEdge edges n n := List.contains_iff_mem.1 hedge
    exact (TransGen.trans_right (h.connected a ha n hn) (.single hloop)).trans_left
      (h.connected n hn a ha)

/-- A component with a node on a cycle counts as cyclic. -/
theorem isCyclic_of_transGen (h : IsComponent (HasEdge edges) c) (ha : a ∈ c)
    (hcycle : TransGen (HasEdge edges) a a) : isCyclic edges c = true := by
  rw [isCyclic, Bool.or_eq_true, decide_eq_true_iff, List.any_eq_true]
  obtain ⟨b, hab, hba⟩ := TransGen.head'_iff.1 hcycle
  by_cases heq : b = a
  · exact Or.inr ⟨a, ha, List.contains_iff_mem.2 (heq ▸ hab)⟩
  · have hb := h.maximal a ha b (.single hab) hba
    have hsub : [a, b] ⊆ c := List.cons_subset.2 ⟨ha, List.cons_subset.2 ⟨hb, List.nil_subset _⟩⟩
    have hnodup : [a, b].Nodup := by simpa using Ne.symm heq
    exact Or.inl (List.Nodup.length_le_of_subset hnodup hsub)

theorem isCyclicComponent (h : IsComponent (HasEdge edges) c) (hcyclic : isCyclic edges c = true) :
    IsCyclicComponent (HasEdge edges) c where
  ne_nil := h.ne_nil
  connected := h.connected
  maximal := h.maximal
  on_cycle _ ha := transGen_within h.maximal ha (h.transGen_of_isCyclic hcyclic ha) .refl

end IsComponent

/-! ### Searches -/

/-- What is asked of a search in a graph whose edges lead between its nodes: it finds nothing but
components, and every node is in one that it finds. -/
structure FindsComponents (search : ComponentSearch) : Prop where
  isComponent : ∀ {count : Nat} {edges : List Edge}, (∀ e ∈ edges, e.1 < count ∧ e.2 < count) →
    ∀ c ∈ search count edges, IsComponent (HasEdge edges) c
  exists_mem : ∀ {count : Nat} {edges : List Edge}, (∀ e ∈ edges, e.1 < count ∧ e.2 < count) →
    ∀ node < count, ∃ c ∈ search count edges, node ∈ c

theorem findsComponents_components : FindsComponents components where
  isComponent hrange c hc := by
    have hto := fun e he => (hrange e he).2
    obtain ⟨node, hnode, rfl⟩ := exists_of_mem_components hto hc
    exact isComponent_componentOf hto hnode
  exists_mem _ _ := exists_mem_components

/-- If there is a cycle, the nodes that `cycleBy` names are a component whose nodes lie on cycles, in
ascending order. -/
theorem isCyclicComponent_cycleBy {search : ComponentSearch} (hsearch : FindsComponents search)
    (hrange : ∀ e ∈ edges, e.1 < count ∧ e.2 < count) (hcyclic : ∃ n, Path edges n n) :
    IsCyclicComponent (HasEdge edges) (cycleBy search count edges) ∧
      (cycleBy search count edges).Pairwise (· < ·) := by
  obtain ⟨n, hway⟩ := hcyclic
  have hn : n < count := by
    cases hway with
    | single hedge => exact (hrange _ hedge).2
    | tail _ hedge => exact (hrange _ hedge).2
  -- the component of a node on a cycle is cyclic, hence some cyclic component is found
  obtain ⟨c, hc, hnc⟩ := hsearch.exists_mem hrange n hn
  have hcyclic := (hsearch.isComponent hrange c hc).isCyclic_of_transGen hnc hway
  obtain ⟨found, hfound⟩ := Option.isSome_iff_exists.1 (List.find?_isSome.2 ⟨c, hc, hcyclic⟩)
  have hcomponent := hsearch.isComponent hrange found (List.mem_of_find?_eq_some hfound)
  have hperm : (cycleBy search count edges).Perm found := by
    rw [cycleBy, hfound]
    exact List.mergeSort_perm _ _
  refine ⟨(hcomponent.isCyclicComponent (List.find?_some hfound)).perm hperm.symm, ?_⟩
  have hsorted : (cycleBy search count edges).Pairwise (· ≤ ·) := List.pairwise_mergeSort' (· ≤ ·) _
  exact hsorted.imp₂ (fun _ _ => Nat.lt_of_le_of_ne) (hperm.nodup_iff.2 hcomponent.nodup)

end FixturePlan.Order
