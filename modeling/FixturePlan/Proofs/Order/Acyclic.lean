import FixturePlan.Proofs.Order.LeastFirst
import Mathlib.Data.Set.Finite.Basic
import Mathlib.Order.WellFounded

/-!
# When there is a least-first order

If the edges form no cycle, some node is ready as long as nodes are pending, so that all nodes are
placed (`Acyclic.perm_place`) and `leastFirst?` finds an order (`Acyclic.exists_leastFirst?`). Where
there is an order, every way leads forwards in it, and none back (`acyclic_of_leastFirst?`). If all
edges lead from a number to a greater one, the numbers themselves are that order
(`leastFirst?_eq_range`).
-/

namespace FixturePlan.Order

/-- A way along one edge or more. -/
def Path (edges : List Edge) : Nat → Nat → Prop := Relation.TransGen fun a b => (a, b) ∈ edges

/-- No way along the edges leads from a node back to it. -/
def Acyclic (edges : List Edge) : Prop := ∀ node, ¬Path edges node node

namespace Acyclic

variable {edges : List Edge} {pending : List Nat}

theorem serve (h : Acyclic edges) (node : Nat) : Acyclic (serve edges node) := fun n hpath =>
  h n (Relation.TransGen.mono (fun _ _ hedge => (mem_serve.1 hedge).1) _ _ hpath)

/-- Among pending nodes that no edge enters from elsewhere, one is ready. -/
theorem exists_ready (h : Acyclic edges) (hne : pending ≠ [])
    (hfrom : ∀ e ∈ edges, e.1 ∈ pending) : ∃ node ∈ pending, isReady edges node = true := by
  -- ways are transitive and never closed, so that finitely many nodes have a first one
  let before (a b : { n // n ∈ pending }) : Prop := Path edges a b
  have : Finite { n // n ∈ pending } := pending.finite_toSet
  have : IsTrans _ before := ⟨fun _ _ _ hab hbc => Relation.TransGen.trans hab hbc⟩
  have : Std.Irrefl before := ⟨fun a => h a⟩
  have hwf : WellFounded before := Finite.wellFounded_of_trans_of_irrefl before
  obtain ⟨node, hnode⟩ := List.exists_mem_of_ne_nil pending hne
  obtain ⟨first, -, hfirst⟩ := hwf.has_min Set.univ ⟨⟨node, hnode⟩, trivial⟩
  refine ⟨first, first.2, isReady_eq_true_iff.2 fun a hedge => ?_⟩
  exact hfirst ⟨a, hfrom _ hedge⟩ trivial (Relation.TransGen.single hedge)

/-- All pending nodes are placed. -/
theorem perm_place (h : Acyclic edges) (hfrom : ∀ e ∈ edges, e.1 ∈ pending) :
    (place edges pending).Perm pending := by
  induction edges, pending using place_induction with
  | stop edges pending hnone =>
    cases pending with
    | nil => exact .refl _
    | cons n rest =>
      obtain ⟨node, hnode, hready⟩ := h.exists_ready (List.cons_ne_nil n rest) hfrom
      exact absurd hready (List.find?_eq_none.1 hnone node hnode)
  | step edges pending node order hsome ih =>
    have hmem : node ∈ pending := List.mem_of_find?_eq_some hsome
    have hrest : order.Perm (pending.erase node) := by
      refine ih (h.serve node) fun e he => ?_
      obtain ⟨hedge, hne⟩ := mem_serve.1 he
      exact (List.mem_erase_of_ne hne).2 (hfrom e hedge)
    exact (hrest.cons node).trans (List.perm_cons_erase hmem).symm

/-- Edges without a cycle have a least-first order. -/
theorem exists_leastFirst? {count : Nat} (h : Acyclic edges)
    (hrange : ∀ e ∈ edges, e.1 < count ∧ e.2 < count) : ∃ order, leastFirst? count edges = some order := by
  have hperm : (place edges (List.range count)).Perm (List.range count) :=
    h.perm_place fun e he => List.mem_range.2 (hrange e he).1
  have hlength : (place edges (List.range count)).length = count := by
    rw [hperm.length_eq, List.length_range]
  exact ⟨_, leastFirst?_eq_some (fun e he => (hrange e he).2) rfl hlength⟩

end Acyclic

/-- Edges that have a least-first order form no cycle. -/
theorem acyclic_of_leastFirst? {count : Nat} {edges : List Edge} {order : List Nat}
    (h : leastFirst? count edges = some order) (hto : ∀ e ∈ edges, e.2 < count) : Acyclic edges := by
  have hforward : ∀ a b, Path edges a b → order.idxOf a < order.idxOf b := by
    intro a b hpath
    induction hpath with
    | single hedge => exact idxOf_lt_of_leastFirst? h hedge (hto _ hedge)
    | tail _ hedge ih => exact Nat.lt_trans ih (idxOf_lt_of_leastFirst? h hedge (hto _ hedge))
  intro node hpath
  exact Nat.lt_irrefl _ (hforward node node hpath)

/-! ### Edges that lead forwards -/

/-- Where all edges lead from smaller to greater nodes, ascending nodes stay as they are. -/
theorem place_eq_self {edges : List Edge} {pending : List Nat} (hsorted : pending.Pairwise (· < ·))
    (h : ∀ e ∈ edges, e.1 ∈ pending ∧ e.1 < e.2) : place edges pending = pending := by
  induction pending generalizing edges with
  | nil => exact place_of_find?_eq_none rfl
  | cons node rest ih =>
    obtain ⟨hleast, hrest⟩ := List.pairwise_cons.1 hsorted
    have hready : isReady edges node = true := by
      refine isReady_eq_true_iff.2 fun a hedge => ?_
      obtain ⟨hmem, hlt⟩ := h _ hedge
      rcases List.mem_cons.1 hmem with heq | hmem
      · exact Nat.lt_irrefl _ (heq ▸ hlt)
      · exact Nat.lt_asymm (hleast a hmem) hlt
    rw [place_of_find?_eq_some (List.find?_cons_of_pos hready), List.erase_cons_head,
      ih hrest fun e he => ?_]
    obtain ⟨hedge, hne⟩ := mem_serve.1 he
    obtain ⟨hmem, hlt⟩ := h e hedge
    exact ⟨(List.mem_cons.1 hmem).resolve_left hne, hlt⟩

theorem leastFirst?_eq_range {count : Nat} {edges : List Edge}
    (h : ∀ e ∈ edges, e.1 < e.2 ∧ e.2 < count) :
    leastFirst? count edges = some (List.range count) := by
  refine leastFirst?_eq_some (fun e he => (h e he).2) ?_ List.length_range
  refine place_eq_self List.pairwise_lt_range fun e he => ?_
  obtain ⟨hlt, hcount⟩ := h e he
  exact ⟨List.mem_range.2 (Nat.lt_trans hlt hcount), hlt⟩

end FixturePlan.Order
