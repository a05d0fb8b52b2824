import FixturePlan.Proofs.Order.LeastFirst
import Mathlib.Data.List.Lex

/-!
# The least-first order is the least of all

Orders in which no edge leads backwards (`Forwards`) can be compared as words are in a dictionary. What
begins such an order is ready from the start, and `place` begins with the least node that is; behind a
common beginning the same holds of the edges that remain. So none of them comes before what `place`
gives (`place_le`).
-/

namespace FixturePlan.Order

variable {edges : List Edge} {pending order rest : List Nat} {node first : Nat}

/-- No edge leads backwards in an order: the node that it comes from stands before the one that it
leads to. -/
def Forwards (edges : List Edge) (order : List Nat) : Prop :=
  ∀ before b after, order = before ++ b :: after → ∀ a, (a, b) ∈ edges → a ∈ before

namespace Forwards

theorem isReady (h : Forwards edges (first :: rest)) : isReady edges first = true := by
  refine isReady_eq_true_iff.2 fun a hedge => ?_
  exact List.not_mem_nil (h [] first rest rfl a hedge)

theorem tail (h : Forwards edges (first :: rest)) : Forwards (serve edges first) rest := by
  intro before b after hrest a hedge
  obtain ⟨hedge, hne⟩ := mem_serve.1 hedge
  have hmem := h (first :: before) b after (congrArg (first :: ·) hrest) a hedge
  exact (List.mem_cons.1 hmem).resolve_left hne

end Forwards

/-- No order of ascending nodes in which all edges lead forwards comes before that of `place`. -/
theorem place_le (hsorted : pending.Pairwise (· < ·)) (hperm : order.Perm pending)
    (hforwards : Forwards edges order) : place edges pending ≤ order := by
  induction edges, pending using place_induction generalizing order with
  | stop edges pending hnone => exact le_of_not_gt (List.not_lt_nil order)
  | step edges pending node placed hfind ih =>
    have hmem : node ∈ pending := List.mem_of_find?_eq_some hfind
    cases order with
    | nil => exact absurd (hperm.mem_iff.2 hmem) List.not_mem_nil
    | cons first rest =>
      have hle : node ≤ first := le_of_find?_isReady hsorted hfind
        (hperm.mem_iff.1 List.mem_cons_self) hforwards.isReady
      rcases Nat.lt_or_eq_of_le hle with hlt | rfl
      · exact le_of_lt (List.Lex.rel hlt)
      · -- both begin with the same node, and the rest has the edges that this node does not serve
        apply List.cons_le_cons
        apply ih (hsorted.sublist List.erase_sublist)
        · exact (List.cons_perm_iff_perm_erase.1 hperm).2
        · exact hforwards.tail

end FixturePlan.Order
