import FixturePlan.Proofs.Order.Counting

/-!
# Laws of the least-first order

`place` puts some of the pending nodes into an order in which no edge leads backwards
(`mem_of_place_eq_append`). If `leastFirst?` finds an order, that order has all nodes, each once
(`perm_of_leastFirst?`), and both ends of every edge in the right order.
-/

namespace FixturePlan.Order

/-- To prove something about what `place` gives, follow its steps: either no pending node is ready,
or the first ready one is placed and the rest follows. -/
theorem place_induction {motive : List Edge → List Nat → List Nat → Prop}
    (stop : ∀ edges pending, pending.find? (isReady edges) = none → motive edges pending [])
    (step : ∀ edges pending node order, pending.find? (isReady edges) = some node →
      motive (serve edges node) (pending.erase node) order → motive edges pending (node :: order))
    (edges : List Edge) (pending : List Nat) : motive edges pending (place edges pending) := by
  induction hn : pending.length using Nat.strongRecOn generalizing edges pending with
  | ind n ih =>
    cases h : pending.find? (isReady edges) with
    | none => rw [place_of_find?_eq_none h]; exact stop edges pending h
    | some node =>
      rw [place_of_find?_eq_some h]
      have hlt : (pending.erase node).length < n := hn ▸ length_erase_lt h
      exact step edges pending node _ h (ih _ hlt _ _ rfl)

/-- The placed nodes together with some others are the pending ones. -/
theorem exists_perm_place (edges : List Edge) (pending : List Nat) :
    ∃ others, (place edges pending ++ others).Perm pending := by
  induction edges, pending using place_induction with
  | stop edges pending h => exact ⟨pending, .refl _⟩
  | step edges pending node order h ih =>
    obtain ⟨others, hperm⟩ := ih
    have hmem : node ∈ pending := List.mem_of_find?_eq_some h
    exact ⟨others, (hperm.cons node).trans (List.perm_cons_erase hmem).symm⟩

/-- Where an edge leads to a placed node, it comes from a node placed before. -/
theorem mem_of_place_eq_append (edges : List Edge) (pending : List Nat) :
    ∀ before b after, place edges pending = before ++ b :: after →
      ∀ a, (a, b) ∈ edges → a ∈ before := by
  induction edges, pending using place_induction with
  | stop edges pending h =>
    intro before b after hplace
    simp at hplace
  | step edges pending node order h ih =>
    intro before b after hplace a hedge
    have hready : isReady edges node = true := List.find?_some h
    cases before with
    | nil =>
      obtain ⟨rfl, -⟩ := List.cons.inj hplace
      exact absurd hedge (isReady_eq_true_iff.1 hready a)
    | cons first before =>
      obtain ⟨rfl, hrest⟩ := List.cons.inj hplace
      by_cases ha : a = node
      · exact ha ▸ List.mem_cons_self
      · have hserved : (a, b) ∈ serve edges node := mem_serve.2 ⟨hedge, ha⟩
        exact List.mem_cons_of_mem _ (ih before b after hrest a hserved)

/-- How often an edge is listed, and where, makes no difference. -/
theorem place_congr {edges edges' : List Edge} (h : ∀ e, e ∈ edges ↔ e ∈ edges')
    (pending : List Nat) : place edges pending = place edges' pending := by
  have hready : ∀ {edges edges' : List Edge}, (∀ e, e ∈ edges ↔ e ∈ edges') →
      isReady edges = isReady edges' := by
    intro edges edges' h
    funext node
    rw [Bool.eq_iff_iff, isReady_eq_true_iff, isReady_eq_true_iff]
    simp only [h]
  induction edges, pending using place_induction generalizing edges' with
  | stop edges pending hnone =>
    rw [hready h] at hnone
    exact (place_of_find?_eq_none hnone).symm
  | step edges pending node order hsome ih =>
    rw [hready h] at hsome
    rw [place_of_find?_eq_some hsome]
    congr 1
    apply ih
    intro e
    rw [mem_serve, mem_serve, h]

section LeastFirst

variable {count : Nat} {edges : List Edge} {order : List Nat}

theorem eq_place_of_leastFirst? (h : leastFirst? count edges = some order) :
    order = place edges (List.range count) ∧ order.length = count := by
  obtain ⟨hplaced, hlength⟩ := Option.filter_eq_some_iff.1 h
  exact ⟨eq_place_of_placeReady hplaced, beq_iff_eq.1 hlength⟩

theorem leastFirst?_eq_some (hto : ∀ e ∈ edges, e.2 < count)
    (horder : place edges (List.range count) = order) (hlength : order.length = count) :
    leastFirst? count edges = some order := by
  rw [leastFirst?, placeReady_eq_place hto, horder, Option.filter_some, beq_iff_eq.2 hlength, if_pos rfl]

/-- A least-first order has all nodes, each once. -/
theorem perm_of_leastFirst? (h : leastFirst? count edges = some order) :
    order.Perm (List.range count) := by
  obtain ⟨rfl, hlength⟩ := eq_place_of_leastFirst? h
  obtain ⟨others, hperm⟩ := exists_perm_place edges (List.range count)
  have hsum : (place edges (List.range count)).length + others.length = count := by
    rw [← List.length_append, hperm.length_eq, List.length_range]
  have hothers : others = [] := List.eq_nil_of_length_eq_zero (by omega)
  rwa [hothers, List.append_nil] at hperm

/-- In a least-first order no edge leads backwards. -/
theorem mem_of_leastFirst?_eq_append (h : leastFirst? count edges = some order)
    {before after : List Nat} {a b : Nat} (horder : order = before ++ b :: after)
    (hedge : (a, b) ∈ edges) : a ∈ before :=
  mem_of_place_eq_append edges (List.range count) before b after
    ((eq_place_of_leastFirst? h).1 ▸ horder) a hedge

/-- In a least-first order a node stands behind those that edges lead from to it. -/
theorem idxOf_lt_of_leastFirst? (h : leastFirst? count edges = some order) {a b : Nat}
    (hedge : (a, b) ∈ edges) (hb : b < count) : order.idxOf a < order.idxOf b := by
  have hperm := perm_of_leastFirst? h
  have hnodup : order.Nodup := hperm.nodup_iff.2 List.nodup_range
  obtain ⟨before, after, rfl⟩ := List.append_of_mem (hperm.mem_iff.2 (List.mem_range.2 hb))
  have ha : a ∈ before := mem_of_leastFirst?_eq_append h rfl hedge
  have hnew : b ∉ before := fun hmem =>
    (List.nodup_append.1 hnodup).2.2 b hmem b List.mem_cons_self rfl
  rw [List.idxOf_append, if_pos ha, List.idxOf_append, if_neg hnew, List.idxOf_cons_self, Nat.zero_add]
  exact List.idxOf_lt_length_of_mem ha

/-- How often an edge is listed, and where, makes no difference. -/
theorem leastFirst?_congr {edges' : List Edge} (h : ∀ e, e ∈ edges ↔ e ∈ edges')
    (hto : ∀ e ∈ edges, e.2 < count) : leastFirst? count edges = leastFirst? count edges' := by
  have hto' : ∀ e ∈ edges', e.2 < count := fun e he => hto e ((h e).2 he)
  rw [leastFirst?, leastFirst?, placeReady_eq_place hto, placeReady_eq_place hto', place_congr h]

end LeastFirst

/-! ### Evaluation

`place` is defined by recursion on the number of pending nodes, which cannot be evaluated in a proof. -/

/-- `place` by recursion on a bound for the number of pending nodes. -/
def placeUpTo : (bound : Nat) → List Edge → List Nat → List Nat
  | 0, _, _ => []
  | bound + 1, edges, pending =>
    match pending.find? (isReady edges) with
    | none => []
    | some node => node :: placeUpTo bound (serve edges node) (pending.erase node)

theorem place_eq_placeUpTo {bound : Nat} {edges : List Edge} {pending : List Nat}
    (h : pending.length ≤ bound) : place edges pending = placeUpTo bound edges pending := by
  induction bound generalizing edges pending with
  | zero =>
    obtain rfl := List.eq_nil_of_length_eq_zero (Nat.le_zero.1 h)
    exact place_of_find?_eq_none rfl
  | succ bound ih =>
    rw [placeUpTo]
    cases hfind : pending.find? (isReady edges) with
    | none => exact place_of_find?_eq_none hfind
    | some node =>
      have hlt := length_erase_lt hfind
      rw [place_of_find?_eq_some hfind, ih (by omega)]

theorem leastFirst?_eq_some_of_placeUpTo {count : Nat} {edges : List Edge} {order : List Nat}
    (hto : ∀ e ∈ edges, e.2 < count) (horder : placeUpTo count edges (List.range count) = order)
    (hlength : order.length = count) : leastFirst? count edges = some order := by
  refine leastFirst?_eq_some hto ?_ hlength
  rw [place_eq_placeUpTo (Nat.le_of_eq List.length_range), horder]

end FixturePlan.Order
