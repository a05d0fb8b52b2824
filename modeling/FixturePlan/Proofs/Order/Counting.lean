import FixturePlan.Order.LeastFirst

/-!
# What the counters count

While nodes are placed, the counter of a node says how many edges still lead to it, and a pending node is
ready when there is none (`Counting.Counts`). So the counters can be forgotten: at each step the first
pending node is placed that no remaining edge leads to (`place`). If all edges lead to nodes that have
counters, no counter is ever taken below zero (`placeReady_eq_place`).
-/

namespace FixturePlan.Order

variable {edges : List Edge} {pending : List Nat} {node : Nat}

/-! ### Remaining edges

The sort in its simplest form, by a search in the edges that remain, and how many of them lead to a node.
-/

/-- Whether no edge leads to a node. -/
def isReady (edges : List Edge) (node : Nat) : Bool := !edges.any (·.2 == node)

/-- The edges that remain when a node has been placed. -/
def serve (edges : List Edge) (node : Nat) : List Edge := edges.filter (·.1 != node)

theorem isReady_eq_true_iff : isReady edges node = true ↔ ∀ a, (a, node) ∉ edges := by
  simp only [isReady, Bool.not_eq_true', List.any_eq_false, beq_iff_eq]
  constructor
  · intro h a ha
    exact h (a, node) ha rfl
  · rintro h ⟨a, b⟩ hab rfl
    exact h a hab

theorem mem_serve {e : Edge} : e ∈ serve edges node ↔ e ∈ edges ∧ e.1 ≠ node := by
  simp [serve]

theorem isReady_iff_incoming : isReady edges node = true ↔ incoming edges node = 0 := by
  rw [isReady, Bool.not_eq_true', List.any_eq_false, incoming, List.countP_eq_zero]

theorem length_erase_lt {p : Nat → Bool} (h : pending.find? p = some node) :
    (pending.erase node).length < pending.length := by
  have hmem : node ∈ pending := List.mem_of_find?_eq_some h
  have hpos : 0 < pending.length := List.length_pos_of_mem hmem
  rw [List.length_erase_of_mem hmem]
  omega

/-- Place pending nodes, at each step the first that no edge leads to, until there is none. -/
def place (edges : List Edge) (pending : List Nat) : List Nat :=
  match _h : pending.find? (isReady edges) with
  | none => []
  | some node => node :: place (serve edges node) (pending.erase node)
termination_by pending.length
decreasing_by exact length_erase_lt _h

theorem place_of_find?_eq_none (h : pending.find? (isReady edges) = none) :
    place edges pending = [] := by
  rw [place]
  split
  · rfl
  · next heq => rw [h] at heq; cases heq

theorem place_of_find?_eq_some (h : pending.find? (isReady edges) = some node) :
    place edges pending = node :: place (serve edges node) (pending.erase node) := by
  rw [place]
  split
  · next heq => rw [h] at heq; cases heq
  · next heq => rw [h] at heq; cases heq; rfl

/-- Of ascending nodes, the first ready one is the least ready one. -/
theorem le_of_find?_isReady {first : Nat} (hsorted : pending.Pairwise (· < ·))
    (hfind : pending.find? (isReady edges) = some node) (hmem : first ∈ pending)
    (hready : isReady edges first = true) : node ≤ first := by
  obtain ⟨-, earlier, later, rfl, hearlier⟩ := List.find?_eq_some_iff_append.1 hfind
  rcases List.mem_append.1 hmem with hmem | hmem
  · have hnot := hearlier first hmem
    simp [hready] at hnot
  · rcases List.mem_cons.1 hmem with rfl | hmem
    · exact Nat.le_refl _
    · have hlater := (List.pairwise_cons.1 (List.pairwise_append.1 hsorted).2.1).1
      exact Nat.le_of_lt (hlater first hmem)

/-! ### Releases

A release takes one edge from the count of a node. Where `shown` is what the counters will be, the node
still has one more beforehand. -/

theorem mem_insertNode {other : Nat} {nodes : List Nat} :
    other ∈ insertNode node nodes ↔ other = node ∨ other ∈ nodes := by
  induction nodes with
  | nil => simp [insertNode]
  | cons first rest ih =>
    rw [insertNode]
    split
    · exact List.mem_cons
    · split
      · next heq => simp [heq]
      · rw [List.mem_cons, ih, List.mem_cons, or_left_comm]

theorem pairwise_insertNode {nodes : List Nat} (h : nodes.Pairwise (· < ·)) :
    (insertNode node nodes).Pairwise (· < ·) := by
  induction nodes with
  | nil => exact List.pairwise_singleton _ _
  | cons first rest ih =>
    obtain ⟨hfirst, hrest⟩ := List.pairwise_cons.1 h
    rw [insertNode]
    split
    · next hlt =>
      refine List.pairwise_cons.2 ⟨fun other hother => ?_, h⟩
      rcases List.mem_cons.1 hother with rfl | hother
      · exact hlt
      · exact Nat.lt_trans hlt (hfirst other hother)
    · split
      · exact h
      · refine List.pairwise_cons.2 ⟨fun other hother => ?_, ih hrest⟩
        rcases mem_insertNode.1 hother with rfl | hother
        · omega
        · exact hfirst other hother

namespace Counting

variable {c c' : Counting} {nodes : List Nat} {count : Nat}

/-- What the counters of the nodes below `count` are, and that the ready nodes ascend. -/
structure Shows (c : Counting) (count : Nat) (shown : Nat → Nat) : Prop where
  size_eq : c.waiting.size = count
  waiting_eq : ∀ node < count, c.waiting[node]? = some (shown node)
  ascending : c.ready.Pairwise (· < ·)

/-- What one release does. It is refused to nodes that have no counter. -/
theorem release_cases {shown : Nat → Nat}
    (h : c.Shows count fun n => shown n + if n = node then 1 else 0) :
    (count ≤ node ∧ c.release node = none) ∨
      node < count ∧ ∃ c', c.release node = some c' ∧ c'.Shows count shown ∧
        ∀ n, n ∈ c'.ready ↔ n ∈ c.ready ∨ n = node ∧ shown node = 0 := by
  -- the counter of the node is at least one, since this edge is counted in it
  by_cases hnode : node < count
  · refine Or.inr ⟨hnode, ?_⟩
    have hcounter := h.waiting_eq node hnode
    simp only [if_true] at hcounter
    have hset : ∀ n < count,
        (c.waiting.setIfInBounds node (shown node))[n]? = some (shown n) := by
      intro n hn
      rw [Array.getElem?_setIfInBounds]
      by_cases heq : node = n
      · subst heq
        rw [if_pos rfl, if_pos (h.size_eq.symm ▸ hnode)]
      · rw [if_neg heq, h.waiting_eq n hn, if_neg (Ne.symm heq), Nat.add_zero]
    have hsize : (c.waiting.setIfInBounds node (shown node)).size = count :=
      Array.size_setIfInBounds.trans h.size_eq
    cases hshown : shown node with
    | zero =>
      rw [hshown] at hcounter hset hsize
      refine ⟨⟨c.waiting.setIfInBounds node 0, insertNode node c.ready⟩, ?_,
        ⟨hsize, hset, pairwise_insertNode h.ascending⟩, fun n => ?_⟩
      · rw [release, hcounter]
      · rw [mem_insertNode, or_comm]
        simp
    | succ rest =>
      rw [hshown] at hcounter hset hsize
      refine ⟨{ c with waiting := c.waiting.setIfInBounds node (rest + 1) }, ?_,
        ⟨hsize, hset, h.ascending⟩, fun n => ?_⟩
      · rw [release, hcounter]
      · simp
  -- a node past the end has no counter: here the indexing fails
  · left
    have hnone : c.waiting[node]? = none := by
      rw [Array.getElem?_eq_none_iff, h.size_eq]
      exact Nat.le_of_not_lt hnode
    exact ⟨Nat.le_of_not_lt hnode, by rw [release, hnone]⟩

/-- What the releases of some nodes do, among which a node can be several times. -/
theorem releaseAll_cases {shown : Nat → Nat} (h : c.Shows count fun n => shown n + nodes.count n) :
    ((∃ node ∈ nodes, count ≤ node) ∧ c.releaseAll nodes = none) ∨
      (∀ node ∈ nodes, node < count) ∧ ∃ c', c.releaseAll nodes = some c' ∧ c'.Shows count shown ∧
        ∀ n, n ∈ c'.ready ↔ n ∈ c.ready ∨ n ∈ nodes ∧ shown n = 0 := by
  induction nodes generalizing c with
  | nil => exact Or.inr ⟨nofun, c, rfl, h, by simp⟩
  | cons node rest ih =>
    have hfirst : c.Shows count fun n => (shown n + rest.count n) + if n = node then 1 else 0 := by
      refine ⟨h.size_eq, fun n hn => ?_, h.ascending⟩
      rw [h.waiting_eq n hn, List.count_cons, Nat.add_assoc]
      simp only [beq_iff_eq, eq_comm (a := node)]
    rcases release_cases hfirst with
      ⟨hlarge, hnone⟩ | ⟨hsmall, c₁, hone, hshows, hready⟩
    · refine Or.inl ⟨⟨node, List.mem_cons_self, hlarge⟩, ?_⟩
      rw [releaseAll, List.foldlM_cons, hnone]
      rfl
    · have hstep : c.releaseAll (node :: rest) = c₁.releaseAll rest := by
        rw [releaseAll, List.foldlM_cons, hone]
        rfl
      rw [hstep]
      rcases ih hshows with ⟨⟨n, hn, hlarge⟩, hnone⟩ | ⟨hsmalls, c', hall, hshows', hready'⟩
      · exact Or.inl ⟨⟨n, List.mem_cons_of_mem _ hn, hlarge⟩, hnone⟩
      · refine Or.inr ⟨List.forall_mem_cons.2 ⟨hsmall, hsmalls⟩, c', hall, hshows', fun n => ?_⟩
        rw [hready', hready, List.mem_cons]
        -- the last release of a node is the one that makes it ready
        have hcount : rest.count n = 0 ↔ n ∉ rest := List.count_eq_zero
        grind

/-! ### Steps

To place a node is to release the ends of its edges. They are the same edges whether they are looked up
among all or among those that remain, as none of them has been served. -/

/-- What holds at any time: the counters are those of the edges that remain of all, and the pending nodes
that none of these leads to are ready. -/
structure Counts (edges remaining : List Edge) (pending : List Nat) (count : Nat) (c : Counting) :
    Prop where
  shows : c.Shows count (incoming remaining)
  mem_ready : ∀ n, n ∈ c.ready ↔ n ∈ pending ∧ isReady remaining n = true
  pending_ascending : pending.Pairwise (· < ·)
  /-- Edges to nodes that have been placed are served. -/
  mem_pending : ∀ e ∈ remaining, e.2 < count → e.2 ∈ pending
  /-- No edge from a pending node has been served. -/
  remaining_of_pending : ∀ n ∈ pending, successors remaining n = successors edges n

theorem counts_start (count : Nat) (edges : List Edge) :
    (start count edges).Counts edges edges (List.range count) count where
  shows := by
    refine ⟨by simp [start], fun node hnode => ?_, List.pairwise_lt_range.filter _⟩
    simp [start, hnode]
  mem_ready n := by
    rw [start, List.mem_filter, isReady_iff_incoming, beq_iff_eq]
  pending_ascending := List.pairwise_lt_range
  mem_pending _ _ := List.mem_range.2
  remaining_of_pending _ _ := rfl

theorem count_successors (edges : List Edge) (node other : Nat) :
    (successors edges node).count other = (edges.filter (·.1 == node)).countP (·.2 == other) := by
  rw [successors, List.count_reverse, List.count, List.countP_map]
  rfl

/-- The edges to a node are those that a placed node serves, and those that remain. -/
theorem incoming_eq_add (edges : List Edge) (node other : Nat) :
    incoming edges other = incoming (serve edges node) other + (successors edges node).count other := by
  rw [count_successors, incoming, incoming, serve, Nat.add_comm]
  induction edges with
  | nil => rfl
  | cons e rest ih =>
    by_cases he : e.1 = node
    · have hserved : (e.1 != node) = false := by simp [he]
      rw [List.filter_cons_of_pos (by simpa using he), List.filter_cons_of_neg (by simp [he]),
        List.countP_cons, List.countP_cons, ih]
      omega
    · rw [List.filter_cons_of_neg (by simpa using he), List.filter_cons_of_pos (by simpa using he),
        List.countP_cons, List.countP_cons, ih]
      omega

theorem successors_serve {other : Nat} (hne : other ≠ node) :
    successors (serve edges node) other = successors edges other := by
  rw [successors, successors, serve, List.filter_filter]
  congr 2
  refine List.filter_congr fun e _ => ?_
  by_cases he : e.1 = other
  · simp [he, hne]
  · simp [he]

section Step

variable {remaining : List Edge} {rest : List Nat}

/-- The ready node that comes first is the pending node that `place` finds. -/
theorem Counts.find?_eq (h : c.Counts edges remaining pending count) (hready : c.ready = node :: rest) :
    pending.find? (isReady remaining) = some node := by
  have hmem := (h.mem_ready node).1 (hready ▸ List.mem_cons_self)
  cases hfind : pending.find? (isReady remaining) with
  | none => exact absurd hmem.2 (List.find?_eq_none.1 hfind node hmem.1)
  | some found =>
    have hfound := (h.mem_ready found).2 ⟨List.mem_of_find?_eq_some hfind, List.find?_some hfind⟩
    have hle := le_of_find?_isReady h.pending_ascending hfind hmem.1 hmem.2
    have hascending := h.shows.ascending
    rw [hready] at hfound hascending
    rcases List.mem_cons.1 hfound with rfl | hlater
    · rfl
    · have hlt := (List.pairwise_cons.1 hascending).1 found hlater
      omega

theorem Counts.ne_of_mem_remaining (h : c.Counts edges remaining pending count)
    (hready : c.ready = node :: rest) : ∀ e ∈ remaining, e.2 ≠ node := fun e he heq =>
  isReady_eq_true_iff.1 ((h.mem_ready node).1 (hready ▸ List.mem_cons_self)).2 e.1 (heq ▸ he)

/-- The edges of the node are gone from those that remain, and still counted until each is released. -/
theorem Counts.shows_serve (h : c.Counts edges remaining pending count)
    (hready : c.ready = node :: rest) :
    ({ c with ready := rest } : Counting).Shows count fun n =>
      incoming (serve remaining node) n + (successors remaining node).count n := by
  have hascending := h.shows.ascending
  rw [hready, List.pairwise_cons] at hascending
  refine ⟨h.shows.size_eq, fun n hn => ?_, hascending.2⟩
  rw [← incoming_eq_add]
  exact h.shows.waiting_eq n hn

/-- Ready without the node are the other ready nodes, and those to which its edges were the last. -/
theorem Counts.mem_ready_serve (h : c.Counts edges remaining pending count)
    (hready : c.ready = node :: rest) (hsmall : ∀ n ∈ successors remaining node, n < count) (n : Nat) :
    (n ∈ rest ∨ n ∈ successors remaining node ∧ incoming (serve remaining node) n = 0) ↔
      n ∈ pending.erase node ∧ isReady (serve remaining node) n = true := by
  have hnodup : pending.Nodup := h.pending_ascending.imp Nat.ne_of_lt
  have hascending := h.shows.ascending
  rw [hready, List.pairwise_cons] at hascending
  have hsplit := incoming_eq_add remaining node n
  rw [isReady_iff_incoming, hnodup.mem_erase_iff]
  constructor
  · rintro (hlater | ⟨hserved, hzero⟩)
    · obtain ⟨hmem, hzero⟩ := (h.mem_ready n).1 (hready ▸ List.mem_cons_of_mem node hlater)
      rw [isReady_iff_incoming] at hzero
      exact ⟨⟨Nat.ne_of_gt (hascending.1 n hlater), hmem⟩, by omega⟩
    · obtain ⟨e, he, rfl⟩ := List.mem_map.1 (List.mem_reverse.1 hserved)
      have hedge := (List.mem_filter.1 he).1
      exact ⟨⟨h.ne_of_mem_remaining hready e hedge, h.mem_pending e hedge (hsmall _ hserved)⟩, hzero⟩
  · rintro ⟨⟨hother, hmem⟩, hzero⟩
    by_cases hserved : n ∈ successors remaining node
    · exact Or.inr ⟨hserved, hzero⟩
    · rw [List.count_eq_zero.2 hserved, hzero] at hsplit
      have hn := (h.mem_ready n).2 ⟨hmem, isReady_iff_incoming.2 hsplit⟩
      rw [hready] at hn
      exact Or.inl ((List.mem_cons.1 hn).resolve_left hother)

/-- One step keeps what holds, unless an edge leads to no node. -/
theorem Counts.step (h : c.Counts edges remaining pending count) (hready : c.ready = node :: rest) :
    ((∃ e ∈ edges, count ≤ e.2) ∧
        ({ c with ready := rest } : Counting).releaseAll (successors edges node) = none) ∨
      ∃ c', ({ c with ready := rest } : Counting).releaseAll (successors edges node) = some c' ∧
        c'.Counts edges (serve remaining node) (pending.erase node) count := by
  have hpending := ((h.mem_ready node).1 (hready ▸ List.mem_cons_self)).1
  have hnodup : pending.Nodup := h.pending_ascending.imp Nat.ne_of_lt
  have hsame := h.remaining_of_pending node hpending
  rw [← hsame]
  -- either some edge leads out of range, or the counters count what remains
  rcases releaseAll_cases (h.shows_serve hready) with
    ⟨⟨n, hn, hlarge⟩, hnone⟩ | ⟨hsmall, c', hall, hshows, hafter⟩
  · obtain ⟨e, he, rfl⟩ := List.mem_map.1 (List.mem_reverse.1 (hsame ▸ hn))
    exact Or.inl ⟨⟨e, (List.mem_filter.1 he).1, hlarge⟩, hnone⟩
  · refine Or.inr ⟨c', hall, hshows, ?_, ?_, ?_, ?_⟩
    · intro n
      rw [hafter]
      exact h.mem_ready_serve hready hsmall n
    · exact h.pending_ascending.sublist List.erase_sublist
    · intro e he hlt
      have hedge := (mem_serve.1 he).1
      exact hnodup.mem_erase_iff.2 ⟨h.ne_of_mem_remaining hready e hedge, h.mem_pending e hedge hlt⟩
    · intro n hn
      obtain ⟨hother, hmem⟩ := hnodup.mem_erase_iff.1 hn
      rw [successors_serve hother, h.remaining_of_pending n hmem]

end Step

/-! ### All steps

By induction along the loop, which does what the search does. -/

/-- Nodes are placed as if the remaining edges were looked through at each step, unless an edge leads to
no node. -/
theorem Counts.placeReady_eq {remaining : List Edge} (h : c.Counts edges remaining pending count) :
    (∃ e ∈ edges, count ≤ e.2) ∧ placeReady edges c = none ∨
      placeReady edges c = some (place remaining pending) := by
  -- along the loop: `Counts` holds before every round
  fun_induction placeReady edges c generalizing remaining pending with
  | case1 c hready =>
    right
    rw [place_of_find?_eq_none]
    refine List.find?_eq_none.2 fun n hn hfree => ?_
    have hmem := (h.mem_ready n).2 ⟨hn, hfree⟩
    rw [hready] at hmem
    cases hmem
  | case2 c node rest hready hnone =>
    rcases h.step hready with ⟨hlarge, -⟩ | ⟨c', hsome, -⟩
    · exact Or.inl ⟨hlarge, rfl⟩
    · rw [hnone] at hsome
      cases hsome
  | case3 c node rest hready c' hsome ih =>
    rcases h.step hready with ⟨-, hnone⟩ | ⟨c'', hsome', hcounts⟩
    · rw [hnone] at hsome
      cases hsome
    · obtain rfl := Option.some.inj (hsome'.symm.trans hsome)
      rcases ih hcounts with ⟨hlarge, hnone⟩ | hplaced
      · exact Or.inl ⟨hlarge, by rw [hnone]; rfl⟩
      · right
        rw [hplaced, place_of_find?_eq_some (h.find?_eq hready)]
        rfl

end Counting

/-- If edges lead to nodes that have counters, no counter is ever taken below zero, and nodes are placed
as if the remaining edges were looked through at each step. -/
theorem placeReady_eq_place {count : Nat} (hto : ∀ e ∈ edges, e.2 < count) :
    placeReady edges (.start count edges) = some (place edges (List.range count)) := by
  rcases (Counting.counts_start count edges).placeReady_eq with ⟨⟨e, he, hlarge⟩, -⟩ | hplaced
  · exact absurd (hto e he) (Nat.not_lt_of_le hlarge)
  · exact hplaced

theorem eq_place_of_placeReady {count : Nat} {order : List Nat}
    (h : placeReady edges (.start count edges) = some order) : order = place edges (List.range count) := by
  rcases (Counting.counts_start count edges).placeReady_eq with ⟨-, hnone⟩ | hplaced
  · rw [h] at hnone
    cases hnone
  · exact Option.some.inj (h.symm.trans hplaced)

end FixturePlan.Order
