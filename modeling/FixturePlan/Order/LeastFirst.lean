/-!
# Least-first order

Put numbered nodes in an order in which every node comes after the nodes it needs, and among the
nodes that could come next always the least. The needs are edges `(before, after)`.

Each node has a counter for the edges that lead to it from nodes that have not been placed, and the nodes
whose counters are at zero are ready. To place a node takes one from the counter at the end of each of its
edges. If the edges form a cycle, the nodes on it and behind it never become ready and are left out.
-/

namespace FixturePlan.Order

/-! ### Edges -/

/-- An edge from a node to one that has to come after it. -/
abbrev Edge := Nat × Nat

/-- The nodes that edges lead to from a node, by the latest edge first. -/
def successors (edges : List Edge) (node : Nat) : List Nat :=
  ((edges.filter (·.1 == node)).map (·.2)).reverse

def incoming (edges : List Edge) (node : Nat) : Nat := edges.countP (·.2 == node)

/-- Put a node among ascending nodes, unless it is there. -/
def insertNode (node : Nat) : List Nat → List Nat
  | [] => [node]
  | first :: rest =>
    if node < first then node :: first :: rest
    else if node = first then first :: rest
    else first :: insertNode node rest

/-! ### Counters -/

/-- How far the placing of nodes has come. -/
structure Counting where
  waiting : Array Nat
  /-- The nodes that wait for none and have not been placed, in ascending order. -/
  ready : List Nat

namespace Counting

def start (count : Nat) (edges : List Edge) : Counting where
  waiting := ((List.range count).map (incoming edges)).toArray
  ready := (List.range count).filter (incoming edges · == 0)

/-- Take one from the counter of a node. There is no result if the node has no counter, or if the counter
is at zero already. -/
def release (c : Counting) (node : Nat) : Option Counting :=
  match c.waiting[node]? with
  | none | some 0 => none
  -- nothing else to wait for
  | some 1 => some ⟨c.waiting.setIfInBounds node 0, insertNode node c.ready⟩
  | some (n + 2) => some { c with waiting := c.waiting.setIfInBounds node (n + 1) }

def releaseAll (c : Counting) (nodes : List Nat) : Option Counting := nodes.foldlM release c

/-! ### Why placing ends

A node gets ready only when its counter gets down to zero. So counters and ready nodes together are no
more after a release than before, and one less once a ready node has been taken out. -/

def left (c : Counting) : Nat := c.waiting.toList.foldr (· + ·) 0 + c.ready.length

theorem foldr_set {counters : List Nat} {node n : Nat} (h : counters[node]? = some (n + 1)) :
    (counters.set node n).foldr (· + ·) 0 + 1 = counters.foldr (· + ·) 0 := by
  induction counters generalizing node with
  | nil => cases h
  | cons first rest ih =>
    cases node with
    | zero =>
      obtain rfl := Option.some.inj h
      rw [List.set_cons_zero, List.foldr_cons, List.foldr_cons]
      omega
    | succ node =>
      have hrest : (rest.set node n).foldr (· + ·) 0 + 1 = rest.foldr (· + ·) 0 := ih h
      rw [List.set_cons_succ, List.foldr_cons, List.foldr_cons]
      omega

theorem length_insertNode_le (node : Nat) (nodes : List Nat) :
    (insertNode node nodes).length ≤ nodes.length + 1 := by
  induction nodes with
  | nil => exact Nat.le_refl _
  | cons first rest ih =>
    rw [insertNode]
    split
    · exact Nat.le_refl _
    · split
      · exact Nat.le_succ _
      · exact Nat.succ_le_succ ih

theorem left_release_le {c c' : Counting} {node : Nat} (h : c.release node = some c') :
    c'.left ≤ c.left := by
  rw [release] at h
  split at h
  · cases h
  · cases h
  · next hone =>
    obtain rfl := Option.some.inj h
    have hsum := foldr_set (Array.getElem?_toList.trans hone)
    have hready := length_insertNode_le node c.ready
    rw [left, left, Array.toList_setIfInBounds]
    simp only at hready ⊢
    omega
  · next n hmore =>
    obtain rfl := Option.some.inj h
    have hsum := foldr_set (Array.getElem?_toList.trans hmore)
    rw [left, left, Array.toList_setIfInBounds]
    simp only
    omega

theorem left_releaseAll_le {c c' : Counting} {nodes : List Nat} (h : c.releaseAll nodes = some c') :
    c'.left ≤ c.left := by
  induction nodes generalizing c with
  | nil =>
    obtain rfl := Option.some.inj h
    exact Nat.le_refl _
  | cons node rest ih =>
    obtain ⟨c₁, hone, hrest⟩ := Option.bind_eq_some_iff.1 h
    exact Nat.le_trans (ih hrest) (left_release_le hone)

end Counting

/-! ### Placing -/

/-- Place nodes, at each step the least that is ready, until there is none. -/
def placeReady (edges : List Edge) (c : Counting) : Option (List Nat) :=
  match _hready : c.ready with
  | [] => some []
  | node :: rest =>
    match _hreleased : ({ c with ready := rest } : Counting).releaseAll (successors edges node) with
    | none => none
    | some c' => (placeReady edges c').map (node :: ·)
termination_by c.left
decreasing_by
  have hle := Counting.left_releaseAll_le _hreleased
  rw [Counting.left, Counting.left, _hready, List.length_cons] at *
  simp only at hle
  omega

/-- The nodes below `count` in least-first order, if all can be placed. -/
def leastFirst? (count : Nat) (edges : List Edge) : Option (List Nat) :=
  (placeReady edges (.start count edges)).filter (·.length == count)

end FixturePlan.Order
