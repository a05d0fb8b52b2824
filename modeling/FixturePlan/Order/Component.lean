import FixturePlan.Order.LeastFirst
import Std.Data.HashSet

/-!
# Cycles

The strongly connected components of a graph of numbered nodes: the sets of nodes each of which can be
reached from each other. A component is cyclic if it has several nodes or an edge from its node to
itself.

Components are named in the order in which a depth-first walk leaves them for good. The walk starts
from the nodes in turn and follows the edges out of a node from the latest to the earliest.
-/

namespace FixturePlan.Order

/-! ### Walking

A walk is depth first. It notes nodes both when it enters them and when it leaves them: the former keeps
it from entering a node again, the latter gives the order of components. -/

def successorTable (count : Nat) (edges : List Edge) : Array (List Nat) :=
  .ofFn fun node : Fin count => successors edges node

/-- How far a walk has come. -/
structure Walk where
  entered : Std.HashSet Nat
  left : List Nat

/-- Walk on from a node, unless it has been entered before. `fuel` bounds the depth of the walk. -/
def walkFrom (table : Array (List Nat)) : (fuel : Nat) → Walk → Nat → Walk
  | 0, w, _ => w
  | fuel + 1, w, node =>
    if w.entered.contains node then w
    else
      -- entered before its successors, so that a way back to it goes no further
      let w' := (table[node]?.getD []).foldl (walkFrom table fuel)
        { w with entered := w.entered.insert node }
      { w' with left := node :: w'.left }

/-- Walk from some nodes in turn. Each step down enters a new node, so the walk is never deeper than
there are nodes. -/
def walk (table : Array (List Nat)) (starts : List Nat) : Walk :=
  starts.foldl (walkFrom table (table.size + 1)) ⟨∅, []⟩

/-! ### Components

A node belongs to the component of another if a walk from that one enters it and a walk against the edges
does as well. -/

/-- The component of a node: the nodes that it leads to and that lead to it. -/
def component (forward backward : Array (List Nat)) (node : Nat) : List Nat :=
  let reaching := (walk backward [node]).entered
  (walk forward [node]).left.filter reaching.contains

def collectComponents (forward backward : Array (List Nat)) (found : List (List Nat)) :
    List Nat → List (List Nat)
  | [] => found
  | node :: rest =>
    if found.any (·.contains node) then collectComponents forward backward found rest
    else collectComponents forward backward (component forward backward node :: found) rest

/-- The components of a graph in the order in which a walk through all nodes leaves them for good. The
node that is left last of all belongs to the last of them, and so on backwards. -/
def components (count : Nat) (edges : List Edge) : List (List Nat) :=
  let forward := successorTable count edges
  let backward := successorTable count (edges.map Prod.swap)
  collectComponents forward backward [] (walk forward (List.range count)).left

/-! ### Cycles

The order of entities does not depend on how components are found, so that the search is left open. -/

/-- A way to find the components of a graph of so many nodes. -/
abbrev ComponentSearch : Type := (count : Nat) → (edges : List Edge) → List (List Nat)

/-- Whether the nodes of a component lie on cycles. -/
def isCyclic (edges : List Edge) (component : List Nat) : Bool :=
  component.length > 1 || component.any fun node => edges.contains (node, node)

/-- The members of the first cyclic component that a search finds, in ascending order; none if there is
no cycle. -/
def cycleBy (search : ComponentSearch) (count : Nat) (edges : List Edge) : List Nat :=
  (((search count edges).find? (isCyclic edges)).getD []).mergeSort fun a b => a ≤ b

end FixturePlan.Order
