import FixturePlan.Number.Binary64
import FixturePlan.Source.Cell

/-!
# Storage order

The order in which a database keeps values: NULL first, then numbers by value, whether whole or not,
then text, and blobs last. Numbers are compared exactly, a whole number with a float as well, so that no
rounding makes two of them equal.
-/

namespace FixturePlan

namespace Cell

/-- The classes of values in ascending order. -/
def storageClass : Cell → Nat
  | .null => 0
  | .integer _ | .real _ | .boolean _ => 1
  | .text _ => 2
  | .blob _ => 3

def number? : Cell → Option Number.Binary64
  | .integer n => some (.ofInt n)
  | .real x => some (.ofFloat x)
  | .boolean b => some (.ofInt (if b then 1 else 0))
  | _ => none

/-- Lists in order of their first difference, a part before the whole. -/
def compareLists {α : Type} (compare : α → α → Ordering) : List α → List α → Ordering
  | [], [] => .eq
  | [], _ :: _ => .lt
  | _ :: _, [] => .gt
  | a :: as, b :: bs => (compare a b).then (compareLists compare as bs)

def storageOrder (a b : Cell) : Ordering :=
  match a, b with
  -- the order of code points is the order of the bytes in UTF-8
  | .text s, .text t => compareLists (fun c d => compare c.toNat d.toNat) s.toList t.toList
  | .blob s, .blob t => compareLists (fun c d => compare c.toNat d.toNat) s t
  | _, _ =>
    match a.number?, b.number? with
    | some x, some y => x.order y
    | _, _ => compare a.storageClass b.storageClass

end Cell

end FixturePlan
