import FixturePlan.Text.Ranges

/-!
# Sets of characters

A set of characters as a list of closed intervals of code points, with the operations that patterns
use. `CharSet.normal` brings the intervals into ascending order and joins those that meet, after which
the gaps between them are the complement.
-/

namespace FixturePlan.Text

/-- A set of characters, as closed intervals `(first, last)` of code points. -/
structure CharSet where
  ranges : List (Nat × Nat)
  deriving Repr, DecidableEq

namespace CharSet

def empty : CharSet := ⟨[]⟩

def single (c : Char) : CharSet := ⟨[(c.toNat, c.toNat)]⟩

def interval (first last : Char) : CharSet := ⟨[(first.toNat, last.toNat)]⟩

def contains (s : CharSet) (c : Char) : Bool := inRanges s.ranges c

/-! ### Normal form -/

/-- Join intervals in ascending order that overlap or follow one another without a gap, the first of
them being `(first, last)`. -/
def join (first last : Nat) : List (Nat × Nat) → List (Nat × Nat)
  | [] => [(first, last)]
  | (first', last') :: rest =>
    if first' ≤ last + 1 then join first (max last last') rest
    else (first, last) :: join first' last' rest

/-- The same set with its intervals in ascending order and apart from one another. -/
def normal (s : CharSet) : CharSet :=
  match s.ranges.mergeSort fun a b => a.1 ≤ b.1 with
  | [] => empty
  | (first, last) :: rest => ⟨join first last rest⟩

/-! ### Operations -/

def union (s t : CharSet) : CharSet := normal ⟨s.ranges ++ t.ranges⟩

/-- The intervals between the given ones, from `next` on up to the last code point. -/
def gaps (next : Nat) : List (Nat × Nat) → List (Nat × Nat)
  | [] => if next ≤ 0x10FFFF then [(next, 0x10FFFF)] else []
  | (first, last) :: rest =>
    if next < first then (next, first - 1) :: gaps (last + 1) rest else gaps (last + 1) rest

/-- The characters outside a set. Surrogates are no characters, so they are outside of no set. -/
def complement (s : CharSet) : CharSet :=
  ⟨gaps 0 (normal ⟨(0xD800, 0xDFFF) :: s.ranges⟩).ranges⟩

def inter (s t : CharSet) : CharSet := complement (union s.complement t.complement)

def diff (s t : CharSet) : CharSet := inter s t.complement

/-- The characters of just one of two sets. -/
def symmDiff (s t : CharSet) : CharSet := union (diff s t) (diff t s)

def all : CharSet := complement empty

def ascii : CharSet := ⟨[(0, 127)]⟩

end CharSet

end FixturePlan.Text
