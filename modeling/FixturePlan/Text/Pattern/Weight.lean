import FixturePlan.Text.Pattern
import Std.Data.HashMap

/-!
# The weight of patterns

A pattern stands for two automata over bytes: one that reads forward, to find where a match ends, and
one that reads backward, to find where it starts. Their weight is the room that they take: 32 bytes a
state, 8 a transition between ranges of bytes where a state has several, and 4 for each way on from a
state that chooses between others. Only the forward automaton keeps groups. Counted repetitions are
written out, so that a short pattern may weigh much. Patterns of which an automaton is heavier than ten
mebibytes are refused.

A set of characters beyond ASCII is spelled out in UTF-8: it becomes sequences of ranges of bytes.
Forward, sequences share the states of a common beginning and of a common end; backward, only those of
the bytes that come first. A choice between texts becomes a tree with their common beginnings.
-/

namespace FixturePlan.Text

/-! ### Sequences of bytes -/

abbrev ByteRange := Nat × Nat

/-- The sequences for the numbers from `first` to `last` in `width` digits of six bits each. -/
def continuations : (width : Nat) → (first last : Nat) → List (List ByteRange)
  | 0, _, _ => [[]]
  | width + 1, first, last => digitwise width 0x80 first last (continuations width)
where
  /-- The sequences for the numbers from `first` to `last`, whose leading digit counts from the byte
  `base` on and is followed by `width` digits of six bits. Blocks of the leading digit that are not
  complete stand apart. -/
  digitwise (width base first last : Nat) (below : Nat → Nat → List (List ByteRange)) :
      List (List ByteRange) :=
    let unit := Nat.pow 64 width
    let low := first / unit
    let high := last / unit
    let led (a b : Nat) (tails : List (List ByteRange)) := tails.map ((base + a, base + b) :: ·)
    if low == high then led low low (below (first % unit) (last % unit))
    else
      let headCut := first % unit != 0
      let tailCut := last % unit != unit - 1
      let low' := if headCut then low + 1 else low
      let high' := if tailCut then high else high + 1
      (if headCut then led low low (below (first % unit) (unit - 1)) else []) ++
        (if low' < high' then led low' (high' - 1) (below 0 (unit - 1)) else []) ++
        (if tailCut then led high high (below 0 (last % unit)) else [])

/-- The sequences of bytes in UTF-8 for the code points of an interval within a block of equal length,
given by its first and last code point, the number of bytes after the first, and the first byte of the
code point zero at that length. -/
def blockSequences (first last : Nat) : Nat × Nat × Nat × Nat → List (List ByteRange)
  | (blockFirst, blockLast, width, base) =>
    let first := max first blockFirst
    let last := min last blockLast
    if first ≤ last then continuations.digitwise width base first last (continuations width) else []

def byteSequences (first last : Nat) : List (List ByteRange) :=
  [(0, 0x7F, 0, 0), (0x80, 0x7FF, 1, 0xC0), (0x800, 0xD7FF, 2, 0xE0), (0xE000, 0xFFFF, 2, 0xE0),
    (0x10000, 0x10FFFF, 3, 0xF0)].flatMap (blockSequences first last)

/-- The number of states for sequences in ascending order, each of which shares those of the beginning
that it has in common with the sequence before it. -/
def sharedStates (before : List ByteRange) : List (List ByteRange) → Nat
  | [] => 0
  | s :: rest => s.length - commonLength before s + sharedStates s rest

/-! ### States -/

/-- The way in which an automaton reads a text. -/
inductive Reading where
  | forward
  | backward
  deriving Repr, DecidableEq

/-- A state that is left by ranges of bytes, each for the state of a number. -/
abbrev ByteState := List (ByteRange × Nat)

/-- States with their numbers, which count from 1 on. -/
abbrev ByteStates := Std.HashMap ByteState Nat

/-- The number of a state, after adding it if there is no state like it. -/
def ByteStates.numberOf (known : ByteStates) (state : ByteState) : Nat × ByteStates :=
  match known[state]? with
  | some n => (n, known)
  | none => (known.size + 1, known.insert state (known.size + 1))

/-- Add the states that read sequences of at most `width` ranges, given in ascending order, and the
number of the first of them. The state 0 is the end. -/
def ByteStates.addAll (known : ByteStates) :
    (width : Nat) → List (List ByteRange) → Nat × ByteStates
  | 0, _ => (0, known)
  | width + 1, sequences =>
    let step (acc : ByteState × ByteStates) (alike : List (List ByteRange)) :=
      match alike with
      | (range :: _) :: _ =>
        let (next, known) := addAll acc.2 width (alike.map List.tail)
        (acc.1 ++ [(range, next)], known)
      | _ => acc
    let (state, known) := (sequences.splitBy (·.head? == ·.head?)).foldl step ([], known)
    if state.isEmpty then (0, known) else known.numberOf state

def ByteStates.weight (sequences : List (List ByteRange)) : Nat :=
  (addAll ∅ 4 sequences).2.keys.foldl (fun sum state => sum + 32 + 8 * state.length) 0

namespace CharSet

def weight (reading : Reading) (s : CharSet) : Nat :=
  match s.ranges with
  | [(first, last)] =>
    -- one character is read byte by byte
    if first == last then 32 * (Char.ofNat first).utf8Size
    else ofRanges [(first, last)]
  | ranges => ofRanges ranges
where
  ofRanges (ranges : List (Nat × Nat)) : Nat :=
    -- one byte each: a single state tells the ranges apart
    if ranges.all (·.2 < 128) then 64 + 8 * ranges.length
    else
      let sequences := ranges.flatMap fun (first, last) => byteSequences first last
      match reading with
      | .forward => 32 + ByteStates.weight sequences
      | .backward => 64 + 4 * sequences.length + 32 * sharedStates [] sequences

end CharSet

/-! ### Choices between texts -/

def cutAtEmpty (texts : List (List UInt8)) : List (List (List UInt8)) :=
  texts.foldr (fun t cuts =>
    match t, cuts with
    | [], _ => [] :: cuts
    | _, [] => [[t]]
    | _, first :: rest => (t :: first) :: rest) [[]]

/-- The weight of the tree for a choice between texts of at most `width` bytes. A text that ends where
others go on is a way on of its own, and parts the texts before it from those behind it. -/
def treeWeight : (width : Nat) → List (List UInt8) → Nat
  | 0, _ => 0
  | width + 1, texts =>
    if texts.all List.isEmpty then 0
    else
      let cuts := cutAtEmpty texts
      let cutWeight (cut : List (List UInt8)) :=
        let firsts := (cut.filterMap List.head?).eraseDups
        let below := firsts.map fun b =>
          treeWeight width ((cut.filter (·.head? == some b)).map List.tail)
        (if firsts.length ≤ 1 then 36 * firsts.length else 36 + 8 * firsts.length) +
          below.foldl (· + ·) 0
      32 + 4 * (cuts.length - 1) + (cuts.map cutWeight).foldl (· + ·) 0

namespace Pattern

def text? (p : Pattern) : Option (List UInt8) :=
  match p.parts with
  | [] => none
  | parts => (parts.mapM character?).map (·.flatMap fun c => String.utf8EncodeChar (Char.ofNat c))

/-- The weight of a choice between texts, which all end in one state. -/
def textsWeight (reading : Reading) (texts : List (List UInt8)) : Nat :=
  let width := (texts.map List.length).foldl max 0
  32 + treeWeight (width + 1)
    (match reading with
      | .forward => texts
      | .backward => texts.map List.reverse)

def hasEmptySet : Pattern → Bool
  | .empty | .anchor _ => false
  | .chars set => set.ranges.isEmpty
  | .sequence a b | .choice a b => a.hasEmptySet || b.hasEmptySet
  | .group _ a | .repeated a _ _ _ => a.hasEmptySet

/-! ### Patterns -/

/-- The weight of a pattern. If it is not `whole`, a choice is counted without the states that lead into
its branches and out of them, as the branches are those of a choice around it. -/
def weight (reading : Reading) (whole : Bool) : Pattern → Nat
  | .empty | .anchor _ => 32
  | .chars set => set.weight reading
  | .sequence a b => a.weight reading true + b.weight reading true
  | .choice a b =>
    let inner := a.weight reading false + b.weight reading false
    if whole then
      let between := a.branches ++ b.branches
      match between.mapM text? with
      | some texts => textsWeight reading texts
      | none => 64 + 4 * between.length + inner
    else inner
  | .group _ a => (if reading == .forward then 64 else 0) + a.weight reading true
  | .repeated a least none _ =>
    let round := a.weight reading true
    -- a round that can be empty is compiled as an option of one or more rounds
    if least == 0 then round + (if a.matchesEmpty || a.hasEmptySet then 112 else 40) else least * round + 40
  | .repeated a least (some most) _ =>
    let round := a.weight reading true
    if least == most then most * round
    else if least == 0 && most == 1 then round + 72
    else most * round + (most - least) * 40 + (if least == 0 then 64 else 32)

def weightLimit : Nat := 10485760

def isAtStart : Pattern → Bool
  | .anchor a => a == .textStart
  | .sequence a b => a.isAtStart || (a.isWeightless && b.isAtStart)
  | .choice a b => a.isAtStart && b.isAtStart
  | .group _ a => a.isAtStart
  | .repeated a least _ _ => least != 0 && a.isAtStart
  | .empty | .chars _ => false

def isAtEnd : Pattern → Bool
  | .anchor a => a == .textEnd
  | .sequence a b => b.isAtEnd || (b.isWeightless && a.isAtEnd)
  | .choice a b => a.isAtEnd && b.isAtEnd
  | .group _ a => a.isAtEnd
  | .repeated a least _ _ => least != 0 && a.isAtEnd
  | .empty | .chars _ => false

/-- The weight of the states around a pattern. They skip what precedes a match, unless it can only be at
the edge of the text where the reading begins. -/
def aroundWeight (p : Pattern) : Reading → Nat
  | .forward => 96 + (if p.isAtStart then 32 else 112)
  | .backward => 32 + (if p.isAtEnd then 32 else 112)

/-- Whether the automata of a pattern are light enough. -/
def isLight (p : Pattern) : Bool :=
  [Reading.forward, .backward].all fun reading =>
    p.weight reading true + p.aroundWeight reading ≤ weightLimit

end Pattern

end FixturePlan.Text
