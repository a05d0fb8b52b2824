import FixturePlan.Text.CaseFold
import FixturePlan.Text.WordChar

/-!
# Patterns

Regular expressions over text, with captured groups. The constructors are wrapped by functions that
leave out what has no effect: `Pattern.concat` parts that are empty, `Pattern.oneOf` the choice between
sets of characters and the repetition of a common beginning, and `Pattern.rounds` repetitions of what
uses up no text.
-/

namespace FixturePlan.Text

/-! ### Conditions on places -/

/-- A condition on whether word characters stand before and after a place. -/
inductive WordEdge where
  /-- On one side only. -/
  | edge
  | noEdge
  | start
  | finish
  | notBefore
  | notAfter
  deriving Repr, DecidableEq

def WordEdge.holds (before after : Bool) : WordEdge → Bool
  | .edge => before != after
  | .noEdge => before == after
  | .start => !before && after
  | .finish => before && !after
  | .notBefore => !before
  | .notAfter => !after

/-- A condition on a place in the text that uses up no character. -/
inductive Anchor where
  | textStart
  | textEnd
  | lineStart
  | lineEnd
  /-- The start of a line where carriage returns also end lines. -/
  | anyLineStart
  | anyLineEnd
  | word (members : CharSet) (condition : WordEdge)
  deriving Repr, DecidableEq

/-- Whether a condition holds between two characters; `none` stands for an end of the text. -/
def Anchor.holds (before after : Option Char) : Anchor → Bool
  | .textStart => before.isNone
  | .textEnd => after.isNone
  | .lineStart => before.all (· == '\n')
  | .lineEnd => after.all (· == '\n')
  | .anyLineStart => before.all fun c => c == '\n' || (c == '\r' && after != some '\n')
  | .anyLineEnd => after.all fun c => c == '\r' || (c == '\n' && before != some '\r')
  | .word members e => e.holds (before.any members.contains) (after.any members.contains)

/-! ### Patterns -/

inductive Pattern where
  | empty
  | chars (set : CharSet)
  | anchor (a : Anchor)
  | sequence (a b : Pattern)
  | choice (a b : Pattern)
  /-- A group whose text is kept under a number. -/
  | group (number : Nat) (a : Pattern)
  /-- At least `least` rounds, and at most `most` where there is a bound. -/
  | repeated (a : Pattern) (least : Nat) (most : Option Nat) (greedy : Bool)
  deriving Repr, DecidableEq

def commonLength {α : Type} [BEq α] : List α → List α → Nat
  | a :: as, b :: bs => if a == b then commonLength as bs + 1 else 0
  | _, _ => 0

namespace Pattern

/-! ### Looking into patterns -/

/-- Whether a pattern uses up no text, wherever it matches. -/
def isWeightless : Pattern → Bool
  | .empty | .anchor _ => true
  | .chars _ => false
  | .sequence a b | .choice a b => a.isWeightless && b.isWeightless
  | .group _ a => a.isWeightless
  | .repeated a _ most _ => most == some 0 || a.isWeightless

def matchesEmpty : Pattern → Bool
  | .empty | .anchor _ => true
  | .chars _ => false
  | .sequence a b => a.matchesEmpty && b.matchesEmpty
  | .choice a b => a.matchesEmpty || b.matchesEmpty
  | .group _ a => a.matchesEmpty
  | .repeated a least _ _ => least == 0 || a.matchesEmpty

def character? : Pattern → Option Nat
  | .chars ⟨[(first, last)]⟩ => if first == last then some first else none
  | _ => none

/-- The set of a pattern that is just a set of characters, but not one character. -/
def set? : Pattern → Option CharSet
  | .chars set => if (character? (.chars set)).isNone then some set else none
  | _ => none

def parts : Pattern → List Pattern
  | .empty => []
  | .sequence a b => a.parts ++ b.parts
  | p => [p]

def branches : Pattern → List Pattern
  | .choice a b => a.branches ++ b.branches
  | p => [p]

/-- The parts of a pattern, where characters that follow one another stand together. -/
def pieces (p : Pattern) : List (List Pattern) :=
  p.parts.splitBy fun a b => a.character?.isSome && b.character?.isSome

/-! ### Wrapped constructors

These decide how a pattern is written down, not what it matches. The form matters because a pattern may
be refused for its weight. -/

def concat (ps : List Pattern) : Pattern := inTurn (ps.flatMap parts)
where
  inTurn : List Pattern → Pattern
    | [] => .empty
    | [p] => p
    | p :: rest => .sequence p (inTurn rest)

/-- The number of pieces with which all of some sequences begin: none unless each of them has several
pieces. -/
def commonPieces (p : Pattern) (rest : List Pattern) : Nat :=
  if (p :: rest).any (·.pieces.length < 2) then 0
  else (rest.map fun q => commonLength p.pieces q.pieces).foldl min p.pieces.length

/-- The first of some patterns that matches. Characters make one set, and so do sets. -/
def merge (p : Pattern) (rest : List Pattern) : Pattern :=
  let flat := (p :: rest).flatMap branches
  match flat.mapM character?, flat.mapM set? with
  | some cs, _ => .chars (CharSet.normal ⟨cs.map fun c => (c, c)⟩)
  | none, some sets => .chars (sets.foldl .union .empty)
  | none, none => inOrder flat
where
  inOrder : List Pattern → Pattern
    | [] => .empty
    | [p] => p
    | p :: rest => .choice p (inOrder rest)

/-- The first of some patterns that matches, with what all of them begin with in front. -/
def oneOf (p : Pattern) (rest : List Pattern) : Pattern :=
  match (p :: rest).flatMap branches with
  | [] => .empty
  | [q] => q
  | q :: others =>
    let n := commonPieces q others
    -- what all branches begin with is taken out, which leaves a choice of the remainders
    if n == 0 then merge q others
    else
      let remainder (r : Pattern) := concat (r.pieces.drop n).flatten
      concat ((q.pieces.take n).flatten ++ [merge (remainder q) (others.map remainder)])

/-- Rounds of a pattern. One round is as good as many for a pattern that uses up no text. -/
def rounds (p : Pattern) (least : Nat) (most : Option Nat) (greedy : Bool) : Pattern :=
  let least := if p.isWeightless then min least 1 else least
  let most := if p.isWeightless then some (most.elim 1 (min 1)) else most
  if most == some 0 then .empty
  else if least == 1 && most == some 1 then p
  else .repeated p least most greedy

end Pattern

end FixturePlan.Text
