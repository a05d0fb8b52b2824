import FixturePlan.Text.Pattern.Token
import FixturePlan.Text.Pattern.Weight

/-!
# Reading patterns

The second step of reading a pattern builds the expression from the tokens, with a stack that holds one
level for each open group. A pattern is refused if a repetition has nothing to repeat, if a group is not
closed, if its notation is nested too deeply, or if it is too heavy.
-/

namespace FixturePlan.Text.Pattern

/-! ### Open groups -/

/-- A part of a sequence while a pattern is built. -/
structure Part where
  pattern : Pattern
  depth : Nat
  /-- Whether it can be repeated. -/
  repeatable : Bool
  deriving Repr

structure Level where
  number : Option Nat
  /-- The finished branches, latest first. -/
  branches : List Part
  /-- The parts of the current branch, latest first. -/
  parts : List Part
  deriving Repr

namespace Level

def start (number : Option Nat) : Level := ⟨number, [], []⟩

/-- The depth of a list: that of its deepest element, and a level more if there are several. -/
def listDepth (ps : List Part) : Nat :=
  let deepest := (ps.map (·.depth)).foldl max 0
  if ps.length ≤ 1 then deepest else deepest + 1

def branch (l : Level) : Part :=
  ⟨concat (l.parts.reverse.map (·.pattern)), listDepth l.parts, true⟩

def contents (l : Level) : Part :=
  let branches := l.branch :: l.branches
  match (branches.map (·.pattern)).reverse with
  | [] => l.branch
  | p :: rest => ⟨oneOf p rest, listDepth branches, true⟩

def close (l : Level) : Part :=
  let inner := l.contents
  let pattern := match l.number with
    | some n => .group n inner.pattern
    | none => inner.pattern
  ⟨pattern, inner.depth + 1, true⟩

def add (l : Level) (p : Part) : Level := { l with parts := p :: l.parts }

/-- Repeat the latest part of the current branch. -/
def repeatLatest? (l : Level) (least : Nat) (most : Option Nat) (greedy : Bool) : Option Level :=
  match l.parts with
  | [] => none
  | p :: earlier =>
    if p.repeatable then
      some { l with parts := ⟨rounds p.pattern least most greedy, p.depth + 1, true⟩ :: earlier }
    else none

end Level

/-! ### Building -/

/-- Read the tokens into the stack of open groups, innermost first. `next` is the number of the next
group that is kept. The result is the whole pattern, if just the outermost level is open in the end. -/
def build (next : Nat) (top : Level) (outer : List Level) : List PatternToken → Option Part
  | [] => if outer.isEmpty then some top.contents else none
  | token :: rest =>
    match token with
    | .part p depth => build next (top.add ⟨p, depth, true⟩) outer rest
    | .modes => build next (top.add ⟨.empty, 0, false⟩) outer rest
    | .opening true _ => build (next + 1) (.start (some next)) (top :: outer) rest
    | .opening false _ => build next (.start none) (top :: outer) rest
    | .closing =>
      match outer with
      | [] => none
      | parent :: outer => build next (parent.add top.close) outer rest
    | .bar => build next { top with branches := top.branch :: top.branches, parts := [] } outer rest
    | .times least most greedy =>
      match top.repeatLatest? least most greedy with
      | none => none
      | some top => build next top outer rest

/-- The greatest depth of the notation of a pattern. -/
def depthLimit : Nat := 250

def ofTokens? (tokens : List PatternToken) : Option Pattern :=
  match build 1 (.start none) [] tokens with
  | none => none
  | some part =>
    if part.depth ≤ depthLimit && part.pattern.isLight then some part.pattern else none

/-- The pattern that a text writes, if it writes one. -/
def parse? (s : String) : Option Pattern := PatternToken.read s >>= ofTokens?

end FixturePlan.Text.Pattern
