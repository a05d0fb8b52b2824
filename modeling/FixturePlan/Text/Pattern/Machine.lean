import FixturePlan.Text.Pattern
import Std.Data.HashSet

/-!
# Matching

A pattern is matched by a machine, a list of steps that refer to one another by their numbers. A thread
stands at one step and remembers where groups began and ended. All threads advance together, one
character at a time, best thread first, and of two threads at one step only the better goes on: a
search therefore takes time in proportion to the text and the machine.

`Pattern.find?` gives the leftmost match, and among those the best: an earlier branch goes before a
later one, and a greedy repetition prefers another round.
-/

namespace FixturePlan.Text

/-! ### Machines -/

inductive Step where
  | take (set : CharSet) (next : Nat)
  | check (a : Anchor) (next : Nat)
  /-- Go on in two ways, the better one first. -/
  | fork (first second : Nat)
  /-- Remember the place under a number. -/
  | mark (number : Nat) (next : Nat)
  | accept
  deriving Repr, DecidableEq

abbrev Machine := Array Step

def Step.round (greedy : Bool) (another done : Nat) : Step :=
  if greedy then .fork another done else .fork done another

def iterate {α : Type} (f : α → α) : Nat → α → α
  | 0, x => x
  | n + 1, x => iterate f n (f x)

namespace Pattern

/-- Add the steps of a pattern to a machine, which goes on after them at a given step. The result is the
first of the steps, and the machine. -/
def addSteps : Pattern → Nat × Machine → Nat × Machine
  | .empty, (next, m) => (next, m)
  | .chars set, (next, m) => (m.size, m.push (.take set next))
  | .anchor a, (next, m) => (m.size, m.push (.check a next))
  | .sequence a b, (next, m) => addSteps a (addSteps b (next, m))
  | .choice a b, (next, m) =>
    let (first, m) := addSteps a (next, m)
    let (second, m) := addSteps b (next, m)
    (m.size, m.push (.fork first second))
  | .group number a, (next, m) =>
    let (first, m) := addSteps a (m.size, m.push (.mark (2 * number + 1) next))
    (m.size, m.push (.mark (2 * number) first))
  | .repeated a least most greedy, (next, m) =>
    let rest := match most with
      | some n =>
        iterate (fun (after, m) =>
          let (first, m) := addSteps a (after, m)
          (m.size, m.push (.round greedy first next))) (n - least) (next, m)
      | none =>
        -- the fork after a round leads back into it, so its place is kept free until then
        let fork := m.size
        let (first, m) := addSteps a (fork, m.push .accept)
        let m := m.setIfInBounds fork (.round greedy first next)
        if a.matchesEmpty then (m.size, m.push (.round greedy first next)) else (fork, m)
    iterate (addSteps a) least rest

end Pattern

/-! ### Running a machine -/

structure Thread where
  step : Nat
  /-- The places remembered under numbers, latest first. -/
  marks : List (Nat × Nat)
  deriving Repr, DecidableEq

/-- The threads of a machine between two characters: those that wait for the next character, best
first, and the marks of a thread that has come to the end. Threads behind that one are given up. -/
structure Front where
  waiting : List (CharSet × Thread)
  accepted : Option (List (Nat × Nat))

/-- Advance threads, best first, until each waits for a character. `seen` holds the steps where a
better thread has been, and `done` the waiting threads, latest first. Every turn drops a thread or
sees a new step, so `fuel` may be the number of threads and twice that of steps. -/
def Machine.settle (m : Machine) (place : Nat) (before after : Option Char) :
    (fuel : Nat) → List Thread → Std.HashSet Nat → List (CharSet × Thread) → Front
  | 0, _, _, done | _ + 1, [], _, done => ⟨done.reverse, none⟩
  | fuel + 1, t :: more, seen, done =>
    if seen.contains t.step then m.settle place before after fuel more seen done
    else
      let seen := seen.insert t.step
      match m[t.step]? with
      | none => m.settle place before after fuel more seen done
      | some .accept => ⟨done.reverse, some t.marks⟩
      | some (.take set next) =>
        m.settle place before after fuel more seen ((set, { t with step := next }) :: done)
      | some (.check a next) =>
        let more := if a.holds before after then { t with step := next } :: more else more
        m.settle place before after fuel more seen done
      | some (.fork first second) =>
        let more := { t with step := first } :: { t with step := second } :: more
        m.settle place before after fuel more seen done
      | some (.mark number next) =>
        let t := { step := next, marks := (number, place) :: t.marks }
        m.settle place before after fuel (t :: more) seen done

/-- The marks of the best match in the rest of a text, given the threads that have come so far and the
best match found so far. As long as there is none, a thread begins at every place. -/
def Machine.search (m : Machine) (start : Nat) (place : Nat) (before : Option Char) :
    List Char → List Thread → Option (List (Nat × Nat)) → Option (List (Nat × Nat))
  | cs, threads, found =>
    -- a match that begins further left goes before every other, so no more begin after the first
    let threads := if found.isNone then threads ++ [⟨start, []⟩] else threads
    let front := m.settle place before cs.head? (threads.length + 2 * m.size + 1) threads ∅ []
    let found := front.accepted.or found
    match cs with
    | [] => found
    | c :: rest =>
      if found.isSome && front.waiting.isEmpty then found
      else
        let threads := front.waiting.filterMap fun (set, t) =>
          if set.contains c then some t else none
        m.search start (place + 1) (some c) rest threads found

namespace Pattern

/-- The machine of a pattern, and the step it starts at. -/
def machine (p : Pattern) : Nat × Machine := p.addSteps (0, #[.accept])

end Pattern

/-! ### Matches -/

/-- A match: the text that was searched and the places remembered on the way. -/
structure Match where
  text : String
  marks : List (Nat × Nat)
  deriving Repr, DecidableEq

/-- The text of a group of a match, if the group took part in it. -/
def Match.group? (m : Match) (number : Nat) : Option String := do
  let first ← m.marks.lookup (2 * number)
  let last ← m.marks.lookup (2 * number + 1)
  return String.ofList ((m.text.toList.drop first).take (last - first))

namespace Pattern

def find? (p : Pattern) (s : String) : Option Match :=
  let (start, m) := p.machine
  (m.search start 0 none s.toList [] none).map fun marks => ⟨s, marks⟩

/-- Whether a pattern matches anywhere in a text. -/
def occursIn (p : Pattern) (s : String) : Bool := (p.find? s).isSome

end Pattern

end FixturePlan.Text
