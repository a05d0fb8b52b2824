import FixturePlan.Text.Pattern.Escape

/-!
# Sets in brackets

A set of characters in brackets lists characters, ranges, classes and further sets in brackets, and may
combine such lists by `&&`, `--` and `~~`, which are read from the left. Together with the set goes the
depth of its notation, since patterns that are nested too deeply are refused.
-/

namespace FixturePlan.Text

/-! ### Sets and operations -/

inductive SetOperation where
  | inter
  | diff
  | symmDiff
  deriving Repr, DecidableEq

def SetOperation.apply : SetOperation → CharSet → CharSet → CharSet
  | .inter => .inter
  | .diff => .diff
  | .symmDiff => .symmDiff

/-- A set of characters with the depth of its notation. -/
structure DeepSet where
  set : CharSet
  depth : Nat
  deriving Repr, DecidableEq

structure SetList where
  set : CharSet
  count : Nat
  /-- The greatest depth of an item. -/
  depth : Nat
  deriving Repr, DecidableEq

namespace SetList

def empty : SetList := ⟨.empty, 0, 0⟩

def add (l : SetList) (item : DeepSet) : SetList :=
  ⟨⟨l.set.ranges ++ item.set.ranges⟩, l.count + 1, max l.depth item.depth⟩

def addSet (l : SetList) (s : CharSet) : SetList := l.add ⟨s, 0⟩

/-- The list as a whole. One item needs no level of its own. -/
def finish (l : SetList) : DeepSet := ⟨l.set, if l.count ≤ 1 then l.depth else l.depth + 1⟩

end SetList

/-- A list of members after an operation on what stands before it. -/
abbrev PendingOperation := Option (DeepSet × SetOperation)

def PendingOperation.apply (m : PatternModes) (pending : PendingOperation) (right : DeepSet) :
    DeepSet :=
  match pending with
  | none => right
  | some (left, op) =>
    ⟨op.apply (m.widen left.set) (m.widen right.set), max left.depth right.depth + 1⟩

/-! ### Items -/

/-- The ASCII class of a name, as it stands in `[:name:]`. -/
def namedClass? (name : String) : Option CharSet :=
  match name with
  | "alnum" => some ⟨[(48, 57), (65, 90), (97, 122)]⟩
  | "alpha" => some ⟨[(65, 90), (97, 122)]⟩
  | "ascii" => some ⟨[(0, 127)]⟩
  | "blank" => some ⟨[(9, 9), (32, 32)]⟩
  | "cntrl" => some ⟨[(0, 31), (127, 127)]⟩
  | "digit" => some ⟨[(48, 57)]⟩
  | "graph" => some ⟨[(33, 126)]⟩
  | "lower" => some ⟨[(97, 122)]⟩
  | "print" => some ⟨[(32, 126)]⟩
  | "punct" => some ⟨[(33, 47), (58, 64), (91, 96), (123, 126)]⟩
  | "space" => some ⟨[(9, 13), (32, 32)]⟩
  | "upper" => some ⟨[(65, 90)]⟩
  | "word" => some ⟨[(48, 57), (65, 90), (95, 95), (97, 122)]⟩
  | "xdigit" => some ⟨[(48, 57), (65, 70), (97, 102)]⟩
  | _ => none

/-- A class with a name after its opening bracket, as in `[:alpha:]` and `[:^alpha:]`. -/
def readNamed : List Char → Option ((Bool × CharSet) × List Char)
  | ':' :: rest => do
    let (negated, rest) := match rest with
      | '^' :: r => (true, r)
      | r => (false, r)
    let name := rest.takeWhile (· != ':')
    match rest.drop name.length with
    | ':' :: ']' :: after => return ((negated, ← namedClass? (String.ofList name)), after)
    | _ => none
  | _ => none

def readMember (m : PatternModes) : List Char → Option (PatternEscape × List Char)
  | [] => none
  | '\\' :: rest => PatternEscape.read m rest
  | c :: rest => some (.char c, rest)

/-- The character after a hyphen, which decides whether the hyphen makes a range. A comment sign is
passed over here, though not the comment after it. -/
def afterHyphen (m : PatternModes) (cs : List Char) : Option Char :=
  if m.has .verbose then
    match trimLeft cs with
    | '#' :: rest => (trimLeft rest).head?
    | rest => rest.head?
  else cs.head?

/-- A range between two characters. Without characters beyond ASCII both are of ASCII. -/
def range? (m : PatternModes) (first last : Char) : Option CharSet :=
  if first ≤ last && (m.has .unicode || isAscii last) then some (.interval first last) else none

/-- One item of a set other than a set in brackets: a character, a class, or a range. -/
def readItem (m : PatternModes) (cs : List Char) : Option (CharSet × List Char) := do
  let (member, rest) ← readMember m cs
  let rest := m.skip rest
  match rest with
  | '-' :: more =>
    if afterHyphen m more == some ']' || afterHyphen m more == some '-' then
      return (← alone member, rest)
    else
      match member, ← readMember m (m.skip more) with
      | .char first, (.char last, rest) => return (← range? m first last, rest)
      | _, _ => none
  | _ => return (← alone member, rest)
where
  alone : PatternEscape → Option CharSet
    | .char c => range? m c c
    | .set members => some members
    -- .anchor _ => none|a condition on the place is no member
    | .anchor _ => none

/-! ### Whole sets -/

/-- Hyphens at the start of a set, which stand for themselves. -/
def readHyphens (m : PatternModes) (l : SetList) : (fuel : Nat) → List Char → SetList × List Char
  | 0, cs => (l, cs)
  | fuel + 1, cs =>
    match m.skip cs with
    | '-' :: rest => readHyphens m (l.addSet (.single '-')) fuel rest
    | cs => (l, cs)

/-- The start of a set after its opening bracket: whether it is negated, and the members that stand for
themselves only there, hyphens or a closing bracket. -/
def readStart (m : PatternModes) (cs : List Char) : Bool × SetList × List Char :=
  let (negated, cs) := match m.skip cs with
    | '^' :: rest => (true, rest)
    | cs => (false, cs)
  let (l, cs) := readHyphens m .empty cs.length cs
  match l.count, cs with
  | 0, ']' :: rest => (negated, l.addSet (.single ']'), rest)
  | _, cs => (negated, l, cs)

/-- A set up to its closing bracket, after the members listed so far. `fuel` bounds the number of items
and brackets still read. -/
def readSet (m : PatternModes) :
    (fuel : Nat) → PendingOperation → SetList → List Char → Option (DeepSet × List Char)
  | 0, _, _, _ => none
  | fuel + 1, pending, l, cs =>
    match m.skip cs with
    | [] => none
    | ']' :: rest => some (pending.apply m l.finish, rest)
    -- '&' :: '&' :: rest|an operation has all that stands before it on its left
    | '&' :: '&' :: rest =>
      readSet m fuel (some (pending.apply m l.finish, .inter)) .empty rest
    | '-' :: '-' :: rest =>
      readSet m fuel (some (pending.apply m l.finish, .diff)) .empty rest
    | '~' :: '~' :: rest =>
      readSet m fuel (some (pending.apply m l.finish, .symmDiff)) .empty rest
    | '[' :: rest =>
      match readNamed rest with
      | some ((negated, members), rest) => do
        readSet m fuel pending (l.addSet (← m.close? negated members)) rest
      -- none => do|what is no class by name is a set of its own
      | none => do
        let (negated, inner, rest) := readStart m rest
        let (set, rest) ← readSet m fuel none inner rest
        readSet m fuel pending (l.add ⟨← m.close? negated set.set, set.depth + 1⟩) rest
    | cs => do
      let (set, rest) ← readItem m cs
      readSet m fuel pending (l.addSet set) rest

/-- A set in brackets after the opening one. -/
def readBracket (m : PatternModes) (cs : List Char) : Option (DeepSet × List Char) := do
  let (negated, l, rest) := readStart m cs
  let (set, rest) ← readSet m (cs.length + 1) none l rest
  return (⟨(← m.close? negated set.set).normal, set.depth + 1⟩, rest)

end FixturePlan.Text
