import FixturePlan.Text.Pattern.Bracket

/-!
# Tokens of patterns

The first step of reading a pattern cuts its text into tokens: sets of characters, conditions on the
place, brackets and repetitions. The modes are followed on the way, for they decide what the tokens
mean; every group restores at its end the modes that held before it.
-/

namespace FixturePlan.Text

/-! ### Tokens -/

inductive PatternToken where
  /-- A part of a sequence, with the depth of its notation. -/
  | part (p : Pattern) (depth : Nat)
  /-- A change of modes, a part without meaning of its own. -/
  | modes
  /-- An opening bracket. The group may be kept, and may then have a name. -/
  | opening (kept : Bool) (name : Option String)
  | closing
  | bar
  | times (least : Nat) (most : Option Nat) (greedy : Bool)
  deriving Repr, DecidableEq

namespace PatternToken

def ofChar (m : PatternModes) (c : Char) : PatternToken :=
  .part (.chars (m.widen (.single c))) 0

def ofEscape (m : PatternModes) : PatternEscape → PatternToken
  | .char c => ofChar m c
  | .set members => .part (.chars members) 0
  | .anchor a => .part (.anchor a) 0

/-- The start of the text, or of a line. -/
def caret (m : PatternModes) : Anchor :=
  if !m.has .multiLine then .textStart
  else if m.has .anyLineEnd then .anyLineStart
  else .lineStart

/-- The end of the text, or of a line. -/
def dollar (m : PatternModes) : Anchor :=
  if !m.has .multiLine then .textEnd
  else if m.has .anyLineEnd then .anyLineEnd
  else .lineEnd

/-! ### Groups and modes -/

/-- The letters of a change of modes up to `:` or `)`: the modes it turns on, those it turns off, and
whether `)` ends it. `minus` says whether the minus sign has come. No letter may occur twice, and one
has to follow the minus sign. -/
def readModes (minus : Bool) (on off : List PatternMode) :
    List Char → Option (List PatternMode × List PatternMode × Bool × List Char)
  | [] => none
  | c :: rest =>
    if c == ':' || c == ')' then
      if minus && off.isEmpty then none else some (on, off, c == ')', rest)
    else if c == '-' then if minus then none else readModes true on off rest
    else
      match PatternMode.ofLetter? c with
      | none => none
      | some mode =>
        if on.contains mode || off.contains mode then none
        else if minus then readModes minus on (mode :: off) rest
        else readModes minus (mode :: on) off rest

def isGroupName : List Char → Bool
  | [] => false
  | c :: rest =>
    (c == '_' || isAlphabetic c) &&
      rest.all fun d => ['_', '.', '[', ']'].contains d || isAlphanumeric d

def readGroupName (cs : List Char) : Option (String × List Char) :=
  let name := cs.takeWhile (· != '>')
  match cs.drop name.length with
  | '>' :: rest => if isGroupName name then some (String.ofList name, rest) else none
  | _ => none

/-- What follows an opening bracket: the token, the modes of the group that it opens, if it opens one,
and the modes of the text after it otherwise. -/
def readOpening (m : PatternModes) (cs : List Char) :
    Option (PatternToken × PatternModes × List Char) :=
  match m.skip cs with
  | '?' :: 'P' :: '<' :: rest =>
    (readGroupName rest).map fun (name, r) => (.opening true name, m, r)
  | '?' :: '<' :: rest => (readGroupName rest).map fun (name, r) => (.opening true name, m, r)
  | '?' :: rest => do
    let (on, off, closed, rest) ← readModes false [] [] rest
    let changed := m.change on off
    if closed then
      -- a change of nothing is a question mark without anything to repeat
      if on.isEmpty && off.isEmpty then none else return (.modes, changed, rest)
    else return (.opening false none, changed, rest)
  | rest => some (.opening true none, m, rest)

def readDigits (m : PatternModes) : (fuel : Nat) → List Char → List Char × List Char
  | 0, cs => ([], cs)
  | _ + 1, [] => ([], [])
  | fuel + 1, c :: rest =>
    if c.isDigit then
      let (digits, rest) := readDigits m fuel (m.skip rest)
      (c :: digits, rest)
    else ([], c :: rest)

/-- A bound of a counted repetition, between optional blanks. It has to fit into 32 bits. -/
def readBound (m : PatternModes) (cs : List Char) : Option (Nat × List Char) :=
  let (digits, rest) := readDigits m (cs.length + 1) (trimLeft cs)
  let bound := Number.ofDigits digits
  if digits.isEmpty || 0x100000000 ≤ bound then none else some (bound, m.skip (trimLeft rest))

/-- Whether a repetition is greedy: a question mark after it makes it lazy, and the modes may exchange
the two. -/
def readGreed (m : PatternModes) (cs : List Char) : Bool × List Char :=
  match cs with
  | '?' :: rest => (m.has .swapGreed, rest)
  | rest => (!m.has .swapGreed, rest)

def readCount (m : PatternModes) (cs : List Char) : Option (PatternToken × List Char) := do
  let (least, rest) ← readBound m (m.skip cs)
  let (most, rest) ← match rest with
    | '\x7d' :: r => some (some least, r)
    | ',' :: r =>
      match m.skip r with
      -- '\x7d' :: r' =>|a comma without a second bound: as often as can be
      | '\x7d' :: r' => some (none, r')
      | r' =>
        match readBound m r' with
        | some (bound, '\x7d' :: r'') => if least ≤ bound then some (some bound, r'') else none
        | _ => none
    | _ => none
  let (greedy, rest) := readGreed m (m.skip rest)
  return (.times least most greedy, rest)

/-- The first token of a text that is not empty, other than one that changes modes. -/
def readOne (m : PatternModes) (c : Char) (rest : List Char) :
    Option (PatternToken × List Char) :=
  let repeats (least : Nat) (most : Option Nat) : PatternToken × List Char :=
    let (greedy, r) := readGreed m rest
    (.times least most greedy, r)
  match c with
  | '\\' => (PatternEscape.read m rest).map fun (e, r) => (ofEscape m e, r)
  | '.' => m.dot?.map fun set => (.part (.chars set) 0, rest)
  | '^' => some (.part (.anchor (caret m)) 0, rest)
  | '$' => some (.part (.anchor (dollar m)) 0, rest)
  | '|' => some (.bar, rest)
  | '[' => (readBracket m rest).map fun (set, r) => (.part (.chars set.set) set.depth, r)
  | '*' => some (repeats 0 none)
  | '+' => some (repeats 1 none)
  | '?' => some (repeats 0 (some 1))
  | '\x7b' => readCount m rest
  | _ => some (ofChar m c, rest)

/-- All tokens of a text. The modes in front are those of the innermost open group, followed by those
to be restored at its end. Every token takes at least one character, so `fuel` may be the length of the
text. -/
def readAll (m : PatternModes) (outer : List PatternModes) :
    (fuel : Nat) → List Char → Option (List PatternToken)
  | 0, cs => if (m.skip cs).isEmpty then some [] else none
  | fuel + 1, cs =>
    match m.skip cs with
    | [] => some []
    | '(' :: rest =>
      match readOpening m rest with
      | none => none
      -- some (.modes, m'|a change of modes holds up to the end of the group it stands in
      | some (.modes, m', rest) => (readAll m' outer fuel rest).map (.modes :: ·)
      | some (token, m', rest) => (readAll m' (m :: outer) fuel rest).map (token :: ·)
    | ')' :: rest =>
      match outer with
      | [] => none
      -- m' :: outer =>|the modes from before the group hold again
      | m' :: outer => (readAll m' outer fuel rest).map (.closing :: ·)
    | c :: rest =>
      match readOne m c rest with
      | none => none
      | some (token, rest) => (readAll m outer fuel rest).map (token :: ·)

def groupName? : PatternToken → Option String
  | .opening _ name => name
  | _ => none

/-- Cut the text of a pattern into tokens. No two groups may have one name. -/
def read (s : String) : Option (List PatternToken) := do
  let tokens ← readAll .standard [] s.toList.length s.toList
  if (tokens.filterMap groupName?).Nodup then some tokens else none

end PatternToken

end FixturePlan.Text
