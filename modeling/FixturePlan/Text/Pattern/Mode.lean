import FixturePlan.Text.CaseFold
import FixturePlan.Text.WordChar

/-!
# Modes of patterns

The modes that `(?…)` turns on and off while a pattern is read, and what depends on them alone: which
characters `\w` stands for, whether case counts, and where blanks are passed over.
-/

namespace FixturePlan.Text

/-! ### Modes -/

inductive PatternMode where
  /-- Case does not count. -/
  | ignoreCase
  /-- `^` and `$` also match at line ends. -/
  | multiLine
  /-- `.` also matches a line feed. -/
  | dotAll
  /-- Repetitions are lazy by default. -/
  | swapGreed
  /-- Carriage returns end lines too. -/
  | anyLineEnd
  /-- Classes hold characters beyond ASCII. -/
  | unicode
  /-- Blanks and comments are passed over. -/
  | verbose
  deriving Repr, DecidableEq

def PatternMode.ofLetter? : Char → Option PatternMode
  | 'i' => some .ignoreCase
  | 'm' => some .multiLine
  | 's' => some .dotAll
  | 'U' => some .swapGreed
  | 'R' => some .anyLineEnd
  | 'u' => some .unicode
  | 'x' => some .verbose
  | _ => none

structure PatternModes where
  active : List PatternMode
  deriving Repr, DecidableEq

namespace PatternModes

def standard : PatternModes := ⟨[.unicode]⟩

def has (m : PatternModes) (mode : PatternMode) : Bool := m.active.contains mode

def change (m : PatternModes) (on off : List PatternMode) : PatternModes :=
  ⟨on ++ m.active.filter (!off.contains ·)⟩

/-! ### Sets

Without the mode `unicode` a pattern is about bytes, and whatever would match a byte that is part of a
longer character is refused. -/

/-- The set as the modes see it: with the characters that differ in case only, if case does not
count. -/
def widen (m : PatternModes) (s : CharSet) : CharSet :=
  if !m.has .ignoreCase then s
  else if m.has .unicode then s.withCases
  else s.withAsciiCases

/-- The complement of a set. Without characters beyond ASCII it would hold bytes that are none. -/
def complement? (m : PatternModes) (s : CharSet) : Option CharSet :=
  if m.has .unicode then some s.complement else none

/-- A set as its brackets make it: widened, and then turned into its complement if it is negated. -/
def close? (m : PatternModes) (negated : Bool) (s : CharSet) : Option CharSet :=
  if negated then m.complement? (m.widen s) else some (m.widen s)

/-- The class of a letter. A capital stands for the complement. -/
def letterClass? (m : PatternModes) (letter : Char) : Option CharSet :=
  let pick (wide narrow : CharSet) := if m.has .unicode then wide else narrow
  match letter with
  | 'd' => some (pick .digits .asciiDigits)
  | 's' => some (pick .blanks .asciiBlanks)
  | 'w' => some (pick .word .asciiWord)
  | 'D' => m.complement? .digits
  | 'S' => m.complement? .blanks
  | 'W' => m.complement? .word
  | _ => none

def dot? (m : PatternModes) : Option CharSet :=
  if !m.has .unicode then none
  else if m.has .dotAll then some .all
  else if m.has .anyLineEnd then some (CharSet.complement ⟨[(10, 10), (13, 13)]⟩)
  else some (CharSet.single '\n').complement

end PatternModes

/-! ### Blanks -/

/-- Drop blanks and comments, which run from `#` to the end of the line. -/
def skipVerbose (inComment : Bool) : List Char → List Char
  | [] => []
  | c :: rest =>
    if inComment then skipVerbose (c != '\n') rest
    else if c == '#' then skipVerbose true rest
    else if isBlank c then skipVerbose false rest
    else c :: rest

def PatternModes.skip (m : PatternModes) (cs : List Char) : List Char :=
  if m.has .verbose then skipVerbose false cs else cs

end FixturePlan.Text
