import FixturePlan.Number.Digits
import FixturePlan.Text.Pattern
import FixturePlan.Text.Pattern.Mode
import FixturePlan.Text.Property

/-!
# Escapes in patterns

What a backslash introduces: a character that would otherwise be read in another way, a character by
its code point, a class by a letter or a property, or a condition on the place.
-/

namespace FixturePlan.Text

inductive PatternEscape where
  | char (c : Char)
  | set (members : CharSet)
  | anchor (a : Anchor)
  deriving Repr, DecidableEq

namespace PatternEscape

/-! ### Parts of escapes

What the modes pass over is passed over inside an escape as well. -/

def bracedText (m : PatternModes) : (fuel : Nat) → List Char → Option (List Char × List Char)
  | 0, _ => none
  | fuel + 1, cs =>
    match m.skip cs with
    | [] => none
    | '\x7d' :: rest => some ([], rest)
    | c :: rest => do
      let (text, rest) ← bracedText m fuel rest
      return (c :: text, rest)

def countedDigits (m : PatternModes) : (count : Nat) → List Char → Option (List Char × List Char)
  | 0, cs => some ([], cs)
  | count + 1, cs =>
    match m.skip cs with
    | [] => none
    | c :: rest => do
      let (digits, rest) ← countedDigits m count rest
      return (c :: digits, rest)

/-- A character given by its code point: `width` digits, or any number of them in braces. Two digits
alone give a byte, which outside ASCII is no character unless classes hold such. -/
def readCodePoint (m : PatternModes) (width : Nat) (cs : List Char) : Option (Char × List Char) := do
  match m.skip cs with
  | '\x7b' :: rest =>
    let (digits, rest) ← bracedText m (rest.length + 1) rest
    guard !digits.isEmpty
    return (← Number.digits? 16 digits >>= Number.charOf?, rest)
  | cs =>
    let (digits, rest) ← countedDigits m width cs
    let c ← Number.digits? 16 digits >>= Number.charOf?
    guard (m.has .unicode || 2 < width || isAscii c)
    return (c, rest)

/-- A letter or hyphen, as in the names of conditions. -/
def isNameChar (c : Char) : Bool := c.isAlpha || c == '-'

def readName (m : PatternModes) : (fuel : Nat) → List Char → List Char × List Char
  | 0, cs => ([], cs)
  | fuel + 1, cs =>
    match m.skip cs with
    | [] => ([], [])
    | c :: rest =>
      if isNameChar c then
        let (name, rest) := readName m fuel rest
        (c :: name, rest)
      else ([], c :: rest)

/-- The condition after `\b`: an edge of a word, or what a name in braces says. Braces around anything
but a name are not part of it. -/
def readEdge (m : PatternModes) (cs : List Char) : Option (WordEdge × List Char) :=
  match cs with
  | '\x7b' :: inner =>
    match m.skip inner with
    | [] => none
    | c :: rest =>
      if isNameChar c then
        match readName m (rest.length + 1) (c :: rest) with
        | (name, '\x7d' :: rest) =>
          match String.ofList name with
          | "start" => some (.start, rest)
          | "end" => some (.finish, rest)
          | "start-half" => some (.notBefore, rest)
          | "end-half" => some (.notAfter, rest)
          | _ => none
        | _ => none
      else some (.edge, cs)
  | _ => some (.edge, cs)

/-- The set of a property: of one letter, or of what stands in braces. -/
def readProperty (m : PatternModes) (cs : List Char) : Option (CharSet × List Char) :=
  match m.skip cs with
  | [] | '\\' :: _ => none
  | '\x7b' :: rest => do
    let (text, rest) ← bracedText m (rest.length + 1) rest
    return (← CharSet.ofProperty? text, rest)
  | c :: rest => (CharSet.named? (propertyName [c])).map fun set => (set, rest)

/-! ### Escapes -/

/-- Whether a character may be escaped just to stand for itself. -/
def isEscapable (c : Char) : Bool := isAscii c && !c.isAlphanum

def read (m : PatternModes) : List Char → Option (PatternEscape × List Char)
  | [] => none
  | c :: rest =>
    let word := if m.has .unicode then CharSet.word else CharSet.asciiWord
    let edge (e : WordEdge) : PatternEscape := .anchor (.word word e)
    match c with
    | 'd' | 'D' | 's' | 'S' | 'w' | 'W' => (m.letterClass? c).map fun members => (.set members, rest)
    | 'p' | 'P' => do
      guard (m.has .unicode)
      let (members, rest) ← readProperty m rest
      return (.set (← m.close? (c == 'P') members), rest)
    | 'n' => some (.char '\n', rest)
    | 't' => some (.char '\t', rest)
    | 'r' => some (.char '\r', rest)
    | 'a' => some (.char '\x07', rest)
    | 'f' => some (.char '\x0c', rest)
    | 'v' => some (.char '\x0b', rest)
    | 'x' => (readCodePoint m 2 rest).map fun (d, r) => (.char d, r)
    | 'u' => (readCodePoint m 4 rest).map fun (d, r) => (.char d, r)
    | 'U' => (readCodePoint m 8 rest).map fun (d, r) => (.char d, r)
    | 'A' => some (.anchor .textStart, rest)
    | 'z' => some (.anchor .textEnd, rest)
    | 'b' => (readEdge m rest).map fun (e, r) => (edge e, r)
    | 'B' => some (edge .noEdge, rest)
    | '<' => some (edge .start, rest)
    | '>' => some (edge .finish, rest)
    | _ => if isEscapable c then some (.char c, rest) else none

end PatternEscape

end FixturePlan.Text
