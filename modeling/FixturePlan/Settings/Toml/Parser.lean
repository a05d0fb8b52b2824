import FixturePlan.Settings.Toml
import FixturePlan.Settings.Toml.Moment

/-!
# Reading TOML

`Toml.parse?` reads a document of TOML 1.1: comments, headers of tables and of repeated tables, bare,
quoted and dotted keys, the four kinds of text, whole numbers in four bases, floats, truth values,
moments, arrays and inline tables. Keys have at most eighty parts, and arrays and inline tables are at
most eighty deep.

Each reader takes characters from the front and gives back the rest.
-/

namespace FixturePlan.Toml

/-! ### Blanks, comments and line ends -/

def skipSpaces (cs : List Char) : List Char := cs.dropWhile fun c => c == ' ' || c == '\t'

/-- Whether a character may stand in comments and texts: any but the control characters, except for
the tab. -/
def isLiteralChar (c : Char) : Bool := c == '\t' || (32 ≤ c.toNat && c.toNat != 127)

def skipComment : List Char → List Char
  | '#' :: rest => rest.dropWhile isLiteralChar
  | cs => cs

def lineEnd? : List Char → Option (List Char)
  | '\n' :: rest => some rest
  | '\r' :: '\n' :: rest => some rest
  | _ => none

/-- What is left of a line after its contents: blanks, a comment, and the end of the line or of the
document. -/
def finishLine (cs : List Char) : Option (List Char) :=
  match skipComment (skipSpaces cs) with
  | [] => some []
  | rest => lineEnd? rest

/-- Drop blanks, comments and line ends. `fuel` bounds the number of lines. -/
def skipLines : Nat → List Char → List Char
  | 0, cs => cs
  | fuel + 1, cs =>
    let rest := skipComment (skipSpaces cs)
    match lineEnd? rest with
    | some more => skipLines fuel more
    | none => rest

/-- Drop everything between two values of an array or two members of an inline table. -/
def skipBetween (cs : List Char) : List Char := skipLines (cs.length + 1) cs

/-! ### Texts -/

def escape? : Char → Option Char
  | 'b' => some '\x08'
  | 'e' => some '\x1b'
  | 't' => some '\t'
  | 'n' => some '\n'
  | 'f' => some '\x0c'
  | 'r' => some '\r'
  | '"' => some '"'
  | '\\' => some '\\'
  | _ => none

def readEscape : List Char → Option (Char × List Char)
  | 'x' :: rest => (Number.leadingCodePoint? 2 rest).map (·, rest.drop 2)
  | 'u' :: rest => (Number.leadingCodePoint? 4 rest).map (·, rest.drop 4)
  | 'U' :: rest => (Number.leadingCodePoint? 8 rest).map (·, rest.drop 8)
  | e :: rest => (escape? e).map (·, rest)
  | [] => none

/-- A text in double quotes, after the opening one; `done` holds what was read, latest first. `fuel`
bounds the number of characters and escapes. -/
def readBasic (done : List Char) : (fuel : Nat) → List Char → Option (String × List Char)
  | 0, _ => none
  | _ + 1, [] => none
  | _ + 1, '"' :: rest => some (String.ofList done.reverse, rest)
  | fuel + 1, '\\' :: rest => do
    let (c, rest) ← readEscape rest
    readBasic (c :: done) fuel rest
  | fuel + 1, c :: rest => if isLiteralChar c then readBasic (c :: done) fuel rest else none

/-- A text in single quotes, after the opening one. -/
def readLiteral (cs : List Char) : Option (String × List Char) :=
  let body := cs.takeWhile fun c => isLiteralChar c && c != '\x27'
  match cs.drop body.length with
  | '\x27' :: rest => some (String.ofList body, rest)
  | _ => none

/-- Drop the line end right after the opening quotes of a text of several lines. -/
def skipFirstLineEnd (cs : List Char) : List Char := (lineEnd? cs).getD cs

/-- The closing quotes of a text of several lines: three, before which up to two more belong to the
text. The number of these comes with the rest. -/
def closing? (quote : Char) (cs : List Char) : Option (Nat × List Char) :=
  let quotes := (cs.takeWhile (· == quote)).length
  if quotes < 3 then none
  else
    let kept := min (quotes - 3) 2
    some (kept, cs.drop (kept + 3))

/-- Whether a backslash here ends its line, so that it and all blanks after it are dropped. -/
def continuesLine (cs : List Char) : Bool := (lineEnd? (skipSpaces cs)).isSome

def skipWhite (cs : List Char) : List Char :=
  cs.dropWhile fun c => c == ' ' || c == '\t' || c == '\n' || c == '\r'

/-- A text of several lines after its opening quotes. -/
def readLines (quote : Char) (escapes : Bool) (done : List Char) :
    (fuel : Nat) → List Char → Option (String × List Char)
  | 0, _ => none
  | _ + 1, [] => none
  | fuel + 1, c :: rest =>
    if c == quote then
      match closing? quote (c :: rest) with
      | some (kept, rest) =>
        -- quotes right before the closing three belong to the text
        some (String.ofList ((List.replicate kept quote ++ done).reverse), rest)
      | none => readLines quote escapes (c :: done) fuel rest
    else if escapes && c == '\\' then
      if continuesLine rest then readLines quote escapes done fuel (skipWhite rest)
      else
        match readEscape rest with
        | some (d, rest) => readLines quote escapes (d :: done) fuel rest
        | none => none
    -- a carriage return stands only right before a line feed
    else if c == '\r' then
      match rest with
      | '\n' :: rest => readLines quote escapes ('\n' :: '\r' :: done) fuel rest
      | _ => none
    else if c == '\n' || isLiteralChar c then readLines quote escapes (c :: done) fuel rest
    else none

def readText? (cs : List Char) : Option (String × List Char) :=
  match cs with
  | '"' :: '"' :: '"' :: rest => readLines '"' true [] (rest.length + 1) (skipFirstLineEnd rest)
  | '\x27' :: '\x27' :: '\x27' :: rest =>
    readLines '\x27' false [] (rest.length + 1) (skipFirstLineEnd rest)
  | '"' :: rest => readBasic [] (rest.length + 1) rest
  | '\x27' :: rest => readLiteral rest
  | _ => none

/-! ### Keys -/

def isBareChar (c : Char) : Bool := c.isAlphanum || c == '_' || c == '-'

def readKeyPart (cs : List Char) : Option (String × List Char) :=
  match cs with
  | '"' :: rest => readBasic [] (rest.length + 1) rest
  | '\x27' :: rest => readLiteral rest
  | _ =>
    let bare := cs.takeWhile isBareChar
    if bare.isEmpty then none else some (String.ofList bare, cs.drop bare.length)

def readKeyParts : (fuel : Nat) → List Char → Option (List String × List Char)
  | 0, _ => none
  | fuel + 1, cs => do
    let (part, rest) ← readKeyPart (skipSpaces cs)
    match skipSpaces rest with
    | '.' :: more =>
      let (parts, rest) ← readKeyParts fuel more
      return (part :: parts, rest)
    | rest => return ([part], rest)

/-- The greatest number of parts of a key, and of arrays and inline tables inside one another. -/
def depthLimit : Nat := 80

def readKey (cs : List Char) : Option (List String × List Char) := readKeyParts depthLimit cs

/-! ### Words

Everything that is neither a text nor in brackets is first cut off as a word, and then read as a whole. -/

/-- Remove the underscores between digits; one in any other place makes the number void. -/
def joinDigits (isDigit : Char → Bool) : List Char → Option (List Char)
  | [] => some []
  | c :: '_' :: d :: rest =>
    if isDigit c && isDigit d then (joinDigits isDigit (d :: rest)).map (c :: ·) else none
  | c :: rest => if c == '_' then none else (joinDigits isDigit rest).map (c :: ·)

/-- A whole number in a base other than ten, after its prefix. A prefix alone has no value. -/
def radixNumber? (base : Nat) (cs : List Char) : Option Toml := do
  let digits ← joinDigits (fun c => (Number.digit? base c).isSome) cs
  let n ← Number.digits? base digits
  return if cs.isEmpty then .huge else .ofInt n

/-- Whether digits are a whole part: not empty, and without a leading zero. -/
def isWholePart (cs : List Char) : Bool := !cs.isEmpty && (cs.length == 1 || cs.head? != some '0')

def decimal? (negative : Bool) (cs : List Char) : Option Toml := do
  let cs ← joinDigits Char.isDigit cs
  let (whole, rest) := Number.splitDigits cs
  guard (isWholePart whole)
  match rest with
  | [] =>
    let n : Int := Number.ofDigits whole
    return .ofInt (if negative then -n else n)
  | '.' :: fraction =>
    -- digits on both sides of the point
    guard ((fraction.head?.map Char.isDigit).getD false)
    let x ← Number.readUnsigned cs
    return .ofFloat (if negative then -x else x)
  | _ =>
    let x ← Number.readUnsigned cs
    return .ofFloat (if negative then -x else x)

/-- A number, truth value or moment that makes up a word. -/
def word? (cs : List Char) : Option Toml :=
  match cs with
  | ['t', 'r', 'u', 'e'] => some (.bool true)
  | ['f', 'a', 'l', 's', 'e'] => some (.bool false)
  | '0' :: 'x' :: rest => radixNumber? 16 rest
  | '0' :: 'o' :: rest => radixNumber? 8 rest
  | '0' :: 'b' :: rest => radixNumber? 2 rest
  | _ =>
    let (negative, rest) := Number.splitSign cs
    if rest == ['i', 'n', 'f'] then some (.real (if negative then -1.0 / 0.0 else 1.0 / 0.0))
    else if rest == ['n', 'a', 'n'] then some (.real (0.0 / 0.0))
    else if isMoment cs then some (.moment (String.ofList cs))
    else decimal? negative rest

def isWordChar (c : Char) : Bool :=
  c.isAlphanum || c == '_' || c == '+' || c == '-' || c == '.' || c == ':'

/-- A word and what follows it. A single blank may stand between a date and a time of day. -/
def splitWord (cs : List Char) : List Char × List Char :=
  let word := cs.takeWhile isWordChar
  match skipDate word, cs.drop word.length with
  | some [], ' ' :: c :: rest =>
    if c.isDigit then
      let time := (c :: rest).takeWhile isWordChar
      (word ++ ' ' :: time, (c :: rest).drop time.length)
    else (word, ' ' :: c :: rest)
  | _, rest => (word, rest)

/-! ### Values -/

mutual

/-- One value. `fuel` bounds the number of values, keys and brackets still read, and `depth` the number
of arrays and inline tables inside one another. -/
def readValue (fuel depth : Nat) (cs : List Char) : Option (Toml × List Char) :=
  match fuel, depth, cs with
  | 0, _, _ => none
  | _ + 1, _, '"' :: _ | _ + 1, _, '\x27' :: _ =>
    (readText? cs).map fun (s, rest) => (.text s, rest)
  -- _ + 1, 0, '['|as deep as it may go
  | _ + 1, 0, '[' :: _ | _ + 1, 0, '\x7b' :: _ => none
  | fuel + 1, depth + 1, '[' :: rest =>
    (readItems fuel depth [] (skipBetween rest)).map fun (vs, r) => (.array vs, r)
  | fuel + 1, depth + 1, '\x7b' :: rest =>
    (readInline fuel depth [] (skipBetween rest)).map fun (ms, r) =>
      (.table (Node.finishMembers ms), r)
  | _ + 1, _, _ =>
    let (word, rest) := splitWord cs
    (word? word).map (·, rest)

/-- The items of an array up to the closing bracket, after those in `done`, latest first. -/
def readItems (fuel depth : Nat) (done : List Toml) (cs : List Char) :
    Option (List Toml × List Char) :=
  match fuel, cs with
  | 0, _ => none
  | _ + 1, ']' :: rest => some (done.reverse, rest)
  | fuel + 1, cs => do
    let (v, rest) ← readValue fuel depth cs
    match skipBetween rest with
    -- ',' :: more => readItems|a comma may also stand behind the last item
    | ',' :: more => readItems fuel depth (v :: done) (skipBetween more)
    | ']' :: more => return ((v :: done).reverse, more)
    | _ => none

/-- The members of an inline table up to the closing brace, after those in `done`. -/
def readInline (fuel depth : Nat) (done : Members) (cs : List Char) :
    Option (Members × List Char) :=
  match fuel, cs with
  | 0, _ => none
  | _ + 1, '\x7d' :: rest => some (done, rest)
  | fuel + 1, cs => do
    let (key, rest) ← readKey cs
    match rest with
    | '=' :: rest =>
      let (v, rest) ← readValue fuel depth (skipSpaces rest)
      let done ← Node.setDotted v key done
      match skipBetween rest with
      -- ',' :: more => readInline|a comma may also stand behind the last member
      | ',' :: more => readInline fuel depth done (skipBetween more)
      | '\x7d' :: more => return (done, more)
      | _ => none
    | _ => none

end

/-! ### Documents -/

/-- A document while it is read: its tables, and the path of the table that keys go to. -/
structure Document where
  members : Members
  current : List String

namespace Document

def header (d : Document) (repeated : Bool) (path : List String) : Option Document :=
  match path.reverse with
  | [] => none
  | name :: outer =>
    let opening := if repeated then Node.openElement name else Node.openTable name
    (Node.atPath opening outer.reverse d.members).map fun members => ⟨members, path⟩

def entry (d : Document) (key : List String) (v : Toml) : Option Document :=
  (Node.atPath (Node.setDotted v key) d.current d.members).map fun members => { d with members }

/-- Take in one line and give back the lines after it. -/
def line (d : Document) (cs : List Char) : Option (Document × List Char) := do
  match skipSpaces cs with
  -- two brackets open the next element, one opens the table itself
  | '[' :: '[' :: rest =>
    match ← readKey rest with
    | (path, ']' :: ']' :: rest) => return (← d.header true path, ← finishLine rest)
    | _ => none
  | '[' :: rest =>
    match ← readKey rest with
    | (path, ']' :: rest) => return (← d.header false path, ← finishLine rest)
    | _ => none
  | cs =>
    -- an empty line, or one that holds a comment only
    match finishLine cs with
    | some rest => return (d, rest)
    | none =>
      match ← readKey cs with
      | (key, '=' :: rest) =>
        -- a value may go on over several lines
        let (v, rest) ← readValue (2 * rest.length + 1) depthLimit (skipSpaces rest)
        return (← d.entry key v, ← finishLine rest)
      | _ => none

/-- Take in all lines. `fuel` bounds their number. -/
def lines : (fuel : Nat) → Document → List Char → Option Document
  | _, d, [] => some d
  | 0, _, _ :: _ => none
  | fuel + 1, d, cs => do
    let (d, rest) ← d.line cs
    lines fuel d rest

end Document

def skipByteOrderMark : List Char → List Char
  | '\ufeff' :: rest => rest
  | cs => cs

/-- The table that a whole document writes. Every line but the last takes at least one character. -/
def parse? (s : String) : Option Toml := do
  let cs := skipByteOrderMark s.toList
  let d ← Document.lines (cs.length + 1) ⟨[], []⟩ cs
  return .table (Node.finishMembers d.members)

end FixturePlan.Toml
