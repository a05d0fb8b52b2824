import FixturePlan.Json
import FixturePlan.Number.Reading

/-!
# Reading JSON

`Json.parse?` reads one JSON value that makes up a whole text. Whole numbers of 64 bits are kept
exactly, other numbers as floats. A text escape of a surrogate counts only together with its partner.
-/

namespace FixturePlan.Json

/-! ### Texts -/

def skipBlanks (cs : List Char) : List Char :=
  cs.dropWhile fun c => c == ' ' || c == '\n' || c == '\r' || c == '\t'

def hex4? (a b c d : Char) : Option Nat := Number.digits? 16 [a, b, c, d]

def escaped? : Char → Option Char
  | '"' => some '"'
  | '\\' => some '\\'
  | '/' => some '/'
  | 'b' => some '\x08'
  | 'f' => some '\x0c'
  | 'n' => some '\n'
  | 'r' => some '\r'
  | 't' => some '\t'
  | _ => none

/-- The rest of a text up to its closing quote, and what follows; `done` holds the characters read
so far, latest first. -/
def readText (done : List Char) : List Char → Option (String × List Char)
  | [] => none
  | '"' :: rest => some (String.ofList done.reverse, rest)
  | '\\' :: 'u' :: a :: b :: c :: d :: '\\' :: 'u' :: a' :: b' :: c' :: d' :: rest =>
    match hex4? a b c d, hex4? a' b' c' d' with
    | some n, some n' =>
      -- two surrogates make one character; any other pair is read one by one
      if 0xD800 ≤ n && n < 0xDC00 && 0xDC00 ≤ n' && n' < 0xE000 then
        readText (Char.ofNat (0x10000 + (n - 0xD800) * 0x400 + (n' - 0xDC00)) :: done) rest
      else if n.isValidChar then
        readText (Char.ofNat n :: done) ('\\' :: 'u' :: a' :: b' :: c' :: d' :: rest)
      else none
    | _, _ => none
  | '\\' :: 'u' :: a :: b :: c :: d :: rest =>
    match hex4? a b c d with
    | some n => if n.isValidChar then readText (Char.ofNat n :: done) rest else none
    | none => none
  | '\\' :: e :: rest =>
    match escaped? e with
    | some c => readText (c :: done) rest
    | none => none
  | c :: rest => if c.toNat < 32 then none else readText (c :: done) rest

/-! ### Numbers -/

def isNumberChar (c : Char) : Bool :=
  c.isDigit || c == '-' || c == '+' || c == '.' || c == 'e' || c == 'E'

/-- The bound of the numbers that fit into 64 bits. -/
def wordBound : Nat := 0x10000000000000000

/-- The leading digits of a number as far as they fit into 64 bits, and the digits after them. -/
def leadingWord (n : Nat) : List Char → Nat × List Char
  | [] => (n, [])
  | c :: rest =>
    let next := 10 * n + (c.toNat - '0'.toNat)
    if next < wordBound then leadingWord next rest else (n, c :: rest)

/-- The float of a number with digits on both sides of the point. It is rounded twice: the digits
that fit into 64 bits give the nearest float, which is then multiplied or divided by the power of ten
that is left. -/
def float (whole fraction : List Char) (exponent : Int) : Float :=
  let (n, skipped) := leadingWord 0 whole
  let (n, dropped) := leadingWord n fraction
  let power : Int := exponent + skipped.length - (fraction.length - dropped.length)
  let digits := Float.ofNat n
  if n == 0 then 0.0
  else if 0 ≤ power then digits * Number.nearestFloat 1 power
  else if -308 ≤ power then digits / Number.nearestFloat 1 (-power)
  -- the greatest power of ten that is a float is divided off first
  else digits / Number.nearestFloat 1 308 / Number.nearestFloat 1 (-power - 308)

/-- A number of a document: no leading zero, no plus sign, digits on both sides of the point. A whole
number is kept if it fits into 64 bits, with or without a sign; beyond them, and for a zero with a
minus sign, the number is a float. -/
def number? (cs : List Char) : Option Json := do
  let (negative, magnitude) := match cs with
    | '-' :: rest => (true, rest)
    | rest => (false, rest)
  let (whole, rest) := Number.splitDigits magnitude
  guard (!whole.isEmpty && (whole.length == 1 || whole.head? != some '0'))
  let n := Number.ofDigits whole
  match rest with
  | [] =>
    if !negative && n < wordBound then return .int n
    else if negative && 0 < n && n ≤ wordBound / 2 then return .int (-n)
  | '.' :: fraction => guard ((fraction.head?.map Char.isDigit).getD false)
  | _ => pure ()
  let (fraction, rest) := match rest with
    | '.' :: r => Number.splitDigits r
    | r => ([], r)
  let x := float whole fraction (← Number.readExponent rest)
  guard x.isFinite
  return .real (if negative then -x else x)

/-! ### Values -/

mutual

/-- One value and what follows it. `fuel` bounds the number of values and members still read. -/
def readValue : Nat → List Char → Option (Json × List Char)
  | 0, _ => none
  | fuel + 1, cs =>
    match cs with
    | 'n' :: 'u' :: 'l' :: 'l' :: rest => some (.null, rest)
    | 't' :: 'r' :: 'u' :: 'e' :: rest => some (.bool true, rest)
    | 'f' :: 'a' :: 'l' :: 's' :: 'e' :: rest => some (.bool false, rest)
    | '"' :: rest => (readText [] rest).map fun (s, r) => (.text s, r)
    | '[' :: rest =>
      match skipBlanks rest with
      | ']' :: r => some (.array [], r)
      | r => (readItems fuel r).map fun (items, r') => (.array items, r')
    | '\x7b' :: rest =>
      match skipBlanks rest with
      | '\x7d' :: r => some (.object [], r)
      | r => (readMembers fuel r).map fun (members, r') => (.object members, r')
    | _ =>
      (number? (cs.takeWhile isNumberChar)).map fun v => (v, cs.dropWhile isNumberChar)

/-- The items of an array from the first one on, up to the closing bracket. -/
def readItems : Nat → List Char → Option (List Json × List Char)
  | 0, _ => none
  | fuel + 1, cs => do
    let (v, rest) ← readValue fuel cs
    match skipBlanks rest with
    | ',' :: r =>
      let (vs, r') ← readItems fuel (skipBlanks r)
      return (v :: vs, r')
    | ']' :: r => return ([v], r)
    | _ => none

/-- The members of an object from the first one on, up to the closing brace. -/
def readMembers : Nat → List Char → Option (List (String × Json) × List Char)
  | 0, _ => none
  | fuel + 1, cs =>
    match cs with
    | '"' :: rest => do
      let (name, rest) ← readText [] rest
      match skipBlanks rest with
      | ':' :: r =>
        let (v, rest) ← readValue fuel (skipBlanks r)
        match skipBlanks rest with
        | ',' :: r =>
          let (ms, r') ← readMembers fuel (skipBlanks r)
          return ((name, v) :: ms, r')
        | '\x7d' :: r => return ([(name, v)], r)
        | _ => none
      | _ => none
    | _ => none

end

/-- The value that a whole text writes. Every value and member takes at least one character, so
twice the length of the text bounds their number. -/
def parse? (s : String) : Option Json := do
  let cs := s.toList
  let (v, rest) ← readValue (2 * cs.length + 1) (skipBlanks cs)
  guard (skipBlanks rest).isEmpty
  return v

/-! ### Taking values apart -/

def items? : Json → Option (List Json)
  | .array items => some items
  | _ => none

def text? : Json → Option String
  | .text s => some s
  | _ => none

def int? : Json → Option Int
  | .int n => some n
  | _ => none

def nat? : Json → Option Nat
  | .int (.ofNat n) => some n
  | _ => none

def bool? : Json → Option Bool
  | .bool b => some b
  | _ => none

def listOf? {α : Type} (read : Json → Option α) (v : Json) : Option (List α) := do
  (← v.items?).mapM read

/-- A member that may be missing or `null`. -/
def memberOf? {α : Type} (name : String) (read : Json → Option α) (v : Json) :
    Option (Option α) :=
  match v.member? name with
  | none | some .null => some none
  | some w => (read w).map some

def required? {α : Type} (name : String) (read : Json → Option α) (v : Json) : Option α :=
  v.member? name >>= read

/-- A member with a value to take if it is missing. -/
def defaulted? {α : Type} (name : String) (read : Json → Option α) (fallback : α) (v : Json) :
    Option α :=
  (v.memberOf? name read).map (·.getD fallback)

/-! ### Objects in order -/

mutual

/-- The value with the members of every object in ascending order of names. Of members with one name
the last one stays. -/
def sorted : Json → Json
  | .array items => .array (sortedItems items)
  | .object members => .object (sortedMembers members)
  | scalar => scalar

def sortedItems : List Json → List Json
  | [] => []
  | v :: rest => sorted v :: sortedItems rest

def sortedMembers : List (String × Json) → List (String × Json)
  | [] => []
  | (name, v) :: rest =>
    let others := sortedMembers rest
    if others.any (·.1 == name) then others
    else
      others.takeWhile (·.1 < name) ++ (name, sorted v) :: others.dropWhile (·.1 < name)

end

end FixturePlan.Json
