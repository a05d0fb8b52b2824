import FixturePlan.Number.Notation

/-!
# JSON values

The values of JSON documents and their two written forms: on one line, and laid out with one member
a line and two blanks of indentation a level. The members of an object keep the order they are given
in. Text is written literally except for quotes, backslashes and control characters.
-/

namespace FixturePlan

inductive Json where
  | null
  | bool (b : Bool)
  | int (n : Int)
  | real (x : Float)
  | text (s : String)
  | array (items : List Json)
  | object (members : List (String × Json))
  deriving Repr, Inhabited

namespace Json

/-! ### Making values -/

def nat (n : Nat) : Json := .int n

/-- An optional value, `null` if it is missing. -/
def option {α : Type} (f : α → Json) : Option α → Json
  | none => .null
  | some a => f a

def list {α : Type} (f : α → Json) (as : List α) : Json := .array (as.map f)

/-- The first member of an object under a name. -/
def member? (name : String) : Json → Option Json
  | .object members => members.lookup name
  | _ => none

/-! ### Scalars -/

/-- A control character by its code point, in four hexadecimal digits. -/
def controlEscape (c : Char) : List Char :=
  let digits := Nat.toDigits 16 c.toNat
  ['\\', 'u'] ++ List.replicate (4 - digits.length) '0' ++ digits

def escapeChar (c : Char) : List Char :=
  if c == '"' then ['\\', '"']
  else if c == '\\' then ['\\', '\\']
  else if c == '\n' then ['\\', 'n']
  else if c == '\r' then ['\\', 'r']
  else if c == '\t' then ['\\', 't']
  else if c == '\x08' then ['\\', 'b']
  else if c == '\x0c' then ['\\', 'f']
  else if c.toNat < 32 then controlEscape c
  else [c]

def writeText (s : String) : String :=
  String.ofList ('"' :: s.toList.flatMap escapeChar ++ ['"'])

/-- A value that is neither an array nor an object. Numbers that are not finite have no form. -/
def writeScalar : Json → String
  | .bool true => "true"
  | .bool false => "false"
  | .int n => toString n
  | .real x => if x.isFinite then Number.FloatNotation.document.write x else "null"
  | .text s => writeText s
  | _ => "null"

/-! ### On one line -/

mutual

def compact : Json → String
  | .array items => "[" ++ ",".intercalate (compactItems items) ++ "]"
  | .object members => "\x7b" ++ ",".intercalate (compactMembers members) ++ "\x7d"
  | scalar => writeScalar scalar

def compactItems : List Json → List String
  | [] => []
  | v :: rest => compact v :: compactItems rest

def compactMembers : List (String × Json) → List String
  | [] => []
  | (name, v) :: rest => (writeText name ++ ":" ++ compact v) :: compactMembers rest

end

/-! ### Laid out

An array or object without contents stays on one line. -/

def indentation (level : Nat) : String := String.ofList (List.replicate (2 * level) ' ')

/-- Lines between brackets, one level deeper than the brackets. -/
def bracketed (opening closing : String) (level : Nat) : List String → String
  | [] => opening ++ closing
  | lines =>
    opening ++ "\n" ++ ",\n".intercalate (lines.map (indentation (level + 1) ++ ·)) ++ "\n" ++
      indentation level ++ closing

mutual

/-- A value laid out over lines; `level` is that of its first line. -/
def layout (level : Nat) : Json → String
  | .array items => bracketed "[" "]" level (layoutItems level items)
  | .object members => bracketed "\x7b" "\x7d" level (layoutMembers level members)
  | scalar => writeScalar scalar

def layoutItems (level : Nat) : List Json → List String
  | [] => []
  | v :: rest => layout (level + 1) v :: layoutItems level rest

def layoutMembers (level : Nat) : List (String × Json) → List String
  | [] => []
  | (name, v) :: rest =>
    (writeText name ++ ": " ++ layout (level + 1) v) :: layoutMembers level rest

end

def pretty (v : Json) : String := layout 0 v

end Json

end FixturePlan
