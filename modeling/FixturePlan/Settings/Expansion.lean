import FixturePlan.Text.Numeric

/-!
# Expansion of environment variables

In a text, `${name}` and `$name` stand for the value of an environment variable. A bare name reaches
as far as letters, digits and underscores do; a dollar sign before anything else stands for itself. A
value is inserted as it is and not expanded again.
-/

namespace FixturePlan

/-! ### Names -/

/-- The values of the environment variables that are set. -/
abbrev Environment := String → Option String

namespace Expansion

/-- Whether a character can belong to the bare name of a variable. -/
def isNameChar (c : Char) : Bool := Text.isAlphanumeric c || c == '_'

/-- The name of a variable in braces: up to the closing brace, or to the end without one. -/
def bracedName (cs : List Char) : List Char := cs.takeWhile (· != '\x7d')

def afterBraced (cs : List Char) : List Char := (cs.dropWhile (· != '\x7d')).drop 1

def bareName (cs : List Char) : List Char := cs.takeWhile isNameChar

def afterBare (cs : List Char) : List Char := cs.dropWhile isNameChar

/-! What follows a name is no longer than the text from the name on, and so the expansion ends. -/

theorem length_afterBare_le (cs : List Char) : (afterBare cs).length ≤ cs.length :=
  (List.dropWhile_suffix _).length_le

theorem length_afterBraced_le (cs : List Char) : (afterBraced cs).length ≤ cs.length := by
  rw [afterBraced, List.length_drop]
  exact Nat.le_trans (Nat.sub_le _ _) (List.dropWhile_suffix _).length_le

/-! ### Expanding -/

/-- The value of a variable, or its name if it is not set. -/
def valueOf (env : Environment) (name : List Char) : Except String (List Char) :=
  match env (String.ofList name) with
  | some value => .ok value.toList
  | none => .error (String.ofList name)

/-- Put a value in front of an expanded rest. -/
def insertValue (value rest : Except String (List Char)) : Except String (List Char) :=
  match value with
  | .error name => .error name
  | .ok v => rest.map (v ++ ·)

/-- Expand a text. The error is the name of the first variable that is not set. -/
def expandChars (env : Environment) : List Char → Except String (List Char)
  | [] => .ok []
  | '$' :: '\x7b' :: inner =>
    insertValue (valueOf env (bracedName inner)) (expandChars env (afterBraced inner))
  | '$' :: rest =>
    -- a dollar sign without a name stays
    if (bareName rest).isEmpty then (expandChars env rest).map ('$' :: ·)
    else insertValue (valueOf env (bareName rest)) (expandChars env (afterBare rest))
  | c :: rest => (expandChars env rest).map (c :: ·)
termination_by cs => cs.length
decreasing_by
  · have := length_afterBraced_le inner
    simp only [List.length_cons]
    omega
  · simp
  · have := length_afterBare_le rest
    simp only [List.length_cons]
    omega
  · simp

def variableNames : List Char → List String
  | [] => []
  | '$' :: '\x7b' :: inner =>
    String.ofList (bracedName inner) :: variableNames (afterBraced inner)
  | '$' :: rest => String.ofList (bareName rest) :: variableNames (afterBare rest)
  | _ :: rest => variableNames rest
termination_by cs => cs.length
decreasing_by
  · have := length_afterBraced_le inner
    simp only [List.length_cons]
    omega
  · have := length_afterBare_le rest
    simp only [List.length_cons]
    omega
  · simp

end Expansion

/-- Expand the environment variables in a text. The error is the name of the first variable that is
not set. -/
def expand (env : Environment) (s : String) : Except String String :=
  (Expansion.expandChars env s.toList).map String.ofList

end FixturePlan
