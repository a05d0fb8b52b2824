import FixturePlan.Source.Cell
import FixturePlan.Source.TypeCode
import FixturePlan.Strategy.TargetType
import FixturePlan.Text.Blank
import FixturePlan.Text.Quoted

/-!
# Literals

A value of the database as a literal of the generated fixtures: `42`, `1.5`, `true`, `"text"`. The
planner compares the resulting tokens for equality only, so two cells that give one token count as
one key.
-/

namespace FixturePlan

/-- A value ready for the fixtures. -/
structure Token where
  text : String
  deriving DecidableEq, Hashable, Repr, Inhabited

namespace Literal

/-! ### Literals by kind

The form of a literal tells what kind of value it stands for, with two exceptions. A text that denotes a
number is written like one, and a number that the driver hands over for a truth value is written as that
truth value. -/

def truth (b : Bool) : String := if b then "true" else "false"

/-- The literal of a float: a whole number where the target type is one and nothing is lost but
range, else the float itself. -/
def real (x : Float) (target : String) : String :=
  match TargetType.isWhole target, (Number.Binary64.ofFloat x).toInt? with
  | true, some n => toString (Number.clampInt64 n)
  | _, _ => Number.FloatNotation.literal.write x

/-- The literal of a text: the number it denotes where the target type is one, else the quoted
text. -/
def text (s : String) (target : String) : String :=
  let trimmed := Text.trimChars s.toList
  -- trimmed and otherwise as written: neither zeros nor a plus sign in front are taken off
  if TargetType.isNumeric target && Number.denotesFloat trimmed then String.ofList trimmed
  else Text.quoted s

def bytes (bs : List UInt8) : String :=
  "vec![" ++ ", ".intercalate (bs.map fun b => toString b.toNat) ++ "]"

def ofCell (cell : Cell) (code : TypeCode) (target : String) : String :=
  match cell with
  | .null => "None"
  | .boolean b => truth b
  -- a driver may hand over a truth value as a number
  | .integer n => if code.isTruth then truth (n != 0) else toString n
  | .real x => real x target
  | .text s => text s target
  | .blob bs => bytes bs

end Literal

end FixturePlan
