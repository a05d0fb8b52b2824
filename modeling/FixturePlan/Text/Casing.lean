import FixturePlan.Text.LetterCase
import FixturePlan.Text.Numeric

/-!
# Camel and Pascal case

Names in one piece: the separators of a name are dropped and the words between them begin with a
capital, in Pascal case the first word too. A word also begins after a digit and where a capital
follows a lower-case letter. Only ASCII letters change their case.
-/

namespace FixturePlan.Text

structure CasingState where
  /-- The next letter begins a word. -/
  atWordStart : Bool
  /-- Whether the last letter inside a word was lower case. -/
  afterLowercase : Bool
  /-- A letter or digit has been seen: separators before the first one count for nothing. -/
  begun : Bool

/-- The name in one piece that the remaining characters give. -/
def joinWords (s : CasingState) : List Char → List Char
  | [] => []
  | c :: rest =>
    -- a separator, which is dropped
    if !isAlphanumeric c then
      joinWords { s with atWordStart := s.atWordStart || s.begun } rest
    else if isNumeric c then
      c :: joinWords { s with atWordStart := true, begun := true } rest
    else if s.atWordStart || (s.afterLowercase && isUppercase c) then
      -- the capital that begins a word leaves `afterLowercase` as it is
      c.toUpper :: joinWords { s with atWordStart := false, begun := true } rest
    else
      c.toLower :: joinWords { s with afterLowercase := isLowercase c, begun := true } rest

/-- A name in one piece whose words begin with a capital, the first one if `firstCapital`. The
characters after the last letter or digit count for nothing. -/
def toCase (firstCapital : Bool) (s : String) : String :=
  let kept := (s.toList.reverse.dropWhile (!isAlphanumeric ·)).reverse
  String.ofList (joinWords ⟨firstCapital, false, false⟩ kept)

/-- The name in camel case: `order_items` becomes `orderItems`. -/
def camelCase (s : String) : String := toCase false s

def pascalCase (s : String) : String := toCase true s

end FixturePlan.Text
