import FixturePlan.Strategy.Literal
import FixturePlan.Strategy.Naming

/-!
# Strategies

The choices that a run leaves to its caller: names, target types and the rendering of values. The
planner works with any of them.
-/

namespace FixturePlan

/-! ### Rendering -/

/-- How a cell becomes a token, given the name and code of its type and the target type. -/
abbrev Rendering := Cell → (typeName : String) → TypeCode → (target : String) → Token

namespace Rendering

/-- Cells as literals. -/
def literal : Rendering := fun cell _ code target => ⟨Literal.ofCell cell code target⟩

/-- Cells in their form for reading, preceded by everything that the rendering was given. -/
def traced : Rendering := fun cell typeName code target =>
  ⟨s!"{typeName}/{toString code}/{target}:{cell.shown}"⟩

end Rendering

/-! ### Strategies -/

structure Strategies where
  naming : Naming
  targetType : Column → String
  rendering : Rendering

namespace Strategies

def standard (singularize : Bool) : Strategies :=
  ⟨.inflected singularize, TargetType.ofColumn, .literal⟩

def render (s : Strategies) (cell : Cell) (c : Column) : Token :=
  s.rendering cell c.dataType.name c.dataType.code (s.targetType c)

end Strategies

end FixturePlan
