/-!
# Failures of planning

Why entities cannot be put into an order of creation.
-/

namespace FixturePlan

/-- A reason why there is no plan. -/
inductive PlanError where
  | requiredCycle (entities : List String)
  | droppedDependency (entity dependency : String)
  | unresolvedPlaceholder (entity link : String)
  deriving DecidableEq, Repr

namespace PlanError

def message : PlanError → String
  | .requiredCycle entities =>
    "required references form a cycle: " ++ " -> ".intercalate entities
  | .droppedDependency entity dependency => s!"{entity} requires {dependency}, which was dropped"
  | .unresolvedPlaceholder entity link => s!"{entity}: required reference {link} was never resolved"

end PlanError

end FixturePlan
