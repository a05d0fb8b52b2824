import FixturePlan.Entity.Set
import FixturePlan.Order.Component
import FixturePlan.Plan.Error

/-!
# Order of entities

Every entity comes after the entities that it requires, and otherwise as early as its number allows.
There is no such order if required links form a cycle, whose entities are then named; and none is
looked for while a required link is still a placeholder.
-/

namespace FixturePlan.EntitySet

/-! ### Edges -/

/-- What the required links ask of the order: an edge from each entity to each that requires it. -/
def requiredEdges (s : EntitySet) : List Order.Edge :=
  s.toList.flatMap fun e => e.requiredEntities.map (·, e.id)

/-- The first required link that is still a placeholder, with its entity. -/
def firstPlaceholder? (s : EntitySet) : Option (Entity × Link) :=
  s.toList.findSome? fun e =>
    (e.required.find? fun l => l.target.placeholder?.isSome).map (e, ·)

/-! ### The order

Which component of a graph comes first among the cyclic ones is up to the search for components. The
members of a cycle are named in ascending order whatever the search says. -/

/-- The order in which every entity follows those it requires. Where there is none, one of the components
that a search finds tells which entities form a cycle. -/
def topologicalOrderBy (search : Order.ComponentSearch) (s : EntitySet) :
    Except PlanError (List EntityId) :=
  match s.firstPlaceholder? with
  | some (e, l) => .error (.unresolvedPlaceholder e.shown l.name)
  | none =>
    match Order.leastFirst? s.size s.requiredEdges with
    | some order => .ok order
    | none => .error (.requiredCycle ((Order.cycleBy search s.size s.requiredEdges).map s.label))

def topologicalOrder (s : EntitySet) : Except PlanError (List EntityId) :=
  s.topologicalOrderBy Order.components

end FixturePlan.EntitySet
