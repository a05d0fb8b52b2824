import FixturePlan.Plan.Inclusion
import FixturePlan.Plan.Order
import FixturePlan.Schema.JoinShape

/-!
# Plans

The outcome of a run: the schema with its join tables, the entities, and the order in which they are
to be created.
-/

namespace FixturePlan

structure Plan where
  schema : Schema
  joins : JoinShapes
  entities : EntitySet
  /-- The order of creation. -/
  order : List EntityId
  dropped : SortedMap EntityId Unit
  replaced : SortedMap EntityId EntityId

namespace Plan

/-- Order the entities and decide which are included. -/
def build (schema : Schema) (joins : JoinShapes) (entities : EntitySet) (decide : Decider) :
    Report PlanError Plan :=
  (Report.ofExcept entities.topologicalOrder).andThen fun sorted =>
    ((entities.applyInclusion sorted decide).toReport).andThen fun st =>
      .value
        { schema, joins, entities := st.entities, order := st.order, dropped := st.dropped,
          replaced := st.replaced }

def labels (p : Plan) : List String := p.order.map p.entities.label

end Plan

end FixturePlan
