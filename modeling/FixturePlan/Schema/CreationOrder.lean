import FixturePlan.Order.LeastFirst
import FixturePlan.Report
import FixturePlan.Schema.Basic

/-!
# Creation order of tables

Every table comes after the tables that it references by NOT NULL keys, and otherwise as early as its
discovery allows. Nullable keys and self references impose no order. Where NOT NULL keys form a cycle
the tables stay in the order of discovery, with a warning.
-/

namespace FixturePlan.Schema

/-- What the NOT NULL keys between different tables ask of the order. -/
def creationEdges (s : Schema) : List Order.Edge :=
  (s.foreignKeys.filter fun k => !k.nullable && !k.isSelfReference).map fun k =>
    (k.target, k.source)

/-- The order in which every table follows those it needs, if there is one. -/
def acyclicOrder? (s : Schema) : Option (List TableId) :=
  Order.leastFirst? s.tables.length s.creationEdges

/-- The order in which tables are created. -/
def creationOrder (s : Schema) : List TableId :=
  s.acyclicOrder?.getD (List.range s.tables.length)

def creationWarnings (s : Schema) : List Warning :=
  -- one warning, however many cycles there are
  if s.acyclicOrder?.isNone then [.tableCycle] else []

def reportCreationOrder {ε : Type} (s : Schema) : Report ε (List TableId) :=
  ⟨s.creationWarnings, .ok s.creationOrder⟩

end FixturePlan.Schema
