/-!
# Qualified names and positions

Tables, foreign keys and entities are known by their position in the collection that owns them, and
tables also by a name within a schema.
-/

namespace FixturePlan

/-- The position of a table in its schema. -/
abbrev TableId := Nat

/-- The position of a foreign key in its schema. -/
abbrev ForeignKeyId := Nat

/-- The position of an entity in its set. -/
abbrev EntityId := Nat

structure QualifiedName where
  schema : String
  name : String
  deriving DecidableEq, Hashable, Repr, Inhabited

namespace QualifiedName

/-- `schema.name`, or the bare name where there is no schema. -/
def shown (q : QualifiedName) : String :=
  if q.schema.isEmpty then q.name else q.schema ++ "." ++ q.name

end QualifiedName

end FixturePlan
