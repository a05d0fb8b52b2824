import FixturePlan.Source.Basic
import FixturePlan.Schema.Name

/-!
# Failures of inspection

Why a schema cannot be built from what a source says.
-/

namespace FixturePlan

/-- A reason why there is no schema. -/
inductive SchemaError where
  | source (cause : SourceError)
  | duplicateTable (name : QualifiedName)
  | unknownPrimaryKeyColumn (table : QualifiedName) (column : String)
  | unknownForeignKeyColumn (constraint : String) (table : QualifiedName) (column : String)
  deriving DecidableEq, Repr

namespace SchemaError

def message : SchemaError → String
  | .source cause => cause.message
  | .duplicateTable name => s!"Duplicate table: {name.shown}"
  | .unknownPrimaryKeyColumn table column =>
    s!"Primary key of {table.shown} names unknown column '{column}'"
  | .unknownForeignKeyColumn constraint table column =>
    s!"Foreign key {constraint} on {table.shown} names unknown column '{column}'"

end SchemaError

end FixturePlan
