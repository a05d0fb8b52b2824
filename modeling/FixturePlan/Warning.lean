import FixturePlan.Schema.Name

/-!
# Warnings

What a run tells its user without stopping. A warning is kept as its cause; the wording is given by
`Warning.message` alone.
-/

namespace FixturePlan

/-- The cause of a warning. -/
inductive Warning where
  /-- A foreign key leads to or from a table outside the schema. -/
  | foreignKeyDropped (name : String) (source target : QualifiedName)
  | unnamedColumn (table : String)
  /-- The tables cannot be ordered by their NOT NULL keys. -/
  | tableCycle
  /-- A scan reports a column under its name without quotes. -/
  | readUnquoted (column : String) (table : QualifiedName) (reported : String)
  /-- A nullable reference matches no entity and is removed. -/
  | optionalUnmatched (entity link target : String)
  /-- A NOT NULL reference matches no entity and stays marked. -/
  | requiredUnmatched (entity foreignKey target : String)
  /-- A nullable reference led to a dropped entity and is removed. -/
  | optionalCleared (entity link : String)
  deriving DecidableEq, Repr

namespace Warning

def message : Warning → String
  | .foreignKeyDropped name source target =>
    s!"dropping foreign key {name} from {source.shown} to {target.shown}: table not in schema"
  | .unnamedColumn table => s!"skipping unnamed column in table {table}"
  | .tableCycle => "NOT NULL foreign keys form a cycle between tables; using discovery order"
  | .readUnquoted column table reported =>
    s!"column {column} of {table.shown} is reported as {reported} by the driver; " ++
      "reading it unquoted"
  | .optionalUnmatched entity link target =>
    s!"{entity}: optional reference {link} matches no {target}, leaving it unset"
  | .requiredUnmatched entity foreignKey target =>
    s!"{entity}: required reference {foreignKey} matches no {target}"
  | .optionalCleared entity link =>
    s!"{entity}: clearing optional reference {link} to a dropped entity"

end Warning

end FixturePlan
