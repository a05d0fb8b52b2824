import FixturePlan.Schema.Basic

/-!
# Foreign keys as reported

Drivers report foreign keys one column pair at a time. `KeySpec.aggregate` puts the pairs of each
constraint together. A constraint without a name gets one from its table and its place.
-/

namespace FixturePlan

/-! ### Specifications -/

structure PairSpec where
  sequence : Nat
  sourceColumn : String
  targetColumn : String
  deriving DecidableEq, Repr

/-- A foreign key that is not yet part of a schema. -/
structure KeySpec where
  name : String
  sourceTable : QualifiedName
  targetTable : QualifiedName
  pairs : List PairSpec
  deriving DecidableEq, Repr

namespace KeySpec

/-- The name of the `ordinal`-th foreign key of a table that has none of its own. -/
def syntheticName (table : String) (ordinal : Nat) : String := s!"fk_{table}_{ordinal}"

/-! ### Grouping

Pairs belong together if they have one name. A synthetic name may well be the name of another constraint,
and the pairs of both are then put together. -/

/-- The name of the constraint that a reported pair belongs to. -/
def nameOf (table : TableInfo) (row : ImportedKey) : String :=
  row.constraint.getD (syntheticName table.name row.ordinal)

def pairOf (row : ImportedKey) : PairSpec := ⟨row.sequence, row.sourceColumn, row.targetColumn⟩

/-- Add a reported pair to the constraint of its name, or begin that constraint at the end. -/
def addRow (table : TableInfo) (row : ImportedKey) : List KeySpec → List KeySpec
  | [] =>
    [{ name := nameOf table row
       sourceTable := ⟨table.schema, table.name⟩
       targetTable := ⟨row.targetSchema, row.targetTable⟩
       pairs := [pairOf row] }]
  | spec :: rest =>
    if spec.name = nameOf table row then { spec with pairs := spec.pairs ++ [pairOf row] } :: rest
    else spec :: addRow table row rest

/-- Put the pairs in order of their sequence; pairs of one sequence stay as reported. -/
def ordered (spec : KeySpec) : KeySpec :=
  { spec with pairs := spec.pairs.mergeSort fun a b => a.sequence ≤ b.sequence }

/-- The foreign keys of a table, in order of their first pairs. The first pair of a key decides what
table it leads to. -/
def aggregate (table : TableInfo) (rows : List ImportedKey) : List KeySpec :=
  (rows.foldl (fun specs row => addRow table row specs) []).map ordered

end KeySpec

end FixturePlan
