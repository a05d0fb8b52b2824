import FixturePlan.Report
import FixturePlan.Schema.Error
import FixturePlan.Schema.KeySpec

/-!
# Attaching foreign keys

A foreign key becomes part of a schema when both its tables are there; otherwise it is dropped with a
warning. Each attached key is listed by the table it leaves and by the table it leads to.

`Schema.attach` is a pass over the keys: what was attached before a failure stays, and nothing of the
failing key does.
-/

namespace FixturePlan

namespace Schema

/-! ### Adding a key -/

def modifyTable (s : Schema) (id : TableId) (f : Table → Table) : Schema :=
  { s with tables := s.tables.modify id f }

def addKey (s : Schema) (key : ForeignKeyId → ForeignKey) : Schema :=
  let k := key s.foreignKeys.length
  let withOutgoing := s.modifyTable k.source fun t => { t with outgoing := t.outgoing ++ [k.id] }
  -- a self reference is listed twice by its table, once on either side
  let withBoth := withOutgoing.modifyTable k.target fun t =>
    { t with incoming := t.incoming ++ [k.id] }
  { withBoth with foreignKeys := s.foreignKeys ++ [k] }

/-! ### From a specification to a key

A key is nullable if one of its source columns is: a NULL in any of them leaves it without a target. -/

/-- Find the columns of one pair, the source side first. -/
def findPair (spec : KeySpec) (source target : Table) (pair : PairSpec) :
    Except SchemaError KeyPair :=
  match source.columnIndex? pair.sourceColumn with
  | none => .error (.unknownForeignKeyColumn spec.name spec.sourceTable pair.sourceColumn)
  | some sourceIndex =>
    match target.columnIndex? pair.targetColumn with
    | none => .error (.unknownForeignKeyColumn spec.name spec.targetTable pair.targetColumn)
    | some targetIndex => .ok ⟨pair.sourceColumn, pair.targetColumn, sourceIndex, targetIndex⟩

def findPairs (spec : KeySpec) (source target : Table) :
    List PairSpec → Except SchemaError (List KeyPair)
  | [] => .ok []
  | pair :: rest =>
    match findPair spec source target pair with
    | .error e => .error e
    | .ok found =>
      match findPairs spec source target rest with
      | .error e => .error e
      | .ok others => .ok (found :: others)

def admitsNull (t : Table) (column : Nat) : Bool := (t.columns[column]?.map (·.nullable)).getD false

/-- The foreign key that a specification describes, given its two tables. -/
def keyOf (spec : KeySpec) (source target : Table) (pairs : List KeyPair) (id : ForeignKeyId) :
    ForeignKey :=
  { id
    name := spec.name
    source := source.id
    target := target.id
    sourceTable := spec.sourceTable
    targetTable := spec.targetTable
    pairs
    nullable := pairs.any fun p => admitsNull source p.sourceIndex }

/-- The two tables of a specification, if both are in the schema. -/
def endpoints? (s : Schema) (spec : KeySpec) : Option (Table × Table) := do
  let source ← s.find? spec.sourceTable >>= s.table?
  let target ← s.find? spec.targetTable >>= s.table?
  return (source, target)

/-! ### The pass -/

/-- A schema under construction, with the keys that a pass has attached so far. -/
structure Attached where
  schema : Schema
  keys : List ForeignKeyId

def attachOne (a : Attached) (spec : KeySpec) : Pass SchemaError Attached :=
  match a.schema.endpoints? spec with
  | none => .noting a (.foreignKeyDropped spec.name spec.sourceTable spec.targetTable)
  | some (source, target) =>
    match findPairs spec source target spec.pairs with
    | .error e => .failing a e
    | .ok pairs =>
      .done { schema := a.schema.addKey (keyOf spec source target pairs)
              keys := a.keys ++ [a.schema.foreignKeys.length] }

/-- Attach foreign keys one after the other. -/
def attach (s : Schema) (specs : List KeySpec) : Pass SchemaError Attached :=
  Pass.run attachOne ⟨s, []⟩ specs

end Schema

end FixturePlan
