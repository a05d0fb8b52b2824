import FixturePlan.Plan.Document
import FixturePlan.Schema.CreationOrder

/-!
# Summaries

What the commands print: the schema in an outline, and the entities in order of creation.
-/

namespace FixturePlan.Cli

/-- Lines of text, each with its end. -/
def lines (ls : List String) : String := String.join (ls.map (· ++ "\n"))

/-! ### Schemas -/

def bareName (s : Schema) (id : TableId) : String := ((s.table? id).map (·.name.name)).getD ""

def keyLine (k : ForeignKey) : String :=
  let kind := if k.nullable then "nullable" else "required"
  s!"    -> {k.shown} [{kind}]"

/-- The lines of a table: its columns and its key, and then the foreign keys that leave it. -/
def tableLines (s : Schema) (t : Table) : List String :=
  let names := t.keyColumns.map (·.name)
  let key := if names.isEmpty then "none" else ", ".intercalate names
  s!"  {t.name.name} ({t.columns.length} columns, key: {key})" :: (s.outgoing t).map keyLine

def joinLine (s : Schema) (entry : TableId × TableId × List ConstructorArg) : String :=
  let (anchor, join, args) := entry
  let parameters := ", ".intercalate (args.map (·.shown))
  s!"  {bareName s anchor} via {bareName s join}: ({parameters})"

/-- The lines of the constructors of join rows, if there are any. -/
def joinLines (s : Schema) (joins : JoinShapes) : List String :=
  if joins.isEmpty then [] else "" :: "Join tables:" :: joins.all.map (joinLine s)

def schemaSummary (s : Schema) (joins : JoinShapes) : String :=
  let order := ", ".intercalate (s.creationOrder.map (bareName s))
  lines ([s!"Schema: {s.name}", ""] ++ s.tables.flatMap (tableLines s) ++ joinLines s joins ++
    ["", s!"Creation order: {order}"])

/-! ### Plans -/

def rightAligned (width n : Nat) : String :=
  let digits := toString n
  String.ofList (List.replicate (width - digits.length) ' ') ++ digits

/-- The entities of a plan in order of creation, numbered from 1. -/
def orderSummary (p : Plan) : String :=
  lines (p.labels.zipIdx.map fun (label, i) => rightAligned 5 (i + 1) ++ "  " ++ label)

end FixturePlan.Cli
