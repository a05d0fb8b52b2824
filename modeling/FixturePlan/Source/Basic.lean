import FixturePlan.SortedMap
import FixturePlan.Source.Cell
import FixturePlan.Source.TypeCode

/-!
# Sources

A source describes the tables of a database and scans their rows. It is a record of functions, so
that everything built on it holds for every database that can answer these questions.

A scan is the list of the batches that it delivers, empty ones included, together with the failure
that ends it if it does not end by itself.
-/

namespace FixturePlan

/-! ### Failures -/

inductive SourceError where
  /-- The database engine refused a statement. -/
  | engine (detail : String)
  | openFailed (path detail : String)
  | tableNotFound (table : String)
  /-- More rows were asked for at once than memory can be addressed for. No caller is told: the whole
  program ends here. -/
  | capacityOverflow
  deriving DecidableEq, Repr

namespace SourceError

def message : SourceError → String
  | .engine detail => s!"SQLite error: {detail}"
  | .openFailed path detail => s!"failed to open database '{path}': {detail}"
  | .tableNotFound table => s!"table not found: {table}"
  | .capacityOverflow => "capacity overflow"

/-- Whether a failure ends the program in place of being reported. -/
def isCrash : SourceError → Bool
  | .capacityOverflow => true
  | _ => false

end SourceError

/-! ### Descriptions -/

structure TableInfo where
  schema : String
  name : String
  kind : String
  deriving DecidableEq, Repr

namespace TableInfo

def table (schema name : String) : TableInfo := ⟨schema, name, "table"⟩

end TableInfo

structure ColumnInfo where
  /-- Some drivers report columns without a name. -/
  name : Option String
  position : Int
  typeName : String
  typeCode : TypeCode
  nullable : Bool
  unique : Bool
  precision : Option Nat
  scale : Option Nat
  deriving DecidableEq, Repr

/-- A column of a primary key, with its place in the key. -/
structure KeyColumn where
  column : String
  sequence : Nat
  deriving DecidableEq, Repr

structure ImportedKey where
  /-- The name of the constraint, where the database keeps one. -/
  constraint : Option String
  /-- The place of the constraint among those of its table, from 1. -/
  ordinal : Nat
  sourceColumn : String
  targetSchema : String
  targetTable : String
  targetColumn : String
  /-- The place of the pair within the constraint. -/
  sequence : Nat
  deriving DecidableEq, Repr

/-- What a driver says about a schema beyond tables: it is passed on untouched. -/
abbrev Vendor := SortedMap String Json

/-! ### Scans -/

/-- The rows of a table as they arrive. -/
structure Scan where
  batches : List (List Row)
  failure : Option SourceError
  deriving Repr

namespace Scan

/-- All rows in order, however they were cut into batches. -/
def rows (s : Scan) : List Row := s.batches.flatten

/-- Cut a list into parts of a size; the last one may be shorter. A size of zero counts as one. -/
def cut {α : Type} (size : Nat) : List α → List (List α)
  | [] => []
  | a :: rest => (a :: rest.take (size - 1)) :: cut size (rest.drop (size - 1))
termination_by as => as.length
decreasing_by
  rw [List.length_drop, List.length_cons]
  omega

end Scan

/-! ### Sources

Each function is the answer to one call. None of them has a state, so a source says the same whenever it
is asked. -/

structure Source where
  listTables : (schema : String) → Except SourceError (List TableInfo)
  columns : TableInfo → Except SourceError (List ColumnInfo)
  primaryKey : TableInfo → Except SourceError (List KeyColumn)
  importedKeys : TableInfo → Except SourceError (List ImportedKey)
  vendor : (schema : String) → Except SourceError Vendor
  /-- The rows of a table, in batches of at most `fetchSize`. -/
  scan : (schema table : String) → (fetchSize : Nat) → Except SourceError Scan

namespace Source

def failing (e : SourceError) : Source where
  listTables _ := .error e
  columns _ := .error e
  primaryKey _ := .error e
  importedKeys _ := .error e
  vendor _ := .error e
  scan _ _ _ := .error e

end Source

end FixturePlan
