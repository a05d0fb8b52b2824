import FixturePlan.Source.Basic

/-!
# Databases in memory

A database given by the descriptions and the rows of its tables. It answers as a source does, and can
be told to fail at one of its calls.
-/

namespace FixturePlan

/-! ### Tables -/

/-- Rows that arrive together, under the column names reported with them. -/
structure Batch where
  columns : List String
  rows : List (List Cell)
  deriving Repr

namespace Batch

def toRows (b : Batch) : List Row := b.rows.map (Row.mk b.columns)

end Batch

inductive MemoryRows where
  /-- Rows to be cut into batches of the size that is asked for. -/
  | whole (rows : Batch)
  /-- Batches that arrive as they are, empty ones included. -/
  | batched (batches : List Batch)
  deriving Repr

namespace MemoryRows

def batches (fetchSize : Nat) : MemoryRows → List (List Row)
  | .whole rows => Scan.cut fetchSize rows.toRows
  | .batched batches => batches.map (·.toRows)

end MemoryRows

structure MemoryTable where
  /-- The schema of the table; without one it belongs to whatever schema is asked for. -/
  schema : Option String
  name : String
  columns : List ColumnInfo
  primaryKey : List KeyColumn
  importedKeys : List ImportedKey
  rows : MemoryRows
  deriving Repr

/-! ### Faults

At most one kind of call fails, and always in the same way. -/

inductive SourceCall where
  | listTables
  | columns
  | primaryKey
  | importedKeys
  | vendor
  | scan
  | nextBatch
  deriving DecidableEq, Repr

structure Fault where
  call : SourceCall
  /-- The table that is struck; without one every table is. -/
  table : Option String
  /-- The number of batches that still arrive, if batches are struck. -/
  after : Nat
  message : String
  deriving Repr

namespace Fault

/-- Whether a call about a table is struck. -/
def strikes (f : Fault) (call : SourceCall) (table : Option String) : Bool :=
  f.call = call && (f.table.isNone || f.table == table)

def error (f : Fault) : SourceError := .tableNotFound f.message

end Fault

/-! ### Databases -/

structure MemoryDatabase where
  tables : List MemoryTable
  vendor : Vendor
  fault : Option Fault
  deriving Repr

namespace MemoryDatabase

/-- An answer, unless the call is struck. -/
def guarded {α : Type} (db : MemoryDatabase) (call : SourceCall) (table : Option String)
    (answer : Except SourceError α) : Except SourceError α :=
  match db.fault.filter (·.strikes call table) with
  | some fault => .error fault.error
  | none => answer

def find (db : MemoryDatabase) (schema name : String) : Except SourceError MemoryTable :=
  match db.tables.find? fun t => t.name == name && t.schema.getD schema == schema with
  | some t => .ok t
  | none => .error (.tableNotFound s!"{schema}.{name}")

def describe {α : Type} (db : MemoryDatabase) (call : SourceCall) (f : MemoryTable → α)
    (info : TableInfo) : Except SourceError α :=
  db.guarded call (some info.name) ((db.find info.schema info.name).map f)

/-- Batches as far as they arrive. The call that finds no further batch can fail as well. -/
def deliver (db : MemoryDatabase) (table : String) (batches : List (List Row)) : Scan :=
  match db.fault.filter (·.strikes .nextBatch (some table)) with
  | some fault =>
    -- a fault after all batches strikes the call that would have found the end
    if fault.after ≤ batches.length then ⟨batches.take fault.after, some fault.error⟩
    else ⟨batches, none⟩
  | none => ⟨batches, none⟩

def source (db : MemoryDatabase) : Source where
  listTables schema :=
    db.guarded .listTables none
      (.ok (db.tables.map fun t => .table (t.schema.getD schema) t.name))
  columns := db.describe .columns (·.columns)
  primaryKey := db.describe .primaryKey (·.primaryKey)
  importedKeys := db.describe .importedKeys (·.importedKeys)
  vendor _ := db.guarded .vendor none (.ok db.vendor)
  scan schema table fetchSize :=
    db.guarded .scan (some table)
      ((db.find schema table).map fun t => db.deliver table (t.rows.batches fetchSize))

end MemoryDatabase

end FixturePlan
