import FixturePlan.Source.Basic
import FixturePlan.Schema.Name

/-!
# Schemas

Tables, their columns and the foreign keys between them. Tables and keys refer to each other, so the
schema owns both in two lists and the references are positions in these lists: a key names its two
tables, and a table lists the keys that leave it and the keys that lead to it.

Two foreign keys are the same key if they agree in `ForeignKey.identity`, in which the positions of
tables and keys play no part.
-/

namespace FixturePlan

/-! ### Tables and columns

Columns are referred to by their positions in the table, and the numbers of tables and keys are their
positions in the schema. -/

structure DataType where
  name : String
  code : TypeCode
  nullable : Bool
  /-- The number of digits, of numeric types only. -/
  precision : Option Nat
  /-- The number of digits after the point, of numeric types only. -/
  scale : Option Nat
  deriving DecidableEq, Repr

structure Column where
  name : String
  dataType : DataType
  nullable : Bool
  unique : Bool
  deriving DecidableEq, Repr

structure Table where
  id : TableId
  name : QualifiedName
  columns : List Column
  /-- The positions of the key columns, in the order of the key. -/
  primaryKey : List Nat
  outgoing : List ForeignKeyId
  incoming : List ForeignKeyId
  deriving DecidableEq, Repr

namespace Table

def columnIndex? (t : Table) (name : String) : Option Nat := t.columns.findIdx? (·.name == name)

def column? (t : Table) (name : String) : Option Column := t.columns.find? (·.name == name)

def inPrimaryKey (t : Table) (column : Nat) : Bool := t.primaryKey.contains column

def keyColumns (t : Table) : List Column := t.primaryKey.filterMap (t.columns[·]?)

end Table

/-! ### Foreign keys

A pair holds its columns by name and by position. The positions count when pairs are compared, although
in a table of a schema the name of a column is enough to find it. -/

structure KeyPair where
  sourceColumn : String
  targetColumn : String
  sourceIndex : Nat
  targetIndex : Nat
  deriving DecidableEq, Hashable, Repr

/-- A foreign key of one or more column pairs. -/
structure ForeignKey where
  id : ForeignKeyId
  name : String
  source : TableId
  target : TableId
  sourceTable : QualifiedName
  targetTable : QualifiedName
  pairs : List KeyPair
  /-- Whether some source column admits NULL. -/
  nullable : Bool
  deriving DecidableEq, Repr

namespace ForeignKey

/-- Whether a key leads back to the table it leaves. -/
def isSelfReference (k : ForeignKey) : Bool := k.source == k.target

def hasSource (k : ForeignKey) (column : Nat) : Bool := k.pairs.any (·.sourceIndex == column)

def hasTarget (k : ForeignKey) (column : Nat) : Bool := k.pairs.any (·.targetIndex == column)

/-- What makes a foreign key the key it is. -/
structure Identity where
  name : String
  sourceTable : QualifiedName
  targetTable : QualifiedName
  pairs : List KeyPair
  deriving DecidableEq, Hashable, Repr

def identity (k : ForeignKey) : Identity := ⟨k.name, k.sourceTable, k.targetTable, k.pairs⟩

/-- Whether two keys, of one schema or of two, are the same key. -/
def same (a b : ForeignKey) : Bool := a.identity == b.identity

/-- A hash under which equal keys agree. -/
def hash (k : ForeignKey) : UInt64 := Hashable.hash k.identity

/-- The key with its tables and columns in words. -/
def shown (k : ForeignKey) : String :=
  let sources := ", ".intercalate (k.pairs.map (·.sourceColumn))
  let targets := ", ".intercalate (k.pairs.map (·.targetColumn))
  s!"{k.name} ({k.sourceTable.shown}({sources}) -> {k.targetTable.shown}({targets}))"

end ForeignKey

/-! ### Schemas

A table lists its keys by number. A number that is not one of a key of the schema is passed over. -/

/-- A schema: its tables, the foreign keys between them, and what the driver adds. -/
structure Schema where
  name : String
  tables : List Table
  foreignKeys : List ForeignKey
  vendor : Vendor
  deriving Repr

namespace Schema

def empty (name : String) : Schema := ⟨name, [], [], ∅⟩

def table? (s : Schema) (id : TableId) : Option Table := s.tables[id]?

def foreignKey? (s : Schema) (id : ForeignKeyId) : Option ForeignKey := s.foreignKeys[id]?

def find? (s : Schema) (name : QualifiedName) : Option TableId :=
  (s.tables.find? (·.name = name)).map (·.id)

def findByName? (s : Schema) (name : String) : Option TableId := s.find? ⟨s.name, name⟩

def outgoing (s : Schema) (t : Table) : List ForeignKey := t.outgoing.filterMap s.foreignKey?

def incoming (s : Schema) (t : Table) : List ForeignKey := t.incoming.filterMap s.foreignKey?

/-- Whether a column takes part in a foreign key, on either side. -/
def inForeignKey (s : Schema) (t : Table) (column : Nat) : Bool :=
  (s.outgoing t).any (·.hasSource column) || (s.incoming t).any (·.hasTarget column)

end Schema

end FixturePlan
