import FixturePlan.Database.ColumnType
import FixturePlan.Database.StorageOrder

/-!
# Relational databases

A SQLite database: tables with their rows, indexes and views. Names of tables and columns are looked
up without regard to the case of ASCII letters.

The rows of an ordinary table are numbered. The number is the value of the primary key where that is a
single `INTEGER` column, and else one more than the greatest so far. A table declared `WITHOUT ROWID`
has no such numbers; its rows stand in order of the primary key.
-/

namespace FixturePlan

/-! ### Declarations

A primary key lists its columns by name, and the names of a declaration need not be those of columns. An
index is one that is declared by itself; those that come with constraints are not listed. -/

structure ColumnDef where
  name : String
  /-- The declared type; it may be empty. -/
  type : String
  notNull : Bool
  deriving DecidableEq, Repr

structure ForeignKeyDef where
  columns : List String
  table : String
  /-- The columns it leads to; without any it leads to the primary key. -/
  target : List String
  deriving DecidableEq, Repr

structure TableDef where
  name : String
  columns : List ColumnDef
  primaryKey : List String
  unique : List (List String)
  foreignKeys : List ForeignKeyDef
  withoutRowid : Bool
  deriving DecidableEq, Repr

structure IndexDef where
  name : String
  table : String
  unique : Bool
  columns : List String
  deriving DecidableEq, Repr

/-- The declaration of a view of all columns of a table. -/
structure ViewDef where
  name : String
  table : String
  deriving DecidableEq, Repr

/-! ### Contents -/

/-- A row as it is stored, with its number. -/
structure StoredRow where
  rowid : Int
  cells : List Cell
  deriving DecidableEq, Repr

/-- A table with its rows in the order of their insertion. -/
structure StoredTable where
  declaration : TableDef
  rows : List StoredRow
  deriving Repr

structure Database where
  tables : List StoredTable
  indexes : List IndexDef
  views : List ViewDef
  deriving Repr

/-- Whether two names are the same but for the case of ASCII letters. -/
def sameName (a b : String) : Bool := Text.asciiLowercase a == Text.asciiLowercase b

namespace TableDef

def position? (t : TableDef) (name : String) : Option Nat :=
  t.columns.findIdx? fun c => sameName c.name name

/-- The positions of the columns of the primary key, in the order of the key. A table without row
numbers leaves out what is named again. -/
def keyPositions (t : TableDef) : List Nat :=
  let positions := t.primaryKey.filterMap t.position?
  if t.withoutRowid then positions.eraseDups else positions

/-- The only column of the primary key, if it is of type `INTEGER`. -/
def integerKey? (t : TableDef) : Option Nat :=
  match t.primaryKey with
  | [name] => (t.position? name).filter fun position =>
    t.columns[position]?.any fun c => sameName (DeclaredType.reported c.type) "INTEGER"
  | _ => none

def rowidColumn? (t : TableDef) : Option Nat := if t.withoutRowid then none else t.integerKey?

end TableDef

/-! ### Values

A column converts what is put into it to the kind that it prefers, if nothing is lost. A truth value is
a whole number to the database. -/

namespace Affinity

/-- A whole number as a column of an affinity keeps it. -/
def storeInt (n : Int) : Affinity → Cell
  | .real => .real (.ofInt n)
  | .text => .text (toString n)
  | _ => .integer n

/-- A value as a column of an affinity keeps it. A float that is no number counts as NULL. Whole
numbers and floats change places where the column prefers the other, which costs a float zero its
sign. -/
def store (affinity : Affinity) (cell : Cell) : Cell :=
  match affinity, cell with
  | _, .integer n => affinity.storeInt n
  | _, .boolean b => affinity.storeInt (if b then 1 else 0)
  | _, .real x =>
    if x.isNaN then .null
    else
      match affinity, (Number.Binary64.ofFloat x).toInt? with
      -- a column of floats keeps whole numbers as such, and they have no negative zero
      | .real, some 0 => .real 0.0
      | .integer, some n | .numeric, some n =>
        -- the ends of the range stay floats
        if Number.leastInt64 < n && n < Number.greatestInt64 then .integer n else .real x
      | _, _ => .real x
  | _, c => c

/-- A whole number as a column of an affinity compares with it: text compares with its digits. -/
def compared (n : Int) : Affinity → Cell
  | .text => .text (toString n)
  | _ => .integer n

end Affinity

/-! ### Rows

The number of a row is not one of its cells, unless a column takes its place: an only key column of type
`INTEGER` is the number itself. Quite another matter is a column that is merely named `rowid`. It hides
the number from every query that asks for it. -/

namespace StoredTable

def empty (declaration : TableDef) : StoredTable := ⟨declaration, []⟩

/-- The number for the next row that brings none of its own. -/
def nextRowid (t : StoredTable) : Int :=
  match (t.rows.map (·.rowid)).max? with
  | none => 1
  | some greatest => greatest + 1

def row (t : StoredTable) (cells : List Cell) : StoredRow :=
  let kept := cells.zipIdx.map fun (cell, i) =>
    match t.declaration.columns[i]? with
    | some c => (DeclaredType.affinity c.type).store cell
    | none => cell
  -- the number goes into the key column as well, in the place of a NULL
  match t.declaration.rowidColumn? with
  | none => ⟨t.nextRowid, kept⟩
  | some position =>
    let rowid := match kept[position]? with
      | some (.integer n) => n
      | _ => t.nextRowid
    ⟨rowid, kept.set position (.integer rowid)⟩

def insert (t : StoredTable) (cells : List Cell) : StoredTable :=
  { t with rows := t.rows ++ [t.row cells] }

def sortBy (positions : List Nat) (rows : List StoredRow) : List StoredRow :=
  -- stable: rows that agree in these columns stay as they are
  let key (r : StoredRow) : List Cell := positions.map fun i => (r.cells[i]?).getD .null
  rows.mergeSort fun a b => (Cell.compareLists Cell.storageOrder (key a) (key b)).isLE

/-- The rows as the database goes through them: by their numbers, or by the primary key in a table
without numbers. -/
def ordered (t : StoredTable) : List StoredRow :=
  if t.declaration.withoutRowid then sortBy t.declaration.keyPositions t.rows
  else t.rows.mergeSort fun a b => a.rowid ≤ b.rowid

/-- The column that takes the place of the row numbers because it bears their name. -/
def shadowColumn? (t : TableDef) : Option Nat := t.position? "rowid"

/-- What a query of this table calls the number of a row. -/
def rowidCell (t : StoredTable) (r : StoredRow) : Cell :=
  match shadowColumn? t.declaration with
  | some position => (r.cells[position]?).getD .null
  | none => .integer r.rowid

/-- The affinity of what a query of this table calls the number of a row. -/
def rowidAffinity (t : TableDef) : Affinity :=
  match shadowColumn? t >>= (t.columns[·]?) with
  | some c => DeclaredType.affinity c.type
  | none => .integer

/-- Remove the rows of a number, and say how many there were. -/
def delete (t : StoredTable) (rowid : Int) : StoredTable × Nat :=
  let number := (rowidAffinity t.declaration).compared rowid
  let struck (r : StoredRow) : Bool := (t.rowidCell r).storageOrder number == .eq
  ({ t with rows := t.rows.filter (!struck ·) }, t.rows.countP struck)

end StoredTable

/-! ### Looking up -/

namespace Database

def empty : Database := ⟨[], [], []⟩

def isBlank (db : Database) : Bool := db.tables.isEmpty && db.indexes.isEmpty && db.views.isEmpty

def table? (db : Database) (name : String) : Option StoredTable :=
  db.tables.find? fun t => sameName t.declaration.name name

def view? (db : Database) (name : String) : Option ViewDef :=
  db.views.find? fun v => sameName v.name name

def modify (db : Database) (name : String) (f : StoredTable → StoredTable) : Database :=
  { db with tables := db.tables.map fun t => if sameName t.declaration.name name then f t else t }

end Database

end FixturePlan
