import FixturePlan.Database.Catalog

/-!
# Changes of a database

Rows come and go by statements. A row is added only if it keeps what its table declares: as many values
as there are columns, no NULL where none may be, and no second row with the same values in columns that
have to be unique, where NULL is never the same. A statement on a table that is not there fails, and so
does one that asks for row numbers where there are none.
-/

namespace FixturePlan

namespace StoredTable

/-- Whether two rows have the same values in some columns; a NULL is never the same. -/
def agree (positions : List Nat) (a b : StoredRow) : Bool :=
  positions.all fun i =>
    match a.cells[i]?, b.cells[i]? with
    | some x, some y => !x.isNull && x.storageOrder y == .eq
    | _, _ => false

def fits (t : StoredTable) (cells : List Cell) : Bool :=
  -- the columns of a primary key admit NULL in an ordinary table
  let key := if t.declaration.withoutRowid then t.declaration.keyPositions else []
  let row := t.row cells
  cells.length == t.declaration.columns.length &&
    (t.declaration.columns.zip row.cells).zipIdx.all fun ((c, cell), i) =>
      !(cell.isNull && (c.notNull || key.contains i))

def hasWholeNumber (t : StoredTable) (cells : List Cell) : Bool :=
  -- a NULL stands for the next number
  match t.declaration.rowidColumn? >>= (cells[·]?) with
  | some .null | none => true
  | some cell => cell.storageOrder (.integer (t.row cells).rowid) == .eq

end StoredTable

namespace Database

/-! ### Statements -/

/-- The columns that have to be unique together, for each constraint on a table. -/
def uniqueTogether (db : Database) (t : TableDef) : List (List Nat) :=
  let indexes := db.indexes.filter fun i => i.unique && sameName i.table t.name
  ((t.primaryKey :: t.unique ++ indexes.map (·.columns)).filterMap (·.mapM t.position?)).filter
    (!·.isEmpty)

def accepts (db : Database) (t : StoredTable) (cells : List Cell) : Bool :=
  t.fits cells && t.hasWholeNumber cells &&
    (db.uniqueTogether t.declaration).all fun positions =>
      !t.rows.any (StoredTable.agree positions (t.row cells))

def insertRow (db : Database) (name : String) (cells : List Cell) : Except SourceError Database :=
  match db.table? name with
  | none => .error (.engine s!"no such table: {name}")
  | some t =>
    if db.accepts t cells then .ok (db.modify name (·.insert cells))
    else .error (.engine "constraint failed")

/-- Add rows to the table of a name one after the other, up to the first that it does not take. -/
def insert (db : Database) (name : String) : List (List Cell) → Database × Except SourceError Unit
  | [] => (db, .ok ())
  | cells :: rest =>
    match db.insertRow name cells with
    | .ok db' => insert db' name rest
    | .error e => (db, .error e)

/-- Remove the rows of a number from the table of a name, and say how many there were. -/
def delete (db : Database) (name : String) (rowid : Int) : Except SourceError (Database × Nat) :=
  match db.table? name with
  | none => .error (.engine s!"no such table: {name}")
  | some t =>
    if t.declaration.withoutRowid && (StoredTable.shadowColumn? t.declaration).isNone then
      .error (.engine "no such column: rowid")
    else
      let (_, count) := t.delete rowid
      -- rows are struck by what the table calls their number, which need not be the number
      .ok (db.modify name fun s => (s.delete rowid).1, count)

end Database

end FixturePlan
