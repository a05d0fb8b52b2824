import FixturePlan.Database.Catalog

/-!
# Scans of a database

An ordinary table is read page by page in order of its row numbers: each page takes up after the last
number of the page before, so that rows which come or go in between disturb nothing. Everything else
is read in order of its primary key, a page at a time by position. Every page is queried from the
database as it is by then. A short page ends the scan.

Whether a table is an ordinary one is looked up under its name as written, while everything else about
it is found in any case. So an ordinary table that is asked for in another case is read by position.

A column named like the row number takes its place. Rows then may share a number, of which those that
do not fit on a page are passed over; rows without a number are left out; and a number that is not
whole ends the scan.
-/

namespace FixturePlan.Database

/-! ### Statements

A scan asks the database either for the rows from a number on or for all rows in some order. Neither
statement says how ties are broken; that is up to the index which the database goes through, and so the
columns of the indexes are part of the model. -/

/-- A row with what its table calls its number. -/
structure NumberedRow where
  number : Cell
  row : Row

/-- The columns of the indexes of a table in the order of their creation. Those of its constraints come
first, among them the primary key, unless it is created in the end because it stands in for row numbers.
In a table without these the key holds every column, and an index declared by itself holds the columns
of the key besides its own. -/
def indexColumns (db : Database) (t : TableDef) : List (List Nat) :=
  let (others, columns) :=
    if t.withoutRowid then (t.keyPositions, List.range t.columns.length) else ([], [])
  let key := t.keyPositions ++ columns
  -- a constraint that names a column there is not makes no index
  let unique := t.unique.filterMap (·.mapM t.position?)
  let constraints := if t.integerKey?.isSome then unique ++ [key] else key :: unique
  let declared := (db.indexes.filter fun i => sameName i.table t.name).filterMap
    (·.columns.mapM t.position?)
  -- of constraints on the same columns only one has an index
  constraints.eraseDups ++ declared.map (· ++ others)

def latestIndex (db : Database) (t : TableDef) (p : List Nat → Bool) : List Nat :=
  ((db.indexColumns t).reverse.find? p).getD []

/-- The rows of a table in order of their numbers. Rows that share a number come in the order of an index
on it, if there is one. -/
def numberedRows (db : Database) (t : StoredTable) : List NumberedRow :=
  let names := t.declaration.columns.map (·.name)
  -- the number itself is in no index, so this is one on the column that bears its name
  let byNumber := db.latestIndex t.declaration fun columns =>
    columns.head?.any (StoredTable.shadowColumn? t.declaration == some ·)
  let rows := (StoredTable.sortBy byNumber t.ordered).map fun r =>
    NumberedRow.mk (t.rowidCell r) ⟨names, r.cells⟩
  rows.mergeSort fun a b => (a.number.storageOrder b.number).isLE

/-- Whether the number of a row is at least some whole number, as the table compares it. NULL is not. -/
def reaches (t : StoredTable) (next : Int) (r : NumberedRow) : Bool :=
  let bound := (StoredTable.rowidAffinity t.declaration).compared next
  !r.number.isNull && (r.number.storageOrder bound).isGE

def pageFrom (db : Database) (name : String) (next : Int) (limit : Nat) :
    Except SourceError (List NumberedRow) :=
  match db.table? name with
  | some t => .ok (((db.numberedRows t).filter (reaches t next)).take limit)
  | none => .error (.engine s!"no such table: {name}")

/-- The rows of a table in order of some of its columns, and otherwise as the database goes through
them. -/
def rowsBy (t : StoredTable) (positions : List Nat) : List Row :=
  let names := t.declaration.columns.map (·.name)
  (StoredTable.sortBy positions t.ordered).map fun r => ⟨names, r.cells⟩

/-- The columns by which a view goes through a table: by its row numbers, or else by the latest index
that holds every column. -/
def viewOrder (db : Database) (t : TableDef) : List Nat :=
  if t.withoutRowid then
    db.latestIndex t fun columns => (List.range t.columns.length).all columns.contains
  else []

def rowsInOrder (db : Database) (name : String) (order : List String) :
    Except SourceError (List Row) :=
  match db.table? name, db.view? name with
  | some t, _ => .ok (rowsBy t (order.filterMap t.declaration.position?))
  | none, some v => (db.baseTable v).map fun t => rowsBy t (db.viewOrder t.declaration)
  | none, none => .error (.engine s!"no such table: {name}")

/-! ### Opening

How a scan pages is settled when it is opened and stays so, whatever becomes of the table. -/

/-- Whether a table is read by row numbers. Here the names of schema and table count as written. -/
def hasRowid (db : Database) (schema name : String) : Bool :=
  schema == "main" &&
    db.tables.any fun t => t.declaration.name == name && !t.declaration.withoutRowid

/-- The greatest number of rows that room can be made for: a row takes 40 bytes of memory, and a piece of
memory has less than `2 ^ 63` bytes. -/
def greatestBatch : Nat := (Nat.pow 2 63 - 1) / 40

inductive Paging where
  /-- By row numbers, of which the least that has not been read is kept. -/
  | byNumber (next : Int)
  /-- By position in the order of some columns. The number of rows read so far is kept. -/
  | byPosition (order : List String) (offset : Nat)
  deriving DecidableEq, Repr

structure Cursor where
  name : String
  fetchSize : Nat
  fetchSize_pos : 0 < fetchSize
  paging : Paging
  done : Bool
  deriving DecidableEq, Repr

/-- Open a scan of a table or view. At least one row is fetched at a time. -/
def openCursor (db : Database) (schema name : String) (fetchSize : Nat) : Except SourceError Cursor :=
  let start (paging : Paging) : Cursor :=
    ⟨name, max fetchSize 1, Nat.le_max_right fetchSize 1, paging, false⟩
  if db.hasRowid schema name then .ok (start (.byNumber Number.leastInt64))
  else
    (db.primaryKey (.table schema name)).map fun key =>
      start (.byPosition (key.map (·.column)) 0)

/-! ### Fetching

A batch is the answer to one statement. The reader makes room for as many rows as it has asked for before
it looks at the first of them, and it goes through the numbers of all rows of a page, although only the
last of them decides where the next page begins. -/

def wholeNumber (r : NumberedRow) : Except SourceError Int :=
  match r.number with
  | .integer n => .ok n
  | _ => .error (.engine "Invalid column type for rowid")

/-- The last number of a page, if it has rows, all of which have to have whole numbers. -/
def lastNumber? (page : List NumberedRow) : Except SourceError (Option Int) :=
  page.foldlM (fun _ r => (wholeNumber r).map some) none

def following? (n : Int) : Option Int := if n = Number.greatestInt64 then none else some (n + 1)

namespace Cursor

/-- What a statement answers, once room has been made for all rows that may come, however few there are.
So much memory as cannot be addressed is never had. -/
def withRoom {α : Type} (c : Cursor) (found : Except SourceError α) : Except SourceError α :=
  found.bind fun a => if c.fetchSize ≤ greatestBatch then .ok a else .error .capacityOverflow

/-- The answer to a request for a batch: a page without rows is the end. -/
def answer (page : List Row) : Option (List Row) := if page.isEmpty then none else some page

/-- Ask for the next batch. A failure leaves the cursor where it was. -/
def nextBatch (db : Database) (c : Cursor) : Except SourceError (Option (List Row)) × Cursor :=
  if c.done then (.ok none, c) -- no further statement
  else
    match c.paging with
    | .byNumber next =>
      match (c.withRoom (db.pageFrom c.name next c.fetchSize)).bind fun page =>
          (lastNumber? page).map fun last => (page.map (·.row), last) with
      | .error e => (.error e, c)
      | .ok (page, last) =>
        match last.bind following? with
        | some after =>
          (.ok (answer page),
            { c with paging := .byNumber after, done := decide (page.length < c.fetchSize) })
        -- a page without rows, or one that ends with the greatest number there is
        | none => (.ok (answer page), { c with done := true })
    | .byPosition order offset =>
      match c.withRoom (db.rowsInOrder c.name order) with
      | .error e => (.error e, c)
      | .ok rows =>
        let page := (rows.drop offset).take c.fetchSize
        (.ok (answer page),
          { c with
            paging := .byPosition order (offset + page.length)
            done := decide (page.length < c.fetchSize) })

/-- The batches of a number of calls, up to the end or to a failure. -/
def drain (db : Database) : (calls : Nat) → Cursor → Scan
  | 0, _ => ⟨[], none⟩
  | calls + 1, c =>
    match c.nextBatch db with
    | (.error e, _) => ⟨[], some e⟩
    | (.ok none, _) => ⟨[], none⟩
    | (.ok (some batch), c') =>
      let others := drain db calls c'
      ⟨batch :: others.batches, others.failure⟩

def after (db : Database) (c : Cursor) : (calls : Nat) → Cursor
  | 0 => c
  | calls + 1 => after db (c.nextBatch db).2 calls

def reportsEnd (db : Database) (c : Cursor) : Bool :=
  match (c.nextBatch db).1 with
  | .ok none => true
  | _ => false

end Cursor

/-! ### Whole scans -/

/-- All batches of a table or view. A call that is not the last takes at least one row, so that more calls
than there are rows reach the end. -/
def scan (db : Database) (schema name : String) (fetchSize : Nat) : Except SourceError Scan :=
  (db.openCursor schema name fetchSize).map fun c =>
    c.drain db ((db.tables.flatMap (·.rows)).length + 1)

/-- Whether one more call reports the end again, after the one that ended a scan of some batches. -/
def staysEnded (db : Database) (schema name : String) (fetchSize batches : Nat) : Bool :=
  match db.openCursor schema name fetchSize with
  | .ok c => (c.after db (batches + 1)).reportsEnd db
  | .error _ => false

def source (db : Database) : Source where
  listTables := db.listTables
  columns := db.columns
  primaryKey := db.primaryKey
  importedKeys := db.importedKeys
  vendor := db.vendor
  scan := db.scan

end FixturePlan.Database
