import FixturePlan.Database.Statement
import FixturePlan.Source.Basic

/-!
# Catalogs

What a database says about its tables and views: their columns, primary keys and foreign keys, and the
statements that declare them. A database has two schemas, `main` and the empty `temp`, in any case.

Foreign keys have no names here. The database lists them from the latest declaration to the earliest;
they are reported in order of the positions of their first columns, and where these agree as listed.
-/

namespace FixturePlan.Database

def notDatabase : SourceError := .engine "file is not a database"

/-! ### Columns

The columns of a view are those of the table that it shows, possibly by way of further views, and nothing
is known about them but name and type. -/

structure CatalogColumn where
  name : String
  type : String
  notNull : Bool
  /-- The place in the primary key, from 1. -/
  keySequence : Option Nat
  unique : Bool
  deriving DecidableEq, Repr

/-- The positions of the columns that are unique by themselves. A primary key that names a single
column makes it unique however often it does so; in other constraints a name counts again. -/
def uniquePositions (db : Database) (t : TableDef) : List Nat :=
  let indexes := db.indexes.filter fun i => i.unique && sameName i.table t.name
  let constraints := (t.unique ++ indexes.map (·.columns)).filterMap (·.mapM t.position?)
  (t.keyPositions.eraseDups :: constraints).filterMap fun
    | [position] => some position
    | _ => none

def tableColumns (db : Database) (t : TableDef) : List CatalogColumn :=
  let unique := db.uniquePositions t
  t.columns.zipIdx.map fun (c, i) =>
    -- a column that the key names twice counts at its first place
    let place := t.keyPositions.findIdx? (· == i)
    { name := c.name
      type := DeclaredType.reported c.type
      notNull := c.notNull || t.withoutRowid && place.isSome
      keySequence := place.map (· + 1)
      unique := unique.contains i }

/-- The table at the end of a chain of views, of which there are at most as many as there are
views. -/
def viewedTable? (db : Database) : (fuel : Nat) → (name : String) → Option StoredTable
  | 0, name => db.table? name
  | fuel + 1, name =>
    match db.view? name with
    | some v => viewedTable? db fuel v.table
    | none => db.table? name

def baseTable (db : Database) (v : ViewDef) : Except SourceError StoredTable :=
  match db.viewedTable? db.views.length v.table with
  | some t => .ok t
  | none => .error (.engine s!"no such table: main.{v.table}")

def viewColumns (t : TableDef) : List CatalogColumn :=
  t.columns.map fun c =>
    { name := c.name, type := DeclaredType.reportedByView c.type, notNull := false
      keySequence := none, unique := false }

/-- The columns of a table or view of the schema `main`; none if there is none of the name. -/
def mainColumns (db : Database) (name : String) : Except SourceError (List CatalogColumn) :=
  match db.table? name, db.view? name with
  | some t, _ => .ok (db.tableColumns t.declaration)
  | none, some v => (db.baseTable v).map fun t => viewColumns t.declaration
  | none, none => .ok []

/-! ### Schemas -/

/-- An answer about the schema `main`, or the answer that fits the empty schema. -/
def inSchema {α : Type} (schema : String) (main : Except SourceError α) (none : α) :
    Except SourceError α :=
  if sameName schema "main" then main
  else if sameName schema "temp" then .ok none
  else .error (.engine s!"unknown database {schema}")

/-- The columns of a table or view, of which there is at least one. -/
def catalogColumns (db : Database) (info : TableInfo) : Except SourceError (List CatalogColumn) :=
  match inSchema info.schema (db.mainColumns info.name) [] with
  | .ok [] => .error (.tableNotFound s!"{info.schema}.{info.name}")
  | answer => answer

/-- The tables of a schema in order of their declaration. -/
def listTables (db : Database) (schema : String) : Except SourceError (List TableInfo) :=
  let names := (db.tables.map (·.declaration.name)).filter (!isReserved ·)
  inSchema schema (.ok (names.map (.table schema))) []

/-! ### In the form of a source -/

/-- A column in the form of a source. A column of the primary key counts as NOT NULL. -/
def describeColumn (entry : CatalogColumn × Nat) : ColumnInfo :=
  let (c, position) := entry
  let (precision, scale) := DeclaredType.arguments c.type
  { name := some c.name
    position
    typeName := c.type
    typeCode := DeclaredType.code c.type
    nullable := !c.notNull && c.keySequence.isNone
    unique := c.unique
    precision
    scale }

def columns (db : Database) (info : TableInfo) : Except SourceError (List ColumnInfo) :=
  (db.catalogColumns info).map fun cs => cs.zipIdx.map describeColumn

/-- The columns of the primary key in order of the key. -/
def primaryKey (db : Database) (info : TableInfo) : Except SourceError (List KeyColumn) :=
  (db.catalogColumns info).map fun cs =>
    (cs.filterMap fun c => c.keySequence.map (KeyColumn.mk c.name)).mergeSort
      fun a b => a.sequence ≤ b.sequence

/-! ### Foreign keys

A key that leads to a primary key without naming its columns is completed from the table it leads to.
That table is looked up for each of its columns, and the first failure is the answer for all keys of the
table that is asked about, those that name their columns included. -/

/-- The column that a foreign key leads to by its `place`-th column: as declared, or the column at
that place of the primary key. -/
def targetColumn (db : Database) (schema : String) (k : ForeignKeyDef) (place : Nat) :
    Except SourceError String :=
  match k.target[place]? with
  | some column => .ok column
  | none =>
    match db.primaryKey (.table schema k.table) with
    | .error e => .error e
    | .ok key =>
      match key[place]? with
      | some c => .ok c.column
      | none => .error (.tableNotFound s!"{schema}.{k.table}")

/-- The column pairs of the `ordinal`-th foreign key of a table. -/
def keyPairs (db : Database) (info : TableInfo) (t : TableDef) (entry : ForeignKeyDef × Nat) :
    Except SourceError (List ImportedKey) :=
  let (k, ordinal) := entry
  k.columns.zipIdx.mapM fun (column, place) => do
    let target ← db.targetColumn info.schema k place
    -- reported as the column is declared, not as the key spells it
    let source := ((t.position? column >>= (t.columns[·]?)).map (·.name)).getD column
    return {
      constraint := none
      ordinal := ordinal + 1
      sourceColumn := source
      targetSchema := info.schema
      targetTable := k.table
      targetColumn := target
      sequence := place + 1 }

def orderedKeys (t : TableDef) : List ForeignKeyDef :=
  let first (k : ForeignKeyDef) : Nat :=
    (k.columns.head?.bind t.position?).getD t.columns.length
  -- the latest declaration is listed first, and the sort keeps it so
  t.foreignKeys.reverse.mergeSort fun a b => first a ≤ first b

def mainKeys (db : Database) (info : TableInfo) : Except SourceError (List ImportedKey) :=
  match db.table? info.name with
  | none => .ok []
  | some t =>
    ((orderedKeys t.declaration).zipIdx.mapM (db.keyPairs info t.declaration)).map List.flatten

/-- The column pairs of the foreign keys of a table; none where there is no such table. -/
def importedKeys (db : Database) (info : TableInfo) : Except SourceError (List ImportedKey) :=
  inSchema info.schema (db.mainKeys info) []

def vendor (db : Database) (schema : String) : Except SourceError Vendor :=
  (inSchema schema (.ok db.statements) []).map fun statements =>
    let ddl : SortedMap String Json := .ofList (statements.map fun s => (s.1, .text s.2))
    (∅ : Vendor).insert "ddl" (.object ddl.entries)

end FixturePlan.Database
