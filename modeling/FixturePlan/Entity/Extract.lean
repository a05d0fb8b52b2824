import FixturePlan.Entity.Layout
import FixturePlan.Report

/-!
# Extraction

Every row of every requested table becomes one entity. A foreign key becomes a link that looks for
the row with the same key, and is left out where the key is nullable and some of its columns are NULL.
The other columns become values, NULL excepted.

A scan is read batch by batch. Its columns are located once, by the names reported with the first row
that arrives; the rows of a table are numbered through, and so are the entities of all tables.
-/

namespace FixturePlan

/-! ### Failures -/

inductive ExtractError where
  | source (cause : SourceError)
  /-- The rows of a scan lack a column of the table. -/
  | columnUnreadable (table : QualifiedName) (column : String)
  deriving DecidableEq, Repr

namespace ExtractError

def message : ExtractError → String
  | .source cause => cause.message
  | .columnUnreadable table column => s!"cannot read column '{column}' of table {table.shown}"

end ExtractError

/-! ### Finding columns

A driver may report the name of a column without the quotes that are part of it. A column that is not
found under its own name is therefore looked for again without quotes. -/

/-- Where the columns of a table stand in the rows of a scan. -/
structure ColumnMap where
  positions : List Nat
  /-- The positions that belong to no column of the table. -/
  unknown : List Nat
  deriving DecidableEq, Repr

namespace ColumnMap

/-- The characters that quote names in one database or another. -/
def quoteMarks : List Char := ['"', '\x60', '[', ']', '\x27']

def unquoted (name : String) : String :=
  String.ofList (name.toList.filter fun c => !quoteMarks.contains c)

/-- The position of a column among the reported names: under its own name, or else, with a warning,
under its name without quotes. -/
def locate (t : Table) (reported : List String) (name : String) : Report ExtractError Nat :=
  match reported.findIdx? (· == name) with
  | some position => .value position
  | none =>
    let bare := unquoted name
    -- no second search for the same name, and no warning about it
    match if bare = name then none else reported.findIdx? (· == bare) with
    | some position => ⟨[.readUnquoted name t.name bare], .ok position⟩
    | none => .fail (.columnUnreadable t.name name)

def ofReported (t : Table) (reported : List String) : Report ExtractError ColumnMap :=
  (Report.mapList (fun c => locate t reported c.name) t.columns).andThen fun positions =>
    .value ⟨positions, (List.range reported.length).filter (!positions.contains ·)⟩

def read (m : ColumnMap) (t : Table) (row : Row) (column : Nat) : Except ExtractError Cell :=
  match m.positions[column]? >>= row.cell? with
  | some cell => .ok cell
  | none => .error (.columnUnreadable t.name ((t.columns[column]?.map (·.name)).getD ""))

end ColumnMap

/-! ### One row

A failure to read any cell is a failure to read the row. Cells are looked at in a fixed order, first
those of the label, then those of the foreign keys and last the plain values, so that the column named
by the failure is determined. -/

namespace Extract

def mapOk {α β : Type} (f : α → Except ExtractError β) : List α → Except ExtractError (List β)
  | [] => .ok []
  | a :: rest =>
    match f a with
    | .error e => .error e
    | .ok b =>
      match mapOk f rest with
      | .error e => .error e
      | .ok bs => .ok (b :: bs)

variable (s : Schema) (strategies : Strategies) (layout : Layout) (m : ColumnMap) (row : Row)

/-- The label of a row: its table with the values of the primary key, or with the number of the row
where there is no key. -/
def label (ordinal : Nat) : Except ExtractError String :=
  let t := layout.table
  if t.primaryKey.isEmpty then .ok s!"{t.name.name}[#{ordinal}]"
  else
    let part (column : Nat) : Except ExtractError String :=
      match m.read t row column with
      | .error e => .error e
      | .ok cell =>
        .ok (((t.columns[column]?).map fun c =>
          c.name ++ "=" ++ (strategies.render cell c).text).getD "")
    match mapOk part t.primaryKey with
    | .error e => .error e
    | .ok parts => .ok (t.name.name ++ "[" ++ ",".intercalate parts ++ "]")

/-- What a column pair of a foreign key looks for, as an attribute of the target table, unless the
source column is NULL. -/
def keyValue (key : ForeignKey) (pair : KeyPair) : Except ExtractError (Option (String × Token)) :=
  match m.read layout.table row pair.sourceIndex with
  | .error e => .error e
  -- NULL refers to nothing, even in a key of several columns
  | .ok .null => .ok none
  | .ok cell =>
    -- rendered as a value of the target column, whose name and type are the ones to compare with
    .ok do
      let target ← s.table? key.target
      let column ← target.columns[pair.targetIndex]?
      return (strategies.naming.attributeName target column, strategies.render cell column)

/-- The link of a foreign key, unless the key is nullable and incomplete in this row. -/
def reference (entry : ForeignKey × String) : Except ExtractError (Option Link) :=
  let (key, name) := entry
  match mapOk (keyValue s strategies layout m row key) key.pairs with
  | .error e => .error e
  | .ok found =>
    -- a NOT NULL key keeps a placeholder even so, which then matches nothing
    if key.nullable && found.any (·.isNone) then .ok none
    else .ok (some ⟨name, key.id, .placeholder ⟨key.target, key.id, found.filterMap id⟩⟩)

/-- The value of a column of the table, unless links carry it or it is NULL. -/
def plainValue (attached : List Bool) (entry : Column × Nat) :
    Except ExtractError (Option Attribute) :=
  let (column, position) := entry
  if layout.isConsumed attached position then .ok none
  else
    match m.read layout.table row position with
    | .error e => .error e
    | .ok .null => .ok none
    | .ok cell =>
      let tag := if layout.inForeignKey[position]?.getD false then KeyTag.inside else .outside
      .ok (some ⟨layout.attributes[position]?.getD "", strategies.render cell column, tag⟩)

def undescribed (name : String) : Column :=
  ⟨name, ⟨"", TypeCode.other, true, none, none⟩, true, false⟩

/-- The value at a position that belongs to no column of the table, unless it is NULL. -/
def unknownValue (position : Nat) : Option Attribute := do
  let column := undescribed (← row.columns[position]?)
  let cell ← row.cell? position
  guard !cell.isNull
  return ⟨strategies.naming.attributeName layout.table column, strategies.render cell column,
    .undescribed⟩

def requiredLinks (links : List ((ForeignKey × String) × Option Link)) : List Link :=
  links.filterMap fun (entry, link) => if entry.1.nullable then none else link

def optionalLinks (links : List ((ForeignKey × String) × Option Link)) : SortedMap String Link :=
  -- no two names are equal, by the layout
  .ofList (links.filterMap fun (entry, link) =>
    if entry.1.nullable then link.map fun l => (l.name, l) else none)

/-- The entity of the `ordinal`-th row of a table. -/
def entity (ordinal : Nat) : Except ExtractError Entity :=
  match label strategies layout m row ordinal with
  | .error e => .error e
  | .ok name =>
    match mapOk (reference s strategies layout m row) layout.references with
    | .error e => .error e
    | .ok found =>
      -- a column whose links are all there needs no value of its own
      let attached := found.map (·.isSome)
      let links := layout.references.zip found
      match mapOk (plainValue strategies layout m row attached) layout.table.columns.zipIdx with
      | .error e => .error e
      | .ok plain =>
        .ok { Entity.extracted layout.table.id name with
          values := plain.filterMap id ++ m.unknown.filterMap (unknownValue strategies layout row)
          required := requiredLinks links
          optional := optionalLinks links }

end Extract

/-! ### All rows

Tables are read one after the other into one set of entities. What was read before a failure stays in the
state of the pass, except for the table that fails. -/

structure ScanRequest where
  schema : String
  table : String
  fetchSize : Nat
  deriving DecidableEq, Repr

/-- The entities extracted so far, and the requests made for them. -/
structure Extraction where
  entities : EntitySet
  requests : List ScanRequest

/-- A scan of a table as far as it has been read. -/
structure Reading where
  /-- Where the columns stand, once a row has arrived. -/
  columns : Option ColumnMap
  count : Nat
  /-- The entities of these rows, after those of the tables before. -/
  entities : EntitySet

structure Extractor where
  schema : Schema
  source : Source
  strategies : Strategies
  fetchSize : Nat

namespace Extractor

variable (x : Extractor)

/-- The request for the rows of a table. At least one row is fetched at a time. -/
def request (t : Table) : ScanRequest := ⟨t.name.schema, t.name.name, max x.fetchSize 1⟩

def readRows (layout : Layout) (m : ColumnMap) : Reading → List Row → Except ExtractError Reading
  | r, [] => .ok r
  | r, row :: rest =>
    match Extract.entity x.schema x.strategies layout m row (r.count + 1) with
    | .error e => .error e
    | .ok e =>
      readRows layout m { r with count := r.count + 1, entities := r.entities.push e } rest

/-- Extract the rows of a batch. The names reported with the first row of all say where the columns
stand. -/
def readBatch (layout : Layout) (r : Reading) : List Row → Report ExtractError Reading
  | [] => .value r
  | first :: rest =>
    -- an empty batch settles nothing, even if it is the first
    let columns : Report ExtractError ColumnMap :=
      match r.columns with
      | some m => .value m
      | none => ColumnMap.ofReported layout.table first.columns
    columns.andThen fun m =>
      .ofExcept (x.readRows layout m { r with columns := some m } (first :: rest))

def readBatches (layout : Layout) : Reading → List (List Row) → Report ExtractError Reading
  | r, [] => .value r
  | r, batch :: rest => (x.readBatch layout r batch).andThen fun r' => readBatches layout r' rest

/-- Add the entities of a table as its source delivers the rows. A failure of the source counts only
after the rows that came before it. -/
def readTable (t : Table) (entities : EntitySet) : Report ExtractError EntitySet :=
  let layout := Layout.ofTable x.schema x.strategies.naming t
  let r := x.request t
  ((Report.ofExcept (x.source.scan r.schema r.table r.fetchSize)).mapError
      ExtractError.source).andThen fun scan =>
    (x.readBatches layout ⟨none, 0, entities⟩ scan.batches).andThen fun read =>
      match scan.failure with
      | some cause => .fail (.source cause)
      | none => .value read.entities

def extractTable (done : Extraction) (id : TableId) : Pass ExtractError Extraction :=
  match x.schema.table? id with
  | none => .done done
  | some t =>
    -- made before the table is read, so that a failing scan is on record too
    let requests := done.requests ++ [x.request t]
    match x.readTable t done.entities with
    | ⟨ws, .error e⟩ => ⟨{ done with requests }, ws, some e⟩
    | ⟨ws, .ok entities⟩ => ⟨⟨entities, requests⟩, ws, none⟩

/-- Extract the rows of tables, in the given order. -/
def extract (order : List TableId) : Pass ExtractError Extraction :=
  Pass.run x.extractTable ⟨∅, []⟩ order

end Extractor

end FixturePlan
