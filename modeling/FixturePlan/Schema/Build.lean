import FixturePlan.Schema.Attach
import FixturePlan.Text.Pattern.Machine
import FixturePlan.Text.Pattern.Parser

/-!
# Building a schema

A schema is built in three rounds over the tables that a source lists and no pattern excludes: first
the tables themselves, then their columns and primary keys, and last the foreign keys, which may lead
to tables listed later.
-/

namespace FixturePlan.Schema

/-! ### Tables -/

def isExcluded (exclude : List Text.Pattern) (info : TableInfo) : Bool :=
  exclude.any (·.occursIn info.name)

def qualified (info : TableInfo) : QualifiedName := ⟨info.schema, info.name⟩

/-- The first listed table whose name came up before. -/
def firstDuplicate? : List TableInfo → Option QualifiedName
  | infos => go [] infos
where
  go (seen : List QualifiedName) : List TableInfo → Option QualifiedName
    | [] => none
    | info :: rest =>
      if seen.contains (qualified info) then some (qualified info)
      else go (qualified info :: seen) rest

/-! ### Columns and primary keys -/

/-- The column that a description gives, unless it has no name. Only numeric types keep a precision
and a scale. -/
def columnOf? (info : ColumnInfo) : Option Column :=
  info.name.map fun name =>
    let numeric := info.typeCode.isNumeric
    { name
      dataType :=
        { name := info.typeName
          code := info.typeCode
          nullable := info.nullable
          precision := if numeric then info.precision else none
          scale := if numeric then info.scale else none }
      nullable := info.nullable
      unique := info.unique }

/-- The columns of a table, with a warning for each that has no name. -/
def loadColumns (source : Source) (info : TableInfo) : Report SchemaError (List Column) :=
  ((Report.ofExcept (source.columns info)).mapError SchemaError.source).andThen fun columns =>
    ⟨(columns.filter (·.name.isNone)).map fun _ => .unnamedColumn info.name,
      .ok (columns.filterMap columnOf?)⟩

/-- The positions of the columns of a primary key, the first of each name. -/
def keyPositions (info : TableInfo) (columns : List Column) :
    List KeyColumn → Except SchemaError (List Nat)
  | [] => .ok []
  | key :: rest =>
    match columns.findIdx? (·.name == key.column) with
    | none => .error (.unknownPrimaryKeyColumn (qualified info) key.column)
    | some position =>
      match keyPositions info columns rest with
      | .error e => .error e
      | .ok others => .ok (position :: others)

/-- The primary key of a table, in order of its sequence. -/
def loadPrimaryKey (source : Source) (info : TableInfo) (columns : List Column) :
    Report SchemaError (List Nat) :=
  ((Report.ofExcept (source.primaryKey info)).mapError SchemaError.source).andThen fun key =>
    .ofExcept (keyPositions info columns (key.mergeSort fun a b => a.sequence ≤ b.sequence))

/-- A table with its columns and its primary key, as yet without foreign keys. -/
def loadTable (source : Source) (entry : TableInfo × TableId) : Report SchemaError Table :=
  let (info, id) := entry
  (loadColumns source info).andThen fun columns =>
    (loadPrimaryKey source info columns).andThen fun primaryKey =>
      .value { id, name := qualified info, columns, primaryKey, outgoing := [], incoming := [] }

/-! ### Foreign keys

The keys of the tables are attached table by table in the order of the listing, so that keys are numbered
through in this order. -/

def loadKeys (source : Source) (s : Schema) (info : TableInfo) : Report SchemaError Schema :=
  ((Report.ofExcept (source.importedKeys info)).mapError SchemaError.source).andThen fun rows =>
    ((s.attach (KeySpec.aggregate info rows)).toReport).andThen fun a => .value a.schema

def loadAllKeys (source : Source) : Schema → List TableInfo → Report SchemaError Schema
  | s, [] => .value s
  | s, info :: rest => (loadKeys source s info).andThen fun s' => loadAllKeys source s' rest

def keptTables (source : Source) (exclude : List Text.Pattern) (name : String) :
    Except SourceError (List TableInfo) :=
  (source.listTables name).map (·.filter (!isExcluded exclude ·))

/-! ### Whole schemas -/

/-- Build the schema of a name from a source, leaving out the excluded tables. -/
def build (source : Source) (exclude : List Text.Pattern) (name : String) :
    Report SchemaError Schema :=
  ((Report.ofExcept (keptTables source exclude name)).mapError SchemaError.source).andThen
    fun infos =>
      match firstDuplicate? infos with
      | some duplicate => .fail (.duplicateTable duplicate)
      | none =>
        -- keys wait until all tables are there, as they may lead to later ones
        (Report.mapList (loadTable source) infos.zipIdx).andThen fun tables =>
          (loadAllKeys source { empty name with tables } infos).andThen fun s =>
            ((Report.ofExcept (source.vendor name)).mapError SchemaError.source).andThen
              fun vendor => .value { s with vendor }

end FixturePlan.Schema
