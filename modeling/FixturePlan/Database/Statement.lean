import FixturePlan.Database.Basic

/-!
# Statements

The statements that declare tables, indexes and views. Names stand in double quotes, in which a quote
is written twice.
-/

namespace FixturePlan

def quotedName (name : String) : String :=
  String.ofList ('"' :: name.toList.flatMap (fun c => if c == '"' then ['"', '"'] else [c]) ++ ['"'])

def nameList (names : List String) : String := "(" ++ ", ".intercalate (names.map quotedName) ++ ")"

namespace ColumnDef

def statement (c : ColumnDef) : String :=
  quotedName c.name ++ (if c.type.isEmpty then "" else " " ++ c.type) ++
    (if c.notNull then " NOT NULL" else "")

end ColumnDef

namespace ForeignKeyDef

def statement (k : ForeignKeyDef) : String :=
  s!"FOREIGN KEY {nameList k.columns} REFERENCES {quotedName k.table}" ++
    (if k.target.isEmpty then "" else " " ++ nameList k.target)

end ForeignKeyDef

namespace TableDef

def statement (t : TableDef) : String :=
  let key := if t.primaryKey.isEmpty then [] else ["PRIMARY KEY " ++ nameList t.primaryKey]
  let parts := t.columns.map (·.statement) ++ key ++ t.unique.map ("UNIQUE " ++ nameList ·) ++
    t.foreignKeys.map (·.statement)
  let body := ", ".intercalate parts
  s!"CREATE TABLE {quotedName t.name} ({body})" ++ (if t.withoutRowid then " WITHOUT ROWID" else "")

end TableDef

namespace IndexDef

def statement (i : IndexDef) : String :=
  let kind := if i.unique then "UNIQUE INDEX" else "INDEX"
  s!"CREATE {kind} {quotedName i.name} ON {quotedName i.table} {nameList i.columns}"

end IndexDef

namespace ViewDef

def statement (v : ViewDef) : String :=
  s!"CREATE VIEW {quotedName v.name} AS SELECT * FROM {quotedName v.table}"

end ViewDef

namespace Database

/-! ### The statements of a database -/

/-- Whether a name is reserved for the database itself: it begins with `sqlite`, in any case, and
goes on. -/
def isReserved (name : String) : Bool :=
  let cs := (Text.asciiLowercase name).toList
  "sqlite".toList.isPrefixOf cs && cs.length > 6

/-- Every name that is not reserved with the statement that declares it. -/
def statements (db : Database) : List (String × String) :=
  (db.tables.map (fun t => (t.declaration.name, t.declaration.statement)) ++
    db.indexes.map (fun i => (i.name, i.statement)) ++
    db.views.map (fun v => (v.name, v.statement))).filter (!isReserved ·.1)

end Database

end FixturePlan
