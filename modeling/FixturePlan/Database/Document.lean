import FixturePlan.Database.Basic
import FixturePlan.Source.Basic

/-!
# Databases as documents

The JSON form of a database: the declarations of its tables, indexes and views, and the rows of each
table in the order of their insertion.
-/

namespace FixturePlan

def Json.texts? : Json → Option (List String) := Json.listOf? Json.text?

namespace ColumnDef

def ofJson? (v : Json) : Option ColumnDef := do
  return {
    name := ← v.required? "name" Json.text?
    type := ← v.defaulted? "type" Json.text? ""
    notNull := ← v.defaulted? "not_null" Json.bool? false }

end ColumnDef

namespace ForeignKeyDef

def ofJson? (v : Json) : Option ForeignKeyDef := do
  return {
    columns := ← v.required? "columns" Json.texts?
    table := ← v.required? "table" Json.text?
    target := ← v.defaulted? "target" Json.texts? [] }

end ForeignKeyDef

namespace TableDef

def ofJson? (v : Json) : Option TableDef := do
  return {
    name := ← v.required? "name" Json.text?
    columns := ← v.required? "columns" (Json.listOf? ColumnDef.ofJson?)
    primaryKey := ← v.defaulted? "primary_key" Json.texts? []
    unique := ← v.defaulted? "unique" (Json.listOf? Json.texts?) []
    foreignKeys := ← v.defaulted? "foreign_keys" (Json.listOf? ForeignKeyDef.ofJson?) []
    withoutRowid := ← v.defaulted? "without_rowid" Json.bool? false }

end TableDef

namespace IndexDef

def ofJson? (v : Json) : Option IndexDef := do
  return {
    name := ← v.required? "name" Json.text?
    table := ← v.required? "table" Json.text?
    unique := ← v.defaulted? "unique" Json.bool? false
    columns := ← v.required? "columns" Json.texts? }

end IndexDef

namespace ViewDef

def ofJson? (v : Json) : Option ViewDef := do
  return ⟨← v.required? "name" Json.text?, ← v.required? "table" Json.text?⟩

end ViewDef

namespace StoredTable

def readRows? : Json → Option (List (List Cell)) := Json.listOf? (Json.listOf? Cell.ofJson?)

def ofJson? (v : Json) : Option StoredTable := do
  let declaration ← TableDef.ofJson? v
  let rows ← v.defaulted? "rows" readRows? []
  -- no constraint is checked: the rows are those of a database that exists
  return rows.foldl StoredTable.insert (.empty declaration)

end StoredTable

namespace Database

def ofJson? (v : Json) : Option Database := do
  return {
    tables := ← v.defaulted? "tables" (Json.listOf? StoredTable.ofJson?) []
    indexes := ← v.defaulted? "indexes" (Json.listOf? IndexDef.ofJson?) []
    views := ← v.defaulted? "views" (Json.listOf? ViewDef.ofJson?) [] }

/-- Read a database from the contents of a file; without contents, or with a single byte, it is
empty. -/
def ofText? (s : String) : Option Database :=
  if s.utf8ByteSize ≤ 1 then some .empty else Json.parse? s >>= ofJson?

end Database

end FixturePlan
