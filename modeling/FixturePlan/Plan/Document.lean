import FixturePlan.Plan.Basic

/-!
# Plans as documents

The JSON form of plans and their parts. Members stand in a fixed order, and maps in the order of their
keys.
-/

namespace FixturePlan

/-! ### Schemas -/

namespace QualifiedName

def toJson (q : QualifiedName) : Json :=
  .object [("schema", .text q.schema), ("name", .text q.name)]

end QualifiedName

namespace DataType

def toJson (t : DataType) : Json :=
  .object [("name", .text t.name), ("type_code", .int t.code), ("nullable", .bool t.nullable),
    ("precision", .option .nat t.precision), ("scale", .option .nat t.scale)]

end DataType

namespace Column

def toJson (c : Column) : Json :=
  .object [("name", .text c.name), ("data_type", c.dataType.toJson), ("nullable", .bool c.nullable),
    ("unique", .bool c.unique)]

end Column

namespace Table

def toJson (t : Table) : Json :=
  .object [("id", .nat t.id), ("name", t.name.toJson), ("columns", .list Column.toJson t.columns),
    ("primary_key", .list .nat t.primaryKey), ("outgoing", .list .nat t.outgoing),
    ("incoming", .list .nat t.incoming)]

end Table

namespace KeyPair

def toJson (p : KeyPair) : Json :=
  .object [("source_column", .text p.sourceColumn), ("target_column", .text p.targetColumn),
    ("source_index", .nat p.sourceIndex), ("target_index", .nat p.targetIndex)]

end KeyPair

namespace ForeignKey

def toJson (k : ForeignKey) : Json :=
  .object [("id", .nat k.id), ("name", .text k.name), ("source", .nat k.source),
    ("target", .nat k.target), ("source_table", k.sourceTable.toJson),
    ("target_table", k.targetTable.toJson), ("columns", .list KeyPair.toJson k.pairs),
    ("nullable", .bool k.nullable)]

end ForeignKey

namespace Schema

def toJson (s : Schema) : Json :=
  .object [("name", .text s.name), ("tables", .list Table.toJson s.tables),
    ("foreign_keys", .list ForeignKey.toJson s.foreignKeys), ("vendor", .object s.vendor.entries)]

end Schema

namespace ConstructorArg

def toJson : ConstructorArg → Json
  | .this => .object [("kind", .text "this")]
  | .param name table foreignKey =>
    .object [("kind", .text "param"), ("name", .text name), ("table", .nat table),
      ("foreign_key", .nat foreignKey)]

end ConstructorArg

/-! ### Join tables

A document has texts for names, so that a map from numbers is written with the numbers as texts. -/

/-- The document of a map from numbers. -/
def numberMapToJson {α : Type} (f : α → Json) (m : SortedMap Nat α) : Json :=
  .object (m.entries.map fun e => (toString e.1, f e.2))

namespace JoinShapes

def toJson (shapes : JoinShapes) : Json :=
  .object [("by_anchor", numberMapToJson (numberMapToJson (.list ConstructorArg.toJson)) shapes)]

end JoinShapes

/-! ### Entities

Every kind of thing that has several forms is written with a member that says which form it is. -/

namespace KeyTag

def word : KeyTag → String
  | .outside => "NON_FK"
  | .inside => "FK"
  | .undescribed => "UNKNOWN"

end KeyTag

namespace Attribute

/-- The document of a value without its name. -/
def valueToJson (a : Attribute) : Json :=
  .object [("value", .text a.value.text), ("fk", .text a.tag.word)]

def toJson (a : Attribute) : Json := .object [("name", .text a.name), ("value", a.valueToJson)]

end Attribute

namespace Placeholder

def toJson (p : Placeholder) : Json :=
  .object [("target_table", .nat p.table), ("foreign_key", .nat p.foreignKey),
    ("key_values", .list (fun (n, v) => .array [.text n, .text v.text]) p.keyValues)]

end Placeholder

namespace Reference

def toJson : Reference → Json
  | .placeholder p => .object [("state", .text "placeholder"), ("target", p.toJson)]
  | .resolved id => .object [("state", .text "resolved"), ("target", .nat id)]
  | .unresolved p => .object [("state", .text "unresolved"), ("target", p.toJson)]

end Reference

namespace Link

def toJson (l : Link) : Json :=
  .object [("attribute", .text l.name), ("foreign_key", .nat l.foreignKey),
    ("target", l.target.toJson)]

end Link

namespace EntityKind

def toJson : EntityKind → Json
  | .extracted => .object [("type", .text "extracted")]
  | .existing replaces => .object [("type", .text "existing"), ("replaces", .nat replaces)]

end EntityKind

namespace Entity

def toJson (e : Entity) : Json :=
  .object [("id", .nat e.id), ("table", .nat e.table), ("kind", e.kind.toJson),
    ("label", .text e.label), ("values", .list Attribute.toJson e.values),
    ("required", .list Link.toJson e.required),
    ("optional", .object (e.optional.entries.map fun m => (m.1, m.2.toJson)))]

end Entity

namespace EntitySet

def toJson (s : EntitySet) : Json := .list Entity.toJson s.toList

end EntitySet

/-! ### Plans -/

namespace Plan

def toJson (p : Plan) : Json :=
  .object [("schema", p.schema.toJson), ("joins", p.joins.toJson), ("entities", p.entities.toJson),
    ("order", .list .nat p.order), ("dropped", .list .nat p.dropped.keys),
    ("replaced", numberMapToJson .nat p.replaced)]

end Plan

end FixturePlan
