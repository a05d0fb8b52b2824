import FixturePlan.Schema.Basic
import FixturePlan.Text.Casing
import FixturePlan.Text.Singular

/-!
# Naming

How the names of tables, columns and foreign keys become names of entities, attributes, references
and parameters. A naming is a record of functions; `Naming.inflected` is the usual one, and
`Naming.verbatim` takes names over as they are.
-/

namespace FixturePlan

/-- The names that a plan gives to the things of a schema. -/
structure Naming where
  entityName : Table → String
  attributeName : Table → Column → String
  referenceName : Schema → ForeignKey → String
  parameterName : Schema → ForeignKey → String

namespace Naming

open Text

/-! ### Parts of names -/

def joinedParameter (attributeName : Table → Column → String) (s : Schema) (k : ForeignKey) :
    String :=
  match s.table? k.source with
  | none => ""
  | some t =>
    let columns := k.pairs.filterMap fun p => t.columns[p.sourceIndex]?
    camelCase ("_".intercalate (columns.map (attributeName t)))

/-- What stands before a final `_id` in any case, or before a final `Id`, unless that is all. -/
def idStem? (column : String) : Option String :=
  -- read from the end: one more character has to stand in front of the underscore or the capital
  match column.toList.reverse with
  | d :: i :: '_' :: c :: rest =>
    if d.toLower == 'd' && i.toLower == 'i' then some (String.ofList (c :: rest).reverse)
    else none
  | 'd' :: 'I' :: c :: rest => some (String.ofList (c :: rest).reverse)
  | _ => none

/-- The type name of a table: its name, in the singular if asked for, in Pascal case. -/
def inflectedEntity (singularize : Bool) (t : Table) : String :=
  pascalCase (if singularize then singular t.name.name else t.name.name)

/-- The reference name of a foreign key: the stem of its only source column if that ends in an id,
else the entity it leads to. -/
def inflectedReference (singularize : Bool) (s : Schema) (k : ForeignKey) : String :=
  let byTarget : Unit → String := fun _ =>
    camelCase (((s.table? k.target).map (inflectedEntity singularize)).getD "")
  match k.pairs with
  | [pair] =>
    match idStem? pair.sourceColumn with
    | some stem => camelCase stem
    | none => byTarget ()
  | _ => byTarget ()

/-! ### Namings

A naming need not tell things apart: what has one name by it may well be several things. -/

/-- Entities in Pascal case, attributes, references and parameters in camel case. -/
def inflected (singularize : Bool) : Naming where
  entityName := inflectedEntity singularize
  attributeName := fun _ c => camelCase c.name
  referenceName := inflectedReference singularize
  parameterName := joinedParameter fun _ c => camelCase c.name

/-- Tables, columns and foreign keys under their own names. -/
def verbatim : Naming where
  entityName := fun t => t.name.name
  attributeName := fun _ c => c.name
  referenceName := fun _ k => k.name
  parameterName := joinedParameter fun _ c => c.name

end Naming

end FixturePlan
