import FixturePlan.Entity.Set
import FixturePlan.Schema.Error
import FixturePlan.Strategy.Basic

/-!
# Layouts

What is known about the rows of a table before any is read: the names of its references, which of
its columns take part in foreign keys, and which keep their value beside the links they belong to.
-/

namespace FixturePlan

/-! ### Names of references -/

namespace Layout

/-- A name that is not taken: the given one, or else that name with the least number from 2 on. Of
`taken.length + 1` numbers at least one gives a free name. -/
def freshName (taken : List String) (name : String) : String :=
  if taken.contains name then
    let candidates := (List.range (taken.length + 1)).map fun i => name ++ toString (i + 2)
    (candidates.find? (!taken.contains ·)).getD name
  else name

/-- Name the references of foreign keys, in order, by names that are not taken. -/
def nameReferences (name : ForeignKey → String) :
    (taken : List String) → List ForeignKey → List (ForeignKey × String)
  | _, [] => []
  | taken, key :: rest =>
    let fresh := freshName taken (name key)
    (key, fresh) :: nameReferences name (fresh :: taken) rest

end Layout

/-! ### Columns and their carriers

A foreign key carries the values of its columns, and an entity does not repeat what its links say. The
value of a key column stays all the same, and so does one that other tables may look for. -/

structure Layout where
  table : Table
  /-- The foreign keys that leave the table, with the names of their references. -/
  references : List (ForeignKey × String)
  attributes : List String
  inForeignKey : List Bool
  /-- Whether each column keeps its value: key columns and the targets of foreign keys are needed for
  matching. -/
  keepsValue : List Bool
  deriving Repr

namespace Layout

def ofTable (s : Schema) (naming : Naming) (t : Table) : Layout :=
  let columns := List.range t.columns.length
  { table := t
    references := nameReferences (naming.referenceName s) [] (s.outgoing t)
    attributes := t.columns.map (naming.attributeName t)
    inForeignKey := columns.map (s.inForeignKey t)
    keepsValue := columns.map fun c => t.inPrimaryKey c || (s.incoming t).any (·.hasTarget c) }

/-- Whether the value of a column is carried by links alone: it belongs to some foreign key, every
foreign key it belongs to has its link attached, and nothing else needs its value. `attached` says for
each reference whether its link is. -/
def isConsumed (l : Layout) (attached : List Bool) (column : Nat) : Bool :=
  let carriers := (l.references.zip attached).filter fun r => r.1.1.hasSource column
  !(l.keepsValue[column]?.getD false) && !carriers.isEmpty && carriers.all (·.2)

end Layout

end FixturePlan
