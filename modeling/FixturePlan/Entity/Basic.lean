import FixturePlan.SortedMap
import FixturePlan.Schema.Name
import FixturePlan.Strategy.Literal

/-!
# Entities

An entity is one row with its values and its links to other entities. Links by NOT NULL keys are
required and stand in the order of the keys; links by nullable keys are optional and stand under
their names.

A link is at first a placeholder, which says what row it looks for. Matching turns it into the
entity found, or marks it as unresolved.
-/

namespace FixturePlan

/-! ### Values -/

/-- Whether the column of a value takes part in a foreign key. -/
inductive KeyTag where
  | outside
  | inside
  /-- The column is not described by the schema. -/
  | undescribed
  deriving DecidableEq, Repr

structure Attribute where
  name : String
  value : Token
  tag : KeyTag
  deriving DecidableEq, Repr

/-! ### Links

The values that a link looks for are rendered as values of the columns that they are compared with, so
that tokens can be compared. Attribute names stand for columns, which is right as long as no two columns
of the target table share an attribute name. -/

/-- What a link looks for: a row of a table with these values under these attribute names. -/
structure Placeholder where
  table : TableId
  foreignKey : ForeignKeyId
  keyValues : List (String × Token)
  deriving DecidableEq, Repr

namespace Placeholder

def keyValue? (p : Placeholder) (name : String) : Option Token := p.keyValues.lookup name

def names (p : Placeholder) : List String := p.keyValues.map (·.1)

def tokens (p : Placeholder) : List Token := p.keyValues.map (·.2)

end Placeholder

inductive Reference where
  | placeholder (p : Placeholder)
  | resolved (id : EntityId)
  /-- Nothing was found, and the run goes on. -/
  | unresolved (p : Placeholder)
  deriving DecidableEq, Repr

namespace Reference

def entity? : Reference → Option EntityId
  | .resolved id => some id
  | _ => none

def placeholder? : Reference → Option Placeholder
  | .placeholder p => some p
  | _ => none

def redirect (source target : EntityId) (r : Reference) : Reference :=
  if r = .resolved source then .resolved target else r

end Reference

structure Link where
  name : String
  foreignKey : ForeignKeyId
  target : Reference
  deriving DecidableEq, Repr

/-! ### Entities

Nothing but links changes after an entity has been read. The functions below keep its number, which is
what `EntitySet.modify` asks for. -/

/-- Where an entity comes from. -/
inductive EntityKind where
  | extracted
  /-- It stands in for an entity that is there already, and is never created. -/
  | existing (replaces : EntityId)
  deriving DecidableEq, Repr

structure Entity where
  id : EntityId
  table : TableId
  kind : EntityKind
  /-- A short description of the row. -/
  label : String
  values : List Attribute
  required : List Link
  optional : SortedMap String Link
  deriving DecidableEq, Repr

namespace Entity

def extracted (table : TableId) (label : String) : Entity :=
  ⟨0, table, .extracted, label, [], [], ∅⟩

def attribute? (e : Entity) (name : String) : Option Attribute := e.values.find? (·.name == name)

def token? (e : Entity) (name : String) : Option Token := (e.attribute? name).map (·.value)

def isExisting (e : Entity) : Bool :=
  match e.kind with
  | .existing _ => true
  | .extracted => false

/-- The label, with a mark on stand-ins. -/
def shown (e : Entity) : String := if e.isExisting then e.label ++ " (existing)" else e.label

/-- All links, the required ones first. -/
def links (e : Entity) : List Link := e.required ++ e.optional.values

/-- The entities that have to be created before this one. -/
def requiredEntities (e : Entity) : List EntityId := e.required.filterMap (·.target.entity?)

def redirect (source target : EntityId) (e : Entity) : Entity :=
  let turn (l : Link) : Link := { l with target := l.target.redirect source target }
  { e with required := e.required.map turn, optional := e.optional.mapValues fun _ l => turn l }

@[simp] theorem id_redirect (source target : EntityId) (e : Entity) :
    (e.redirect source target).id = e.id := rfl

def countLinks (target : EntityId) (e : Entity) : Nat :=
  e.links.countP fun l => l.target = .resolved target

/-- Whether a link leads to an entity of a class. -/
def leadsInto (p : EntityId → Bool) (l : Link) : Bool := l.target.entity?.any p

def optionalInto (p : EntityId → Bool) (e : Entity) : List String :=
  (e.optional.filter fun _ l => leadsInto p l).keys

def clearOptional (p : EntityId → Bool) (e : Entity) : Entity :=
  { e with optional := e.optional.filter fun _ l => !leadsInto p l }

@[simp] theorem id_clearOptional (p : EntityId → Bool) (e : Entity) :
    (e.clearOptional p).id = e.id := rfl

/-- The stand-in for an entity: the same row without links. -/
def standIn (e : Entity) : Entity :=
  { e with id := 0, kind := .existing e.id, required := [], optional := ∅ }

def setRequired (position : Nat) (target : Reference) (e : Entity) : Entity :=
  { e with required := e.required.modify position fun l => { l with target } }

@[simp] theorem id_setRequired (position : Nat) (target : Reference) (e : Entity) :
    (e.setRequired position target).id = e.id := rfl

def setOptional (name : String) (target : Reference) (e : Entity) : Entity :=
  { e with optional := e.optional.modify name fun l => { l with target } }

@[simp] theorem id_setOptional (name : String) (target : Reference) (e : Entity) :
    (e.setOptional name target).id = e.id := rfl

def removeOptional (name : String) (e : Entity) : Entity :=
  { e with optional := e.optional.erase name }

@[simp] theorem id_removeOptional (name : String) (e : Entity) :
    (e.removeOptional name).id = e.id := rfl

end Entity

end FixturePlan
