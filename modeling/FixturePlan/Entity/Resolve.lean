import FixturePlan.Entity.Set
import FixturePlan.Report
import FixturePlan.Schema.Basic
import Std.Data.HashMap

/-!
# Resolution

Every placeholder is matched with the first entity of its target table that has the values it looks
for. The entities of a table are indexed by the attributes looked for when these come up first; as
matching changes links only, an index stays right while the pass goes on.

The placeholders are treated entity by entity, the required ones of an entity before its optional
ones. Where nothing matches, an optional link is removed; a required one stops the pass or is marked,
as the policy says.
-/

namespace FixturePlan

/-! ### Outcomes -/

/-- What to do about a required link that matches nothing. -/
inductive UnresolvedPolicy where
  | fail
  | warn
  deriving DecidableEq, Repr

structure ResolveStats where
  resolved : Nat
  unresolvedOptional : Nat
  unresolvedRequired : Nat
  deriving DecidableEq, Repr

inductive ResolveError where
  | unresolvedRequired (entity foreignKey target : String)
  deriving DecidableEq, Repr

namespace ResolveError

def message : ResolveError → String
  | .unresolvedRequired entity foreignKey target =>
    s!"{entity}: required reference {foreignKey} has no match for {target}"

end ResolveError

/-! ### Placeholders

What is to be done is listed before the pass begins. Treating one placeholder changes no other, so the
list stays right to the end. -/

/-- Where in an entity a placeholder stands. -/
inductive LinkSlot where
  | required (position : Nat)
  | optional (name : String)
  deriving DecidableEq, Repr

structure Pending where
  entity : EntityId
  slot : LinkSlot
  placeholder : Placeholder
  deriving DecidableEq, Repr

namespace Entity

/-- The placeholders of an entity, the required ones first. -/
def pending (e : Entity) : List Pending :=
  let required := e.required.zipIdx.filterMap fun (l, i) =>
    l.target.placeholder?.map (⟨e.id, .required i, ·⟩)
  let optional := e.optional.entries.filterMap fun (name, l) =>
    l.target.placeholder?.map (⟨e.id, .optional name, ·⟩)
  required ++ optional

/-- The values of an entity under given attribute names, if it has them all. -/
def keyTokens? (e : Entity) (names : List String) : Option (List Token) := names.mapM e.token?

end Entity

namespace EntitySet

/-- The placeholders of all entities, in the order in which they are treated. -/
def pending (s : EntitySet) : List Pending := s.toList.flatMap (·.pending)

def setLink (s : EntitySet) (entity : EntityId) (slot : LinkSlot) (target : Reference) : EntitySet :=
  match slot with
  | .required position =>
    s.modify entity (·.setRequired position target) (Entity.id_setRequired position target)
  | .optional name =>
    s.modify entity (·.setOptional name target) (Entity.id_setOptional name target)

def removeOptional (s : EntitySet) (entity : EntityId) (name : String) : EntitySet :=
  s.modify entity (·.removeOptional name) (Entity.id_removeOptional name)

end EntitySet

/-! ### Indexes

An index is made from the entities as they are when a table is first looked up by certain attributes. It
is never brought up to date: links are all that changes, and no index depends on links. -/

/-- The first entity of a table for each list of values under certain attribute names. -/
abbrev KeyIndex := Std.HashMap (List Token) EntityId

namespace KeyIndex

/-- Enter an entity under its key, unless an earlier one has the same key or it has none. -/
def enter (names : List String) (index : KeyIndex) (e : Entity) : KeyIndex :=
  match e.keyTokens? names with
  | some key => index.insertIfNew key e.id
  | none => index

def ofTable (s : EntitySet) (table : TableId) (names : List String) : KeyIndex :=
  (s.ofTable table).foldl (enter names) ∅

end KeyIndex

/-- The indexes made so far, by table and attribute names. -/
abbrev IndexCache := Std.HashMap (TableId × List String) KeyIndex

/-! ### The pass -/

structure Resolving where
  entities : EntitySet
  stats : ResolveStats
  indexes : IndexCache

namespace Resolving

/-- The number of columns of the foreign key that a placeholder stands for. -/
def keyWidth (s : Schema) (p : Placeholder) : Nat :=
  ((s.foreignKey? p.foreignKey).map (·.pairs.length)).getD 0

/-- A placeholder in words: its target table with the values looked for. -/
def describe (s : Schema) (p : Placeholder) : String :=
  let table := ((s.table? p.table).map (·.name.name)).getD ""
  table ++ "[" ++ ",".intercalate (p.keyValues.map fun (n, v) => n ++ "=" ++ v.text) ++ "]"

def keyName (s : Schema) (p : Placeholder) : String :=
  ((s.foreignKey? p.foreignKey).map (·.name)).getD ""

/-- The index for a placeholder, made now if it has not come up before. -/
def indexFor (st : Resolving) (p : Placeholder) : KeyIndex :=
  (st.indexes[(p.table, p.names)]?).getD (.ofTable st.entities p.table p.names)

/-- The match of a placeholder, with the state after the search. A key of which some column is NULL
has fewer values than columns and matches nothing. -/
def lookup (s : Schema) (st : Resolving) (p : Placeholder) : Option EntityId × Resolving :=
  -- asked first, so that no index is made for a key that cannot match
  if p.keyValues.length < keyWidth s p then (none, st)
  else
    let index := st.indexFor p
    (index[p.tokens]?, { st with indexes := st.indexes.insert (p.table, p.names) index })

def countResolved (st : Resolving) : Resolving :=
  { st with stats := { st.stats with resolved := st.stats.resolved + 1 } }

def countOptional (st : Resolving) : Resolving :=
  { st with stats := { st.stats with unresolvedOptional := st.stats.unresolvedOptional + 1 } }

def countRequired (st : Resolving) : Resolving :=
  { st with stats := { st.stats with unresolvedRequired := st.stats.unresolvedRequired + 1 } }

def step (s : Schema) (policy : UnresolvedPolicy) (st : Resolving) (job : Pending) :
    Pass ResolveError Resolving :=
  let (found, st) := lookup s st job.placeholder
  -- both in words, for the warning or the failure
  let entity := st.entities.label job.entity
  let target := describe s job.placeholder
  match found, job.slot, policy with
  | some id, slot, _ =>
    .done ({ st with entities := st.entities.setLink job.entity slot (.resolved id) }).countResolved
  | none, .optional name, _ =>
    .noting ({ st with entities := st.entities.removeOptional job.entity name }).countOptional
      (.optionalUnmatched entity name target)
  | none, .required _, .fail =>
    .failing st (.unresolvedRequired entity (keyName s job.placeholder) target)
  | none, .required position, .warn =>
    .noting ({ st with
        entities := st.entities.setLink job.entity (.required position)
          (.unresolved job.placeholder) }).countRequired
      (.requiredUnmatched entity (keyName s job.placeholder) target)

end Resolving

/-- Match every placeholder of a set. -/
def EntitySet.resolve (s : Schema) (policy : UnresolvedPolicy) (entities : EntitySet) :
    Pass ResolveError Resolving :=
  Pass.run (Resolving.step s policy) ⟨entities, ⟨0, 0, 0⟩, ∅⟩ entities.pending

end FixturePlan
