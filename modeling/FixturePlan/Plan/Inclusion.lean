import FixturePlan.Entity.Set
import FixturePlan.Plan.Error
import FixturePlan.Report

/-!
# Inclusion

Each entity of an order is kept, dropped or taken as existing. In the place of an existing entity
stands a stand-in without links of its own, to which the links to the entity are led over. A kept
entity may not require a dropped one; its optional links to dropped entities are removed, also to
those that are dropped after it was placed.
-/

namespace FixturePlan

/-! ### Decisions -/

/-- What becomes of an entity. -/
inductive Inclusion where
  | keep
  | drop
  /-- The row is there already. -/
  | existing
  deriving DecidableEq, Repr

/-- A decision about every entity. -/
abbrev Decider := Entity → Inclusion

/-- Decisions by table. -/
structure TableRules where
  fallback : Inclusion
  tables : SortedMap TableId Inclusion

namespace TableRules

def always (fallback : Inclusion) : TableRules := ⟨fallback, ∅⟩

def decideFor (r : TableRules) (table : TableId) (decision : Inclusion) : TableRules :=
  { r with tables := r.tables.insert table decision }

def decide (r : TableRules) : Decider := fun e => (r.tables.find? e.table).getD r.fallback

end TableRules

/-! ### The pass

Entities are decided about in their order, so that every entity required by the one at hand has been
decided about already. Optional links know no order. They are cleared when an entity is kept, and once
more at the end, when all that is dropped is known; each clearing has its own warnings. -/

structure Included where
  entities : EntitySet
  /-- The entities to create or to take as existing, in order. -/
  order : List EntityId
  dropped : SortedMap EntityId Unit
  /-- The stand-ins, by the entities they stand in for. -/
  replaced : SortedMap EntityId EntityId

namespace Included

def start (entities : EntitySet) : Included := ⟨entities, [], ∅, ∅⟩

def isDropped (st : Included) (id : EntityId) : Bool := st.dropped.contains id

def clearDropped (st : Included) (id : EntityId) : Included :=
  { st with
    entities := st.entities.modify id (·.clearOptional st.isDropped) (Entity.id_clearOptional _) }

def clearWarnings (st : Included) (id : EntityId) : List Warning :=
  match st.entities.get? id with
  | none => []
  | some e => (e.optionalInto st.isDropped).map (.optionalCleared e.shown ·)

/-- Lead the links of some entities to one entity over to another. -/
def redirectAll (entities : EntitySet) (source target : EntityId) (ids : List EntityId) :
    EntitySet :=
  ids.foldl (fun s id => s.modify id (·.redirect source target) (Entity.id_redirect source target))
    entities

def keep (st : Included) (id : EntityId) (e : Entity) : Pass PlanError Included :=
  -- the first of its dependencies that was dropped, in the order of its links
  match e.requiredEntities.find? st.isDropped with
  | some dependency => .failing st (.droppedDependency e.shown (st.entities.label dependency))
  | none =>
    -- the warnings name the links as they were before they went
    let cleared := st.clearDropped id
    ⟨{ cleared with order := st.order ++ [id] }, st.clearWarnings id, none⟩

def drop (st : Included) (id : EntityId) : Included :=
  { st with dropped := st.dropped.insert id () }

/-- Put a stand-in in the place of an entity. Links to it can only be those of entities placed
before or still to be placed. -/
def replace (st : Included) (id : EntityId) (e : Entity) (rest : List EntityId) : Included :=
  let standIn := st.entities.size
  let order := st.order ++ [standIn]
  { entities := redirectAll (st.entities.push e.standIn) id standIn (order ++ rest)
    order
    dropped := st.dropped
    replaced := st.replaced.insert id standIn }

/-- Decide about one entity of the order; `rest` is what follows it. -/
def decideOne (decide : Decider) (st : Included) (id : EntityId) (rest : List EntityId) :
    Pass PlanError Included :=
  match st.entities.get? id with
  | none => .done st
  | some e =>
    -- the decider sees the entity as it is by now, with links led over to stand-ins
    match decide e with
    | .keep => st.keep id e
    | .drop => .done (st.drop id)
    | .existing => .done (st.replace id e rest)

def decideAll (decide : Decider) : Included → List EntityId → Pass PlanError Included
  | st, [] => .done st
  | st, id :: rest =>
    match decideOne decide st id rest with
    | ⟨st', ws, some e⟩ => ⟨st', ws, some e⟩
    | ⟨st', ws, none⟩ =>
      let r := decideAll decide st' rest
      ⟨r.state, ws ++ r.warnings, r.failure⟩

/-- Remove the optional links to dropped entities from some entities. -/
def clearAll : Included → List EntityId → Pass PlanError Included
  | st, [] => .done st
  | st, id :: rest =>
    let r := clearAll (st.clearDropped id) rest
    ⟨r.state, st.clearWarnings id ++ r.warnings, r.failure⟩

end Included

/-! ### Both rounds -/

/-- Decide about the entities of an order, and then remove the optional links that still lead to
dropped entities. -/
def EntitySet.applyInclusion (entities : EntitySet) (order : List EntityId) (decide : Decider) :
    Pass PlanError Included :=
  match Included.decideAll decide (.start entities) order with
  | ⟨st, ws, some e⟩ => ⟨st, ws, some e⟩
  | ⟨st, ws, none⟩ =>
    let r := st.clearAll st.order
    ⟨r.state, ws ++ r.warnings, r.failure⟩

end FixturePlan
