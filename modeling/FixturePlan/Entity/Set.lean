import FixturePlan.Entity.Basic

/-!
# Sets of entities

Entities in the order in which they were added. The number of an entity is its position, which never
changes; this is part of the type.
-/

namespace FixturePlan

/-- Entities numbered by their positions. -/
structure EntitySet where
  entities : Array Entity
  numbered : ∀ i (h : i < entities.size), entities[i].id = i

namespace EntitySet

def empty : EntitySet := ⟨#[], fun _ h => absurd h (Nat.not_lt_zero _)⟩

instance : EmptyCollection EntitySet := ⟨empty⟩

instance : Inhabited EntitySet := ⟨empty⟩

def size (s : EntitySet) : Nat := s.entities.size

/-- The entities in order of their numbers. -/
def toList (s : EntitySet) : List Entity := s.entities.toList

def get? (s : EntitySet) (id : EntityId) : Option Entity := s.entities[id]?

/-! ### Changes

Entities are added and changed in place but never taken away, so a number once given stays valid. -/

/-- Add an entity under the next number. -/
def push (s : EntitySet) (e : Entity) : EntitySet where
  entities := s.entities.push { e with id := s.entities.size }
  numbered i h := by
    rw [Array.getElem_push]
    split
    · next hlt => exact s.numbered i hlt
    · next hge =>
      rw [Array.size_push] at h
      exact Nat.le_antisymm (Nat.le_of_not_lt hge) (Nat.le_of_lt_succ h)

/-- Apply a function that keeps the number to the entity of a number. -/
def modify (s : EntitySet) (id : EntityId) (f : Entity → Entity) (keeps : ∀ e, (f e).id = e.id) :
    EntitySet where
  entities := s.entities.modify id f
  numbered i h := by
    rw [Array.getElem_modify]
    rw [Array.size_modify] at h
    split
    · rw [keeps]; exact s.numbered i h
    · exact s.numbered i h

/-! ### Looking up -/

/-- The label of an entity, with a mark on stand-ins. -/
def label (s : EntitySet) (id : EntityId) : String := ((s.get? id).map (·.shown)).getD ""

def ofTable (s : EntitySet) (table : TableId) : List Entity := s.toList.filter (·.table == table)

end EntitySet

end FixturePlan
