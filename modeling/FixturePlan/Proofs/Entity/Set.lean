import FixturePlan.Entity.Set
import FixturePlan.Proofs.SortedMap

/-!
# Entities and the entities they refer to

What adding and changing entities does to a set as seen through `EntitySet.get?`, and what redirecting
and clearing links does to the entities that an entity refers to.
-/

namespace FixturePlan

namespace Reference

@[simp] theorem entity?_eq_some_iff {r : Reference} {id : EntityId} :
    r.entity? = some id ↔ r = .resolved id := by
  cases r <;> simp [entity?]

@[simp] theorem placeholder?_eq_some_iff {r : Reference} {p : Placeholder} :
    r.placeholder? = some p ↔ r = .placeholder p := by
  cases r <;> simp [placeholder?]

/-- The entity that takes the place of another. -/
def turn (source target id : EntityId) : EntityId := if id = source then target else id

theorem turn_of_ne {source id : EntityId} (h : id ≠ source) (target : EntityId) :
    turn source target id = id := if_neg h

@[simp] theorem turn_self (source target : EntityId) : turn source target source = target :=
  if_pos rfl

theorem entity?_redirect (source target : EntityId) (r : Reference) :
    (r.redirect source target).entity? = r.entity?.map (turn source target) := by
  unfold redirect
  split
  · next h => simp [h, entity?]
  · next h =>
    cases r with
    | placeholder p => rfl
    | unresolved p => rfl
    | resolved id =>
      have hne : id ≠ source := fun heq => h (heq ▸ rfl)
      simp [entity?, turn_of_ne hne]

theorem redirect_redirect (source target : EntityId) (r : Reference) :
    (r.redirect source target).redirect source target = r.redirect source target := by
  by_cases h : r = .resolved source
  · subst h
    by_cases ht : target = source
    · simp [redirect, ht]
    · simp [redirect]
  · simp [redirect, h]

theorem redirect_eq_placeholder_iff {source target : EntityId} {r : Reference} {p : Placeholder} :
    r.redirect source target = .placeholder p ↔ r = .placeholder p := by
  unfold redirect
  split
  · next h => simp [h]
  · rfl

theorem redirect_eq_unresolved_iff {source target : EntityId} {r : Reference} {p : Placeholder} :
    r.redirect source target = .unresolved p ↔ r = .unresolved p := by
  unfold redirect
  split
  · next h => simp [h]
  · rfl

end Reference

namespace Entity

/-- The entities that the optional links of an entity lead to. -/
def optionalEntities (e : Entity) : List EntityId := e.optional.values.filterMap (·.target.entity?)

/-- The attribute under a name that at most one attribute has. -/
theorem attribute?_eq_of_unique {e : Entity} {name : String} {v : Option Attribute}
    (h : ∀ a, (a ∈ e.values ∧ a.name = name) ↔ v = some a) : e.attribute? name = v := by
  unfold attribute?
  cases hfind : e.values.find? (·.name == name) with
  | some a =>
    have hname : a.name = name := by simpa using List.find?_some hfind
    exact ((h a).1 ⟨List.mem_of_find?_eq_some hfind, hname⟩).symm
  | none =>
    cases v with
    | none => rfl
    | some a =>
      obtain ⟨hmem, hname⟩ := (h a).2 rfl
      exact absurd (beq_iff_eq.2 hname) (List.find?_eq_none.1 hfind a hmem)

theorem mem_requiredEntities {e : Entity} {id : EntityId} :
    id ∈ e.requiredEntities ↔ ∃ l ∈ e.required, l.target = .resolved id := by
  simp [requiredEntities]

theorem mem_optionalEntities {e : Entity} {id : EntityId} :
    id ∈ e.optionalEntities ↔ ∃ l ∈ e.optional.values, l.target = .resolved id := by
  simp [optionalEntities]

@[simp] theorem requiredEntities_redirect (source target : EntityId) (e : Entity) :
    (e.redirect source target).requiredEntities =
      e.requiredEntities.map (Reference.turn source target) := by
  simp only [requiredEntities, redirect, List.filterMap_map, List.map_filterMap]
  congr 1
  funext l
  exact Reference.entity?_redirect source target l.target

@[simp] theorem optionalEntities_redirect (source target : EntityId) (e : Entity) :
    (e.redirect source target).optionalEntities =
      e.optionalEntities.map (Reference.turn source target) := by
  simp only [optionalEntities, redirect, SortedMap.values_mapValues, List.filterMap_map,
    List.map_filterMap]
  congr 1
  funext l
  exact Reference.entity?_redirect source target l.target

theorem mem_required_redirect {source target : EntityId} {e : Entity} {l : Link} :
    l ∈ (e.redirect source target).required ↔
      ∃ l' ∈ e.required, { l' with target := l'.target.redirect source target } = l := List.mem_map

theorem mem_optional_redirect {source target : EntityId} {e : Entity} {l : Link} :
    l ∈ (e.redirect source target).optional.values ↔
      ∃ l' ∈ e.optional.values, { l' with target := l'.target.redirect source target } = l := by
  rw [redirect, SortedMap.values_mapValues]
  exact List.mem_map

theorem mem_optional_clearOptional {p : EntityId → Bool} {e : Entity} {l : Link} :
    l ∈ (e.clearOptional p).optional.values ↔ l ∈ e.optional.values ∧ leadsInto p l = false := by
  simp [clearOptional, SortedMap.values, SortedMap.filter]

theorem redirect_redirect (source target : EntityId) (e : Entity) :
    (e.redirect source target).redirect source target = e.redirect source target := by
  simp [redirect, SortedMap.mapValues, Function.comp_def, Reference.redirect_redirect]

@[simp] theorem optionalEntities_clearOptional (p : EntityId → Bool) (e : Entity) :
    (e.clearOptional p).optionalEntities = e.optionalEntities.filter (!p ·) := by
  simp only [optionalEntities, clearOptional, SortedMap.values, SortedMap.filter]
  induction e.optional.entries with
  | nil => rfl
  | cons entry rest ih =>
    cases hl : entry.2.target.entity? with
    | none => simpa [leadsInto, hl, List.filterMap_cons] using ih
    | some id =>
      cases hp : p id with
      | true => simpa [leadsInto, hl, hp, List.filterMap_cons] using ih
      | false => simpa [leadsInto, hl, hp, List.filterMap_cons] using ih

end Entity

namespace EntitySet

variable {s : EntitySet}

theorem get?_eq_some_iff {id : EntityId} {e : Entity} :
    s.get? id = some e ↔ ∃ h : id < s.size, s.entities[id] = e := Array.getElem?_eq_some_iff

theorem id_of_get? {id : EntityId} {e : Entity} (h : s.get? id = some e) : e.id = id := by
  obtain ⟨hlt, rfl⟩ := get?_eq_some_iff.1 h
  exact s.numbered id hlt

theorem exists_get?_of_lt {id : EntityId} (h : id < s.size) : ∃ e, s.get? id = some e :=
  ⟨s.entities[id], get?_eq_some_iff.2 ⟨h, rfl⟩⟩

theorem lt_size_of_get? {id : EntityId} {e : Entity} (h : s.get? id = some e) : id < s.size :=
  (get?_eq_some_iff.1 h).1

theorem mem_toList_iff {e : Entity} : e ∈ s.toList ↔ ∃ id, s.get? id = some e := by
  unfold toList get?
  rw [Array.mem_toList_iff, Array.mem_iff_getElem?]

theorem getElem?_toList (id : EntityId) : s.toList[id]? = s.get? id := Array.getElem?_toList

@[simp] theorem length_toList : s.toList.length = s.size := Array.length_toList

@[simp] theorem size_push (e : Entity) : (s.push e).size = s.size + 1 := Array.size_push _

theorem get?_push (e : Entity) (id : EntityId) :
    (s.push e).get? id = if id = s.size then some { e with id := s.size } else s.get? id :=
  Array.getElem?_push

theorem toList_push (e : Entity) : (s.push e).toList = s.toList ++ [{ e with id := s.size }] :=
  Array.toList_push

variable {f : Entity → Entity} {keeps : ∀ e, (f e).id = e.id}

@[simp] theorem size_modify (id : EntityId) : (s.modify id f keeps).size = s.size :=
  Array.size_modify

theorem get?_modify (id id' : EntityId) :
    (s.modify id f keeps).get? id' = if id = id' then (s.get? id').map f else s.get? id' :=
  Array.getElem?_modify

/-- Apply a function that keeps the number to every entity. -/
def map (s : EntitySet) (f : Entity → Entity) (keeps : ∀ e, (f e).id = e.id) : EntitySet where
  entities := (s.toList.map f).toArray
  numbered i h := by
    rw [List.size_toArray, List.length_map, length_toList] at h
    rw [List.getElem_toArray, List.getElem_map, keeps]
    exact s.numbered i h

@[simp] theorem get?_map (id : EntityId) : (s.map f keeps).get? id = (s.get? id).map f := by
  show (s.toList.map f).toArray[id]? = _
  rw [List.getElem?_toArray, List.getElem?_map, getElem?_toList]

@[simp] theorem size_map : (s.map f keeps).size = s.size := by
  show (s.toList.map f).toArray.size = _
  rw [List.size_toArray, List.length_map, length_toList]

/-- Two sets with the same entities are the same set. -/
theorem ext_get? {a b : EntitySet} (h : ∀ id, a.get? id = b.get? id) : a = b := by
  obtain ⟨as, _⟩ := a
  obtain ⟨bs, _⟩ := b
  have : as = bs := Array.ext_getElem? h
  subst this
  rfl

end EntitySet

end FixturePlan
