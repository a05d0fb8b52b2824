import FixturePlan.Proofs.Entity.Matching

/-!
# Links by slot

A link is known by its entity and its slot, whether it is required or optional. Changes at one slot
leave the links in the others as they are, and a set is known by its rows and its links (`ext_link?`).
-/

namespace FixturePlan

namespace Entity

/-- The link in a slot. -/
def link? (e : Entity) : LinkSlot → Option Link
  | .required position => e.required[position]?
  | .optional name => e.optional.find? name

theorem mem_required_iff {e : Entity} {l : Link} :
    l ∈ e.required ↔ ∃ position, e.link? (.required position) = some l := List.mem_iff_getElem?

/-- The links of an entity are those in its slots. -/
theorem mem_links_iff {e : Entity} {l : Link} : l ∈ e.links ↔ ∃ slot, e.link? slot = some l := by
  rw [links, List.mem_append, mem_required_iff, SortedMap.mem_values]
  constructor
  · rintro (⟨position, hl⟩ | ⟨name, hl⟩)
    · exact ⟨.required position, hl⟩
    · exact ⟨.optional name, hl⟩
  · rintro ⟨slot, hl⟩
    cases slot with
    | required position => exact Or.inl ⟨position, hl⟩
    | optional name => exact Or.inr ⟨name, hl⟩

theorem link?_setRequired (e : Entity) (position : Nat) (target : Reference) (slot : LinkSlot) :
    (e.setRequired position target).link? slot =
      if slot = .required position then (e.link? slot).map ({ · with target }) else e.link? slot := by
  cases slot with
  | optional name => simp [link?, setRequired]
  | required i =>
    simp only [link?, setRequired, List.getElem?_modify, LinkSlot.required.injEq]
    by_cases h : i = position
    · simp [h]
    · simp [h, Ne.symm h]

theorem link?_setOptional (e : Entity) (name : String) (target : Reference) (slot : LinkSlot) :
    (e.setOptional name target).link? slot =
      if slot = .optional name then (e.link? slot).map ({ · with target }) else e.link? slot := by
  cases slot with
  | required i => simp [link?, setOptional]
  | optional n =>
    simp only [link?, setOptional, SortedMap.find?_modify, LinkSlot.optional.injEq]
    by_cases h : n = name
    · simp [h]
    · simp [h, Ne.symm h]

theorem link?_removeOptional (e : Entity) (name : String) (slot : LinkSlot) :
    (e.removeOptional name).link? slot =
      if slot = .optional name then none else e.link? slot := by
  cases slot with
  | required i => simp [link?, removeOptional]
  | optional n => simp [link?, removeOptional, SortedMap.find?_erase]

theorem link?_redirect (source target : EntityId) (e : Entity) (slot : LinkSlot) :
    (e.redirect source target).link? slot =
      (e.link? slot).map fun l => { l with target := l.target.redirect source target } := by
  cases slot with
  | required position => exact List.getElem?_map
  | optional name => exact SortedMap.find?_mapValues ..

theorem link?_clearOptional (p : EntityId → Bool) (e : Entity) (slot : LinkSlot) :
    (e.clearOptional p).link? slot =
      match slot with
      | .required _ => e.link? slot
      | .optional _ => (e.link? slot).filter fun l => !leadsInto p l := by
  cases slot with
  | required position => rfl
  | optional name => rw [link?, clearOptional, SortedMap.find?_filter, link?]

@[simp] theorem link?_standIn (e : Entity) (slot : LinkSlot) : e.standIn.link? slot = none := by
  cases slot <;> rfl

theorem mem_optionalInto {p : EntityId → Bool} {e : Entity} {name : String} :
    name ∈ e.optionalInto p ↔ ∃ l, e.link? (.optional name) = some l ∧ leadsInto p l = true := by
  simp only [optionalInto, SortedMap.mem_keys, SortedMap.find?_filter, Option.filter_eq_some_iff,
    link?]

theorem mem_pending_iff {e : Entity} {job : Pending} :
    job ∈ e.pending ↔ job.entity = e.id ∧
      ∃ l, e.link? job.slot = some l ∧ l.target = .placeholder job.placeholder := by
  obtain ⟨entity, slot, p⟩ := job
  simp only [pending, List.mem_append, List.mem_filterMap, Option.map_eq_some_iff,
    Reference.placeholder?_eq_some_iff, Pending.mk.injEq]
  -- a required link has a position in the list, an optional one a name in the map
  cases slot with
  | required position =>
    simp only [link?, reduceCtorEq, false_and, and_false, exists_false, or_false,
      LinkSlot.required.injEq]
    constructor
    · rintro ⟨⟨l, i⟩, hl, p', htarget, rfl, rfl, rfl⟩
      exact ⟨rfl, l, List.mem_zipIdx_iff_getElem?.1 hl, htarget⟩
    · rintro ⟨rfl, l, hl, htarget⟩
      exact ⟨(l, position), List.mem_zipIdx_iff_getElem?.2 hl, p, htarget, rfl, rfl, rfl⟩
  | optional name =>
    simp only [link?, reduceCtorEq, false_and, and_false, exists_false, false_or,
      LinkSlot.optional.injEq, SortedMap.find?_eq_some_iff]
    constructor
    · rintro ⟨⟨n, l⟩, hl, p', htarget, rfl, rfl, rfl⟩
      exact ⟨rfl, l, hl, htarget⟩
    · rintro ⟨rfl, l, hl, htarget⟩
      exact ⟨(name, l), hl, p, htarget, rfl, rfl, rfl⟩

theorem ext_link? {e e' : Entity} (hbare : e.bare = e'.bare)
    (hlink : ∀ slot, e.link? slot = e'.link? slot) : e = e' := by
  have hrequired : e.required = e'.required :=
    List.ext_getElem? fun position => hlink (.required position)
  have hoptional : e.optional = e'.optional :=
    SortedMap.ext_find? fun name => hlink (.optional name)
  cases e
  cases e'
  simp only [bare, Entity.mk.injEq] at hbare hrequired hoptional ⊢
  simp [hbare, hrequired, hoptional]

end Entity

namespace EntitySet

/-- The link of an entity in a slot. -/
def link? (s : EntitySet) (id : EntityId) (slot : LinkSlot) : Option Link :=
  (s.get? id).bind (·.link? slot)

theorem link?_setLink (s : EntitySet) (id : EntityId) (slot : LinkSlot) (target : Reference)
    (id' : EntityId) (slot' : LinkSlot) :
    (s.setLink id slot target).link? id' slot' =
      if id' = id ∧ slot' = slot then (s.link? id' slot').map ({ · with target })
      else s.link? id' slot' := by
  unfold link? setLink
  cases slot with
  | required position =>
    simp only [get?_modify]
    by_cases hid : id = id'
    · cases s.get? id' <;> simp [hid, Entity.link?_setRequired]
    · simp [hid, Ne.symm hid]
  | optional name =>
    simp only [get?_modify]
    by_cases hid : id = id'
    · cases s.get? id' <;> simp [hid, Entity.link?_setOptional]
    · simp [hid, Ne.symm hid]

theorem link?_removeOptional (s : EntitySet) (id : EntityId) (name : String) (id' : EntityId)
    (slot' : LinkSlot) :
    (s.removeOptional id name).link? id' slot' =
      if id' = id ∧ slot' = .optional name then none else s.link? id' slot' := by
  unfold link? removeOptional
  simp only [get?_modify]
  by_cases hid : id = id'
  · cases s.get? id' <;> simp [hid, Entity.link?_removeOptional]
  · simp [hid, Ne.symm hid]

/-- A stand-in has no links, as if it were not there. -/
theorem link?_push_standIn (s : EntitySet) (e : Entity) (id : EntityId) (slot : LinkSlot) :
    (s.push e.standIn).link? id slot = s.link? id slot := by
  unfold link?
  rw [get?_push]
  split
  · next hid =>
    have hnone : s.get? id = none := by
      apply Option.eq_none_iff_forall_ne_some.2
      intro e' he'
      exact Nat.ne_of_lt (lt_size_of_get? he') hid
    rw [hnone]
    exact e.link?_standIn slot
  · rfl

theorem get?_setLink_of_ne (s : EntitySet) {id id' : EntityId} (h : id' ≠ id) (slot : LinkSlot)
    (target : Reference) : (s.setLink id slot target).get? id' = s.get? id' := by
  cases slot with
  | required position => rw [setLink, get?_modify, if_neg (Ne.symm h)]
  | optional name => rw [setLink, get?_modify, if_neg (Ne.symm h)]

theorem get?_removeOptional_of_ne (s : EntitySet) {id id' : EntityId} (h : id' ≠ id)
    (name : String) : (s.removeOptional id name).get? id' = s.get? id' := by
  rw [removeOptional, get?_modify, if_neg (Ne.symm h)]

theorem mem_pending_iff {s : EntitySet} {job : Pending} :
    job ∈ s.pending ↔
      ∃ l, s.link? job.entity job.slot = some l ∧ l.target = .placeholder job.placeholder := by
  simp only [pending, List.mem_flatMap, mem_toList_iff, Entity.mem_pending_iff, link?,
    Option.bind_eq_some_iff]
  constructor
  · rintro ⟨e, ⟨id, he⟩, hid, l, hl, htarget⟩
    exact ⟨l, ⟨e, by rw [hid, id_of_get? he, he], hl⟩, htarget⟩
  · rintro ⟨l, ⟨e, he, hl⟩, htarget⟩
    exact ⟨e, ⟨_, he⟩, (id_of_get? he).symm, l, hl, htarget⟩

/-- Sets that agree in their rows and in every link are the same set. -/
theorem ext_link? {a b : EntitySet} (hrows : a.rows = b.rows)
    (hlink : ∀ id slot, a.link? id slot = b.link? id slot) : a = b := by
  apply ext_get?
  intro id
  have hid := map_bare_get?_of_rows_eq hrows id
  have hlinks := hlink id
  unfold link? at hlinks
  cases ha : a.get? id with
  | none =>
    cases hb : b.get? id with
    | none => rfl
    | some e' => simp [ha, hb] at hid
  | some e =>
    cases hb : b.get? id with
    | none => simp [ha, hb] at hid
    | some e' =>
      simp only [ha, hb, Option.map_some, Option.some.injEq, Option.bind_some] at hid hlinks
      rw [Entity.ext_link? hid hlinks]

end EntitySet

end FixturePlan
