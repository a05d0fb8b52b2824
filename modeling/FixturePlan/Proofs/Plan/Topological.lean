import FixturePlan.Proofs.Entity.Slot
import FixturePlan.Proofs.Plan.Accounting
import FixturePlan.Proofs.Plan.Order

/-!
# Which sets of entities have an order

A set has an order if and only if no required link is still a placeholder and no way along required
links leads from an entity back to it (`EntitySet.exists_topologicalOrder_iff`). What comes out is then
a topological order (`EntitySet.isTopological`). The placeholders are looked for first, so that a set
that has both a placeholder and a cycle is refused for its first placeholder.
-/

namespace FixturePlan.EntitySet

/-- An entity requires another: one of its required links has found it. -/
def Requires (s : EntitySet) (a b : EntityId) : Prop :=
  ∃ e, s.get? a = some e ∧ ∃ l ∈ e.required, l.target = .resolved b

/-- An order of a whole set in which every entity comes after those that it requires. -/
structure IsTopological (s : EntitySet) (order : List EntityId) : Prop where
  /-- The order has every entity of the set once. -/
  perm : order.Perm (List.range s.size)
  mem_before : ∀ before id after, order = before ++ id :: after → ∀ t, s.Requires id t → t ∈ before

/-- The required link of an entity at a position is the first of the whole set that is still a
placeholder. -/
structure IsFirstPlaceholder (s : EntitySet) (id : EntityId) (position : Nat) (l : Link) : Prop where
  link_eq : s.link? id (.required position) = some l
  waiting : ∃ p, l.target = .placeholder p
  first : ∀ id' position' l', id' < id ∨ id' = id ∧ position' < position →
    s.link? id' (.required position') = some l' → ∀ p, l'.target ≠ .placeholder p

variable {s : EntitySet} {order : List EntityId}

/-! ### Cycles

A set has an order if and only if its edges have one, and these form a cycle if and only if the required
links do. -/

theorem mem_requiredEdges_iff_requires {a b : EntityId} :
    (a, b) ∈ s.requiredEdges ↔ s.Requires b a := by
  simp only [mem_requiredEdges, Requires, Entity.mem_requiredEntities]

/-- The edges lead from an entity to those that require it, against the links. -/
theorem acyclic_requiredEdges_iff :
    Order.Acyclic s.requiredEdges ↔ ∀ id, ¬Relation.TransGen s.Requires id id := by
  have hswap : (fun a b => (a, b) ∈ s.requiredEdges) = Function.swap s.Requires := by
    funext a b
    exact propext mem_requiredEdges_iff_requires
  simp only [Order.Acyclic, Order.Path, hswap, Relation.transGen_swap]

theorem acyclic_of_topologicalOrder (h : s.topologicalOrder = .ok order) :
    ∀ id, ¬Relation.TransGen s.Requires id id := by
  apply acyclic_requiredEdges_iff.1
  exact Order.acyclic_of_leastFirst? (leastFirst?_of_topologicalOrder h)
    fun _ => lt_size_of_mem_requiredEdges

/-- Links that stay inside lead to entities of the set. -/
theorem lt_size_of_requires
    (hinside : ∀ e ∈ s.toList, ∀ l ∈ e.required, ∀ t, l.target = .resolved t → t < s.size) :
    ∀ a b, s.Requires a b → b < s.size := by
  rintro a b ⟨e, he, l, hl, htarget⟩
  exact hinside e (mem_toList_iff.2 ⟨a, he⟩) l hl b htarget

theorem inRange_requiredEdges (hinside : ∀ a b, s.Requires a b → b < s.size) :
    ∀ e ∈ s.requiredEdges, e.1 < s.size ∧ e.2 < s.size := fun e he =>
  ⟨hinside e.2 e.1 (mem_requiredEdges_iff_requires.1 he), lt_size_of_mem_requiredEdges he⟩

theorem exists_order_of_acyclic (hinside : ∀ a b, s.Requires a b → b < s.size)
    (hplaced : s.firstPlaceholder? = none) (hacyclic : ∀ id, ¬Relation.TransGen s.Requires id id) :
    ∃ order, s.topologicalOrder = .ok order := by
  obtain ⟨order, horder⟩ := (acyclic_requiredEdges_iff.2 hacyclic).exists_leastFirst?
    (inRange_requiredEdges hinside)
  refine ⟨order, ?_⟩
  rw [topologicalOrder, topologicalOrderBy, hplaced]
  simp only [horder]

/-- What `topologicalOrder` gives is a topological order. -/
theorem isTopological (h : s.topologicalOrder = .ok order) : s.IsTopological order where
  perm := perm_of_topologicalOrder h
  mem_before before id after hsplit t := by
    rintro ⟨e, he, hrequired⟩
    exact mem_before_of_topologicalOrder h hsplit he (Entity.mem_requiredEntities.2 hrequired)

/-! ### Placeholders

The search for a placeholder goes by entities and then by the positions of their links. -/

theorem firstPlaceholder?_eq_none_of_topologicalOrder (h : s.topologicalOrder = .ok order) :
    s.firstPlaceholder? = none := by
  unfold topologicalOrder topologicalOrderBy at h
  split at h
  · cases h
  · next hnone => exact hnone

/-- The placeholder that is found is the first one, entity by entity and link by link. -/
theorem exists_of_firstPlaceholder? {e : Entity} {l : Link} (h : s.firstPlaceholder? = some (e, l)) :
    s.get? e.id = some e ∧ ∃ position, s.IsFirstPlaceholder e.id position l := by
  obtain ⟨earlier, e', later, hlist, hfound, hnone⟩ := List.findSome?_eq_some_iff.1 h
  obtain ⟨l', hl', heq⟩ := Option.map_eq_some_iff.1 hfound
  obtain ⟨rfl, rfl⟩ := Prod.mk.inj heq
  obtain ⟨hwaiting, position, hposition, hl, hbefore⟩ := List.find?_eq_some_iff_getElem.1 hl'
  -- the number of an entity is its position in the list
  have hget : s.get? earlier.length = some e' := by
    rw [← getElem?_toList, hlist, List.getElem?_append_right (Nat.le_refl _), Nat.sub_self]
    rfl
  have hid : e'.id = earlier.length := id_of_get? hget
  refine ⟨hid ▸ hget, position, ?_, ?_, ?_⟩
  · show (s.get? e'.id).bind (·.link? (.required position)) = some l'
    rw [hid, hget, Option.bind_some]
    exact List.getElem?_eq_some_iff.2 ⟨hposition, hl⟩
  · obtain ⟨p, hp⟩ := Option.isSome_iff_exists.1 hwaiting
    exact ⟨p, Reference.placeholder?_eq_some_iff.1 hp⟩
  · intro id' position' l'' hlt hlink p htarget
    obtain ⟨e'', he'', hlink⟩ := Option.bind_eq_some_iff.1 hlink
    have hsome : l''.target.placeholder?.isSome = true :=
      Option.isSome_iff_exists.2 ⟨p, Reference.placeholder?_eq_some_iff.2 htarget⟩
    rcases hlt with hlt | ⟨rfl, hlt⟩
    · -- in an entity before there is no placeholder at all
      rw [hid] at hlt
      have hmem : e'' ∈ earlier := by
        rw [← getElem?_toList, hlist, List.getElem?_append_left hlt] at he''
        exact List.mem_of_getElem? he''
      have hfree := List.find?_eq_none.1 (Option.map_eq_none_iff.1 (hnone e'' hmem))
      exact hfree l'' (List.mem_of_getElem? hlink) hsome
    · rw [hid, hget] at he''
      obtain rfl := Option.some.inj he''
      obtain ⟨hpos', hl''⟩ := List.getElem?_eq_some_iff.1 hlink
      have hfree := hbefore position' hlt
      simp [hl'', hsome] at hfree

theorem exists_isFirstPlaceholder
    (h : ∃ e ∈ s.toList, ∃ l ∈ e.required, ∃ p, l.target = .placeholder p) :
    ∃ id position l, s.IsFirstPlaceholder id position l ∧
      s.topologicalOrder = .error (.unresolvedPlaceholder (s.label id) l.name) := by
  obtain ⟨e, he, l, hl, p, hp⟩ := h
  cases hfirst : s.firstPlaceholder? with
  | none => exact absurd hp (firstPlaceholder?_eq_none_iff.1 hfirst e he l hl p)
  | some found =>
    obtain ⟨e', l'⟩ := found
    obtain ⟨hget, position, hisFirst⟩ := exists_of_firstPlaceholder? hfirst
    refine ⟨e'.id, position, l', hisFirst, ?_⟩
    rw [topologicalOrder, topologicalOrderBy, hfirst, label, hget]
    rfl

/-! ### The law -/

/-- In a set whose required links stay inside: **there is an order if and only if no required link is a
placeholder and required links form no cycle.** It is a topological order; and where there is a
placeholder, the first one is named, cycle or no cycle. -/
theorem exists_topologicalOrder_iff
    (hinside : ∀ e ∈ s.toList, ∀ l ∈ e.required, ∀ t, l.target = .resolved t → t < s.size) :
    ((∃ order, s.topologicalOrder = .ok order) ↔
      (∀ e ∈ s.toList, ∀ l ∈ e.required, ∀ p, l.target ≠ .placeholder p) ∧
        ∀ id, ¬Relation.TransGen s.Requires id id) ∧
    (∀ order, s.topologicalOrder = .ok order → s.IsTopological order) ∧
    ((∃ e ∈ s.toList, ∃ l ∈ e.required, ∃ p, l.target = .placeholder p) →
      ∃ id position l, s.IsFirstPlaceholder id position l ∧
        s.topologicalOrder = .error (.unresolvedPlaceholder (s.label id) l.name)) := by
  refine ⟨⟨?_, ?_⟩, fun order => isTopological, exists_isFirstPlaceholder⟩
  · rintro ⟨order, horder⟩
    have hplaced := firstPlaceholder?_eq_none_of_topologicalOrder horder
    exact ⟨firstPlaceholder?_eq_none_iff.1 hplaced, acyclic_of_topologicalOrder horder⟩
  · rintro ⟨hplaced, hacyclic⟩
    exact exists_order_of_acyclic (lt_size_of_requires hinside)
      (firstPlaceholder?_eq_none_iff.2 hplaced) hacyclic

/-- A hen and an egg that require each other; the egg also waits for a farm. -/
def knot : EntitySet :=
  let hen := { Entity.extracted 0 "hen" with
    required := [Plan.sampleLink "laid" 1, Plan.sampleLink "hatched" 1] }
  let egg := { Entity.extracted 0 "egg" with
    required := [Plan.sampleLink "layer" 0, ⟨"farm", 1, .placeholder ⟨1, 1, []⟩⟩] }
  ((∅ : EntitySet).push hen).push egg

theorem exists_topologicalOrder_iff_sample :
    Plan.sample.IsTopological [1, 2, 0, 3] ∧
      (∀ id, ¬Relation.TransGen Plan.sample.Requires id id) ∧
      (¬∃ order, knot.topologicalOrder = .ok order) ∧
      ∃ id position l, knot.IsFirstPlaceholder id position l ∧
        knot.topologicalOrder = .error (.unresolvedPlaceholder (knot.label id) l.name) := by
  have hsorted : Plan.sample.topologicalOrder = .ok [1, 2, 0, 3] := topologicalOrder_eq_ok rfl rfl rfl
  have hsample : ∀ e ∈ Plan.sample.toList, ∀ l ∈ e.required, ∀ t, l.target = .resolved t →
      t < Plan.sample.size := by
    simp only [← Reference.entity?_eq_some_iff]
    decide
  have hknot : ∀ e ∈ knot.toList, ∀ l ∈ e.required, ∀ t, l.target = .resolved t →
      t < knot.size := by
    simp only [← Reference.entity?_eq_some_iff]
    decide
  have hwaiting : ∃ e ∈ knot.toList, ∃ l ∈ e.required, ∃ p, l.target = .placeholder p :=
    ⟨_, List.mem_of_getElem? (i := 1) rfl, _, List.mem_of_getElem? (i := 1) rfl, _, rfl⟩
  obtain ⟨hiff, htopological, -⟩ := exists_topologicalOrder_iff hsample
  obtain ⟨hiff', -, hfirst⟩ := exists_topologicalOrder_iff hknot
  refine ⟨htopological _ hsorted, (hiff.1 ⟨_, hsorted⟩).2, ?_, hfirst hwaiting⟩
  -- the knot waits for a row, and such a set has no order
  intro horder
  obtain ⟨e, he, l, hl, p, hp⟩ := hwaiting
  exact (hiff'.1 horder).1 e he l hl p hp

end FixturePlan.EntitySet
