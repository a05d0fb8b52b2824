import FixturePlan.Proofs.Plan.Accounting

/-!
# Where the links of a plan lead

The links of a planned entity lead to planned entities, the required ones to entities planned before
it. During a pass this holds only in part (`Linked`): a link may also lead to an entity still to be
decided, or to a dropped one. Dropped entities are out of reach of required links as soon as the
entity that has the link is placed, and of optional links after the final clearing.

That is why the two kinds of links are treated apart. What an entity requires stands before it in the
topological order, so that only the decided entities matter when it is placed. An optional link may
lead forwards, backwards or to its own entity; all that a step keeps is that it stays among the entities
of the order, placed or not, and the dropped ones.
-/

namespace FixturePlan

namespace Included

/-- Where the links lead during a pass: `rest` are the entities still to be decided. -/
structure Linked (rest : List EntityId) (st : Included) : Prop where
  required_placed : ∀ before id, before ++ [id] <+: st.order → ∀ e, st.entities.get? id = some e →
    ∀ t ∈ e.requiredEntities, t ∈ before
  required_ahead : ∀ before id after, rest = before ++ id :: after →
    ∀ e, st.entities.get? id = some e →
    ∀ t ∈ e.requiredEntities, t ∈ st.order ∨ st.isDropped t = true ∨ t ∈ before
  optional_inside : ∀ id ∈ st.order ++ rest, ∀ e, st.entities.get? id = some e →
    ∀ t ∈ e.optionalEntities, t ∈ st.order ++ rest ∨ st.isDropped t = true

namespace Linked

variable {count : Nat} {decided rest : List EntityId} {st : Included} {id : EntityId}

/-- At the start nothing is placed, and the order to come is a topological one. -/
theorem start {s : EntitySet} {order : List EntityId} (horder : s.topologicalOrder = .ok order)
    (hinside : ∀ e ∈ s.toList, ∀ t ∈ e.optionalEntities, t < s.size) :
    Linked order (.start s) where
  required_placed before id hprefix := by
    have hnil : before ++ [id] = [] := List.prefix_nil.1 hprefix
    simp at hnil
  required_ahead before id after hrest e he t ht :=
    Or.inr (Or.inr (s.mem_before_of_topologicalOrder horder hrest he ht))
  optional_inside id hid e he t ht := by
    have hlt : t < s.size := hinside e (EntitySet.mem_toList_iff.2 ⟨id, he⟩) t ht
    exact Or.inl ((EntitySet.mem_topologicalOrder_iff horder).2 hlt)

/-- Before a decision, what an entity still to come requires was decided, is the entity that is decided
now, or comes between the two. -/
theorem required_of_tail (h : Linked (id :: rest) st) {before after : List EntityId} {x : EntityId}
    (hrest : rest = before ++ x :: after) {e : Entity} (he : st.entities.get? x = some e)
    {t : EntityId} (ht : t ∈ e.requiredEntities) :
    t ∈ st.order ∨ st.isDropped t = true ∨ t = id ∨ t ∈ before := by
  have hsplit : id :: rest = (id :: before) ++ x :: after := by rw [hrest, List.cons_append]
  simpa only [List.mem_cons] using h.required_ahead (id :: before) x after hsplit e he t ht

/-- Placing an entity changes no required links and adds no optional ones. -/
theorem exists_get?_of_place {x : EntityId} {e' : Entity}
    (he' : (st.place id).entities.get? x = some e') :
    ∃ e, st.entities.get? x = some e ∧ e'.requiredEntities = e.requiredEntities ∧
      ∀ t ∈ e'.optionalEntities, t ∈ e.optionalEntities := by
  rw [get?_place] at he'
  split at he'
  · obtain ⟨e, he, rfl⟩ := Option.map_eq_some_iff.1 he'
    refine ⟨e, he, rfl, ?_⟩
    intro t ht
    rw [Entity.optionalEntities_clearOptional] at ht
    exact List.mem_of_mem_filter ht
  · exact ⟨e', he', rfl, fun t ht => ht⟩

theorem place (h : Linked (id :: rest) st) {e : Entity} (he : st.entities.get? id = some e)
    (hlive : ∀ t ∈ e.requiredEntities, st.isDropped t = false) : Linked rest (st.place id) where
  required_placed before x hprefix e' he' t ht := by
    obtain ⟨e₀, he₀, hreq, -⟩ := exists_get?_of_place he'
    rw [hreq] at ht
    rcases List.prefix_concat_iff.1 hprefix with heq | hprefix
    · -- the entity just placed: what it requires was decided before, and is not dropped
      obtain ⟨rfl, hx⟩ := List.append_inj' heq rfl
      obtain rfl : x = id := by simpa using hx
      obtain rfl : e₀ = e := Option.some.inj (he₀.symm.trans he)
      rcases h.required_ahead [] x rest rfl e₀ he₀ t ht with ho | hd | hb
      · exact ho
      · rw [hlive t ht] at hd
        cases hd
      · cases hb
    · exact h.required_placed before x hprefix e₀ he₀ t ht
  required_ahead before x after hrest e' he' t ht := by
    obtain ⟨e₀, he₀, hreq, -⟩ := exists_get?_of_place he'
    rw [hreq] at ht
    rcases h.required_of_tail hrest he₀ ht with ho | hd | rfl | hb
    · exact Or.inl (List.mem_append_left _ ho)
    · exact Or.inr (Or.inl hd)
    · exact Or.inl (List.mem_append_right _ List.mem_cons_self)
    · exact Or.inr (Or.inr hb)
  optional_inside x hx e' he' t ht := by
    obtain ⟨e₀, he₀, -, hopt⟩ := exists_get?_of_place he'
    have hsame : (st.place id).order ++ rest = st.order ++ id :: rest := by
      simp [Included.place]
    rw [hsame] at hx ⊢
    exact h.optional_inside x hx e₀ he₀ t (hopt t ht)

theorem drop (h : Linked (id :: rest) st) : Linked rest (st.drop id) where
  required_placed := h.required_placed
  required_ahead before x after hrest e he t ht := by
    rw [Accounted.isDropped_drop, Bool.or_eq_true, decide_eq_true_iff]
    rcases h.required_of_tail hrest he ht with ho | hd | rfl | hb
    · exact Or.inl ho
    · exact Or.inr (Or.inl (Or.inr hd))
    · exact Or.inr (Or.inl (Or.inl rfl))
    · exact Or.inr (Or.inr hb)
  optional_inside x hx e he t ht := by
    rw [Accounted.isDropped_drop, Bool.or_eq_true, decide_eq_true_iff]
    -- dropping takes nothing out of the order: it moves one id from the rest to the dropped
    have hx' : x ∈ st.order ++ id :: rest := by
      rcases List.mem_append.1 hx with hx | hx
      · exact List.mem_append_left _ hx
      · exact List.mem_append_right _ (List.mem_cons_of_mem _ hx)
    rcases h.optional_inside x hx' e he t ht with ht | hd
    · rcases List.mem_append.1 ht with ho | hr
      · exact Or.inl (List.mem_append_left _ ho)
      · rcases List.mem_cons.1 hr with rfl | hr
        · exact Or.inr (Or.inl rfl)
        · exact Or.inl (List.mem_append_right _ hr)
    · exact Or.inr (Or.inr hd)

/-- After a replacement the links of the other entities are redirected, and the stand-in has
none. -/
theorem exists_get?_of_replace {x : EntityId} {e e' : Entity} {ids : List EntityId}
    (hlt : ∀ x ∈ st.order ++ ids, x < st.entities.size)
    (hx : x ∈ (st.replace id e ids).order ++ ids)
    (he' : (st.replace id e ids).entities.get? x = some e') :
    (x = st.entities.size ∧ e'.requiredEntities = [] ∧ e'.optionalEntities = []) ∨
      (x ∈ st.order ++ ids ∧ ∃ e₀, st.entities.get? x = some e₀ ∧
        e' = e₀.redirect id st.entities.size) := by
  have hx' : x = st.entities.size ∨ x ∈ st.order ++ ids := by
    have horder : (st.replace id e ids).order = st.order ++ [st.entities.size] := rfl
    rw [horder, List.append_assoc, List.mem_append, List.mem_append, List.mem_singleton] at hx
    rw [List.mem_append]
    tauto
  rcases hx' with rfl | hx'
  · rw [get?_replace_self] at he'
    obtain rfl := Option.some.inj he'
    exact Or.inl ⟨rfl, rfl, rfl⟩
  · rw [get?_replace hx' (hlt x hx')] at he'
    obtain ⟨e₀, he₀, rfl⟩ := Option.map_eq_some_iff.1 he'
    exact Or.inr ⟨hx', e₀, he₀, rfl⟩

/-! ### Replacing

A link to the replaced entity leads to its stand-in afterwards, and all other links lead where they led. -/

section Replace

variable (h : Linked (id :: rest) st) (hlt : ∀ x ∈ st.order ++ rest, x < st.entities.size)
include h hlt

theorem required_placed_replace (hid : id ∉ st.order) {before : List EntityId} {x : EntityId}
    {e e' : Entity} (hplaced : before ++ [x] <+: (st.replace id e rest).order)
    (he' : (st.replace id e rest).entities.get? x = some e') :
    ∀ t ∈ e'.requiredEntities, t ∈ before := by
  intro t ht
  have horder : (st.replace id e rest).order = st.order ++ [st.entities.size] := rfl
  have hx : x ∈ (st.replace id e rest).order :=
    hplaced.subset (List.mem_append_right _ List.mem_cons_self)
  rcases exists_get?_of_replace hlt (List.mem_append_left _ hx) he' with
    ⟨-, hreq, -⟩ | ⟨hx', e₀, he₀, rfl⟩
  · rw [hreq] at ht
    cases ht
  · rw [horder] at hplaced
    rcases List.prefix_concat_iff.1 hplaced with heq | hplaced
    · obtain ⟨-, hxs⟩ := List.append_inj' heq rfl
      obtain rfl : x = st.entities.size := by simpa using hxs
      exact absurd (hlt _ hx') (Nat.lt_irrefl _)
    · rw [Entity.requiredEntities_redirect] at ht
      obtain ⟨u, hu, rfl⟩ := List.mem_map.1 ht
      have hub := h.required_placed before x hplaced e₀ he₀ u hu
      -- what is placed cannot require the replaced entity, which was not
      have hne : u ≠ id := by
        rintro rfl
        exact hid (((List.prefix_append before [x]).trans hplaced).subset hub)
      rwa [Reference.turn_of_ne hne]

theorem required_ahead_replace {before after : List EntityId} {x : EntityId} {e e' : Entity}
    (hrest : rest = before ++ x :: after)
    (he' : (st.replace id e rest).entities.get? x = some e') :
    ∀ t ∈ e'.requiredEntities,
      t ∈ st.order ++ [st.entities.size] ∨ st.isDropped t = true ∨ t ∈ before := by
  intro t ht
  have hx : x ∈ rest := by simp [hrest]
  rcases exists_get?_of_replace hlt (List.mem_append_right _ hx) he' with
    ⟨-, hreq, -⟩ | ⟨-, e₀, he₀, rfl⟩
  · rw [hreq] at ht
    cases ht
  · rw [Entity.requiredEntities_redirect] at ht
    obtain ⟨u, hu, rfl⟩ := List.mem_map.1 ht
    by_cases hne : u = id
    · subst hne
      rw [Reference.turn_self]
      exact Or.inl (List.mem_append_right _ (List.mem_singleton_self _))
    · rw [Reference.turn_of_ne hne]
      rcases h.required_of_tail hrest he₀ hu with ho | hd | heq | hb
      · exact Or.inl (List.mem_append_left _ ho)
      · exact Or.inr (Or.inl hd)
      · exact absurd heq hne
      · exact Or.inr (Or.inr hb)

theorem optional_inside_replace {x : EntityId} {e e' : Entity}
    (hx : x ∈ (st.replace id e rest).order ++ rest)
    (he' : (st.replace id e rest).entities.get? x = some e') :
    ∀ t ∈ e'.optionalEntities,
      t ∈ (st.order ++ [st.entities.size]) ++ rest ∨ st.isDropped t = true := by
  intro t ht
  rcases exists_get?_of_replace hlt hx he' with ⟨-, -, hopt⟩ | ⟨hx', e₀, he₀, rfl⟩
  · rw [hopt] at ht
    cases ht
  · rw [Entity.optionalEntities_redirect] at ht
    obtain ⟨u, hu, rfl⟩ := List.mem_map.1 ht
    by_cases hne : u = id
    · subst hne
      rw [Reference.turn_self]
      exact Or.inl (by simp)
    · have hx'' : x ∈ st.order ++ id :: rest := by
        rcases List.mem_append.1 hx' with hx' | hx' <;> simp [hx']
      rw [Reference.turn_of_ne hne]
      rcases h.optional_inside x hx'' e₀ he₀ u hu with hu | hd
      · rcases List.mem_append.1 hu with ho | hr
        · exact Or.inl (by simp [ho])
        · exact Or.inl (by simp [(List.mem_cons.1 hr).resolve_left hne])
      · exact Or.inr hd

theorem replace (hid : id ∉ st.order) (e : Entity) : Linked rest (st.replace id e rest) where
  required_placed _ _ hplaced _ := h.required_placed_replace hlt hid hplaced
  required_ahead _ _ _ hrest _ := h.required_ahead_replace hlt hrest
  optional_inside _ hx _ := h.optional_inside_replace hlt hx

end Replace

end Linked

/-- The links after the decisions about a whole topological order. -/
theorem linked_decideAll {decide : Decider} {s : EntitySet} {order : List EntityId}
    (horder : s.topologicalOrder = .ok order)
    (hinside : ∀ e ∈ s.toList, ∀ t ∈ e.optionalEntities, t < s.size)
    (hok : (decideAll decide (.start s) order).failure = none) :
    Linked [] (decideAll decide (.start s) order).state := by
  have hlt : ∀ x ∈ order, x < s.size := fun x => (EntitySet.mem_topologicalOrder_iff horder).1
  refine (accounted_of_step (EntitySet.nodup_of_topologicalOrder horder) hlt ?_
    (Linked.start horder hinside) hok).1
  -- the step: every target is in range, whichever way the entity goes
  intro decided id rest st hsplit hid hbooks hlinked hone
  have hidlt : id < s.size := hlt id (by simp [hsplit])
  have hdecided : ∀ x ∈ decided, x < s.size := fun x hx => hlt x (by simp [hsplit, hx])
  have hsize : s.size ≤ st.entities.size := hbooks.size_eq ▸ Nat.le_add_right _ _
  have hinrange : ∀ x ∈ st.order ++ rest, x < st.entities.size := by
    intro x hx
    rcases List.mem_append.1 hx with hx | hx
    · exact hbooks.lt_size_of_mem_order hdecided hx
    · exact Nat.lt_of_lt_of_le (hlt x (by simp [hsplit, hx])) hsize
  obtain ⟨e, he⟩ := EntitySet.exists_get?_of_lt (Nat.lt_of_lt_of_le hidlt hsize)
  rcases decideOne_cases he hone with ⟨-, hlive, hst⟩ | ⟨-, hst⟩ | ⟨-, hst⟩
  · exact hst ▸ hlinked.place he hlive
  · exact hst ▸ hlinked.drop
  · exact hst ▸ hlinked.replace hinrange (hbooks.not_mem_order hid hidlt) e

/-- After the final clearing the entities of the order refer to entities of the order alone, and
require only those before them. -/
theorem exists_get?_outcome {decide : Decider} {s : EntitySet} {order : List EntityId}
    (horder : s.topologicalOrder = .ok order)
    (hinside : ∀ e ∈ s.toList, ∀ t ∈ e.optionalEntities, t < s.size)
    (hok : (decideAll decide (.start s) order).failure = none)
    {before after : List EntityId} {id : EntityId}
    (hsplit : (outcome decide s order).order = before ++ id :: after) :
    ∃ e, (outcome decide s order).entities.get? id = some e ∧
      (∀ t ∈ e.requiredEntities, t ∈ before) ∧
      ∀ t ∈ e.optionalEntities, t ∈ (outcome decide s order).order := by
  have hlt : ∀ x ∈ order, x < s.size := fun x => (EntitySet.mem_topologicalOrder_iff horder).1
  have hmem : id ∈ (outcome decide s order).order := by
    rw [hsplit]
    exact List.mem_append_right _ List.mem_cons_self
  obtain ⟨e, he⟩ := EntitySet.exists_get?_of_lt
    ((accounted_outcome horder hok).lt_size_of_mem_order hlt hmem)
  have hlinked := linked_decideAll horder hinside hok
  -- `st` is the state before the final clearing
  unfold outcome at hsplit hmem he ⊢
  generalize (decideAll decide (.start s) order).state = st at *
  have hsame : (st.clearAll st.order).state.order = st.order := (clearAll_eq st st.order).2.1
  simp only [hsame] at hsplit hmem ⊢
  have hget := he
  rw [get?_clearAll, if_pos hmem] at hget
  obtain ⟨e₀, he₀, rfl⟩ := Option.map_eq_some_iff.1 hget
  refine ⟨_, he, ?_, ?_⟩
  · exact hlinked.required_placed before id ⟨after, by simp [hsplit]⟩ e₀ he₀
  · intro t ht
    rw [Entity.optionalEntities_clearOptional, List.mem_filter] at ht
    obtain ⟨hopt, hlive⟩ := ht
    rcases hlinked.optional_inside id (List.mem_append_left _ hmem) e₀ he₀ t hopt with ht | hd
    · rwa [List.append_nil] at ht
    · simp [hd] at hlive

end Included

namespace Plan

variable {schema : Schema} {joins : JoinShapes} {entities : EntitySet} {decide : Decider}
  {plan : Plan}

/-- In a set whose links stay inside, the links of every planned entity lead to planned entities, the
required ones to entities planned before it. -/
theorem exists_get?_of_build (h : (build schema joins entities decide).result = .ok plan)
    (hinside : ∀ e ∈ entities.toList, ∀ l ∈ e.links, ∀ t, l.target = .resolved t →
      t < entities.size)
    {before after : List EntityId} {id : EntityId} (hsplit : plan.order = before ++ id :: after) :
    ∃ e, plan.entities.get? id = some e ∧
      (∀ l ∈ e.required, ∀ t, l.target = .resolved t → t ∈ before) ∧
      ∀ l ∈ e.links, ∀ t, l.target = .resolved t → t ∈ plan.order := by
  obtain ⟨sorted, hsorted, hok, rfl⟩ := exists_order_of_build h
  have hoptional : ∀ e ∈ entities.toList, ∀ t ∈ e.optionalEntities, t < entities.size := by
    intro e he t ht
    obtain ⟨l, hl, htarget⟩ := Entity.mem_optionalEntities.1 ht
    exact hinside e he l (List.mem_append_right _ hl) t htarget
  obtain ⟨e, he, hrequired, hopt⟩ := Included.exists_get?_outcome hsorted hoptional hok hsplit
  have hbefore : ∀ l ∈ e.required, ∀ t, l.target = .resolved t → t ∈ before :=
    fun l hl t ht => hrequired t (Entity.mem_requiredEntities.2 ⟨l, hl, ht⟩)
  refine ⟨e, he, hbefore, ?_⟩
  intro l hl t ht
  rcases List.mem_append.1 hl with hl | hl
  · rw [hsplit]
    exact List.mem_append_left _ (hbefore l hl t ht)
  · exact hopt t (Entity.mem_optionalEntities.2 ⟨l, hl, ht⟩)

/-- In a set whose links stay inside, the links of every planned entity lead to planned entities,
the required ones to entities planned before it, and none to a dropped or replaced entity. -/
theorem build_links_to_planned (h : (build schema joins entities decide).result = .ok plan)
    (hinside : ∀ e ∈ entities.toList, ∀ l ∈ e.links, ∀ t, l.target = .resolved t →
      t < entities.size) :
    ∀ before id after, plan.order = before ++ id :: after →
      ∃ e, plan.entities.get? id = some e ∧
        (∀ l ∈ e.required, ∀ t, l.target = .resolved t → t ∈ before) ∧
        ∀ l ∈ e.links, ∀ t, l.target = .resolved t →
          t ∈ plan.order ∧ plan.dropped.contains t = false ∧ plan.replaced.contains t = false := by
  intro before id after hsplit
  obtain ⟨e, he, hbefore, hplanned⟩ := exists_get?_of_build h hinside hsplit
  refine ⟨e, he, hbefore, ?_⟩
  intro l hl t ht
  have hmem : t ∈ plan.order := hplanned l hl t ht
  exact ⟨hmem, live_of_mem_order h hmem⟩

theorem build_sample_links_to_planned :
    ∃ plan, (build (.empty "main") ∅ sample sampleDecider).result = .ok plan ∧
      plan.order = [1, 4, 0] ∧
      ∀ before id after, plan.order = before ++ id :: after →
        ∃ e, plan.entities.get? id = some e ∧
          (∀ l ∈ e.required, ∀ t, l.target = .resolved t → t ∈ before) ∧
          ∀ l ∈ e.links, ∀ t, l.target = .resolved t →
            t ∈ plan.order ∧ plan.dropped.contains t = false ∧
              plan.replaced.contains t = false := by
  obtain ⟨plan, h, horder, -, -⟩ := exists_build_sample
  have hinside : ∀ e ∈ sample.toList, ∀ l ∈ e.links, ∀ t, l.target = .resolved t →
      t < sample.size := by
    simp only [← Reference.entity?_eq_some_iff]
    decide
  exact ⟨plan, h, horder, build_links_to_planned h hinside⟩

end Plan

end FixturePlan
