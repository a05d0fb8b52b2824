import FixturePlan.Proofs.Plan.Effect
import FixturePlan.Proofs.Plan.Rows
import FixturePlan.Proofs.Plan.Topological

/-!
# When a dropped entity is still required

A decider that does not look at links says beforehand what becomes of every entity, and with it which
entities are kept although they require a dropped one (`Refused`). A plan fails if and only if there is
such an entity, and the failure names the first one of the order (`Plan.build_droppedDependency_iff`).

The pass itself asks something else: whether a link, as redirected so far, leads to an entity dropped so
far. The two questions have the same answer, as a topological order decides about everything that an
entity requires before the entity itself, and as no stand-in is ever dropped (`failure_decideOne`).
-/

namespace FixturePlan

/-- A decider that does not look at links. -/
def IgnoresLinks (decide : Decider) : Prop := ∀ e e' : Entity, e.bare = e'.bare → decide e = decide e'

/-- An entity is kept although it requires another one, which is dropped. -/
structure Refused (decide : Decider) (e d : Entity) : Prop where
  kept : decide e = .keep
  dropped : decide d = .drop
  required : ∃ l ∈ e.required, l.target = .resolved d.id

/-- The first refused entity of an order, and the dropped entity of the first of its required links
that lead to one. -/
structure FirstRefused (decide : Decider) (s : EntitySet) (order : List EntityId) (e d : Entity) :
    Prop where
  kept : decide e = .keep
  dropped : decide d = .drop
  entity : s.get? e.id = some e
  dependency : s.get? d.id = some d
  first : ∃ before after, order = before ++ e.id :: after ∧
    ∀ id ∈ before, ∀ e', s.get? id = some e' → ∀ d' ∈ s.toList, ¬Refused decide e' d'
  link : ∃ before l after, e.required = before ++ l :: after ∧ l.target = .resolved d.id ∧
    ∀ l' ∈ before, ∀ d' ∈ s.toList, l'.target = .resolved d'.id → decide d' ≠ .drop

namespace EntitySet

variable {decide : Decider} {s : EntitySet} {e d : Entity} {l : Link}

/-- The dropped entity that a link leads to. -/
def droppedTarget? (decide : Decider) (s : EntitySet) (l : Link) : Option Entity :=
  l.target.entity?.bind fun t => (s.get? t).filter fun d => decide d = .drop

/-- The entity of a number with the first dropped entity that it requires, if it is kept. -/
def refused? (decide : Decider) (s : EntitySet) (id : EntityId) : Option (Entity × Entity) :=
  (s.get? id).bind fun e =>
    if decide e = .keep then (e.required.findSome? (droppedTarget? decide s)).map (e, ·) else none

theorem droppedTarget?_eq_some_iff :
    droppedTarget? decide s l = some d ↔
      l.target = .resolved d.id ∧ s.get? d.id = some d ∧ decide d = .drop := by
  simp only [droppedTarget?, Option.bind_eq_some_iff, Option.filter_eq_some_iff,
    Reference.entity?_eq_some_iff, decide_eq_true_iff]
  constructor
  · rintro ⟨t, htarget, hget, hdrop⟩
    obtain rfl := id_of_get? hget
    exact ⟨htarget, hget, hdrop⟩
  · rintro ⟨htarget, hget, hdrop⟩
    exact ⟨d.id, htarget, hget, hdrop⟩

theorem droppedTarget?_eq_none_iff :
    droppedTarget? decide s l = none ↔
      ∀ d ∈ s.toList, l.target = .resolved d.id → decide d ≠ .drop := by
  simp only [Option.eq_none_iff_forall_ne_some, ne_eq, droppedTarget?_eq_some_iff, not_and]
  constructor
  · intro h d hd htarget
    obtain ⟨id, hget⟩ := mem_toList_iff.1 hd
    exact h d htarget ((id_of_get? hget).symm ▸ hget)
  · intro h d htarget hget
    exact h d (mem_toList_iff.2 ⟨d.id, hget⟩) htarget

theorem refused?_eq_none_iff {id : EntityId} :
    refused? decide s id = none ↔
      ∀ e, s.get? id = some e → ∀ d ∈ s.toList, ¬Refused decide e d := by
  unfold refused?
  cases s.get? id with
  | none => simp
  | some e =>
    simp only [Option.bind_some, Option.some.injEq, forall_eq']
    split
    · next hkeep =>
      simp only [Option.map_eq_none_iff, List.findSome?_eq_none_iff, droppedTarget?_eq_none_iff]
      constructor
      · rintro h d hd ⟨-, hdrop, l, hl, htarget⟩
        exact h l hl d hd htarget hdrop
      · intro h l hl d hd htarget hdrop
        exact h d hd ⟨hkeep, hdrop, l, hl, htarget⟩
    · next hkeep =>
      simp only [true_iff]
      intro d _ hrefused
      exact hkeep hrefused.kept

theorem refused?_eq_some_iff {id : EntityId} :
    refused? decide s id = some (e, d) ↔ s.get? id = some e ∧ decide e = .keep ∧
      e.required.findSome? (droppedTarget? decide s) = some d := by
  unfold refused?
  cases s.get? id with
  | none => simp
  | some e' =>
    simp only [Option.bind_some, Option.some.injEq]
    split
    · next hkeep =>
      simp only [Option.map_eq_some_iff, Prod.mk.injEq]
      constructor
      · rintro ⟨_, hd, rfl, rfl⟩
        exact ⟨rfl, hkeep, hd⟩
      · rintro ⟨rfl, -, hd⟩
        exact ⟨d, hd, rfl, rfl⟩
    · next hkeep =>
      simp only [reduceCtorEq, false_iff, not_and]
      rintro rfl h
      exact absurd h hkeep

/-- The search finds the first refused entity. -/
theorem findSome?_refused?_eq_some_iff {order : List EntityId} :
    order.findSome? (refused? decide s) = some (e, d) ↔ FirstRefused decide s order e d := by
  rw [List.findSome?_eq_some_iff]
  -- nothing is refused before the entity, and no target of it is dropped before the link
  constructor
  · rintro ⟨before, id, after, horder, hfound, hbefore⟩
    obtain ⟨hget, hkeep, hlink⟩ := refused?_eq_some_iff.1 hfound
    obtain ⟨links, l, others, hrequired, htarget, hlinks⟩ := List.findSome?_eq_some_iff.1 hlink
    obtain ⟨htarget, hdependency, hdrop⟩ := droppedTarget?_eq_some_iff.1 htarget
    obtain rfl := id_of_get? hget
    exact
      { kept := hkeep, dropped := hdrop, entity := hget, dependency := hdependency
        first := ⟨before, after, horder, fun id hid => refused?_eq_none_iff.1 (hbefore id hid)⟩
        link := ⟨links, l, others, hrequired, htarget,
          fun l' hl' => droppedTarget?_eq_none_iff.1 (hlinks l' hl')⟩ }
  · intro h
    obtain ⟨before, after, horder, hbefore⟩ := h.first
    obtain ⟨links, l, others, hrequired, htarget, hlinks⟩ := h.link
    refine ⟨before, e.id, after, horder, refused?_eq_some_iff.2 ⟨h.entity, h.kept, ?_⟩,
      fun id hid => refused?_eq_none_iff.2 (hbefore id hid)⟩
    rw [List.findSome?_eq_some_iff]
    exact ⟨links, l, others, hrequired, droppedTarget?_eq_some_iff.2 ⟨htarget, h.dependency, h.dropped⟩,
      fun l' hl' => droppedTarget?_eq_none_iff.2 (hlinks l' hl')⟩

end EntitySet

namespace Included

variable {decide : Decider} {s : EntitySet} {st : Included} {decided rest order : List EntityId}
  {id : EntityId}

/-- A pass that has decided about some entities of a set and has not stopped. -/
structure Underway (decide : Decider) (s : EntitySet) (decided : List EntityId) (st : Included) :
    Prop where
  inside : ∀ id ∈ decided, id < s.size
  books : Accounted s.size decided st
  follows : Follows s st
  rows : RowsKept s st
  isDropped_iff : ∀ id e, s.get? id = some e →
    (st.isDropped id = true ↔ id ∈ decided ∧ decide e = .drop)

namespace Underway

theorem start (decide : Decider) (s : EntitySet) : Underway decide s [] (.start s) where
  inside _ hid := absurd hid List.not_mem_nil
  books := .start s
  follows := .start s
  rows := .start s
  isDropped_iff id e _ := by simp [Included.start, isDropped]

/-- The entity that is next is the one from the beginning, rerouted. -/
theorem exists_next (h : Underway decide s decided st) (hid : id ∉ decided) {e : Entity}
    (he : s.get? id = some e) :
    ∃ e', st.entities.get? id = some e' ∧ e'.bare = e.bare ∧
      e'.required = e.required.map (·.rerouted st.replaced) := by
  obtain ⟨hlive, hnew⟩ := h.books.of_not_mem hid
  obtain ⟨e', he', hsame⟩ := h.follows.live id e he hlive hnew
  refine ⟨e', he', ?_, ?_⟩
  · show (e'.clearOptional st.isDropped).bare = e.bare
    rw [hsame]
    rfl
  · show (e'.clearOptional st.isDropped).required = _
    rw [hsame]
    rfl

/-- A link to a decided entity, rerouted, leads to an entity dropped so far if and only if the decider
drops the entity. -/
theorem filter_entity?_rerouted (h : Underway decide s decided st) {l : Link}
    (hl : ∀ t, l.target = .resolved t → t ∈ decided) :
    (l.rerouted st.replaced).target.entity?.filter st.isDropped =
      (EntitySet.droppedTarget? decide s l).map (·.id) := by
  obtain ⟨name, key, target⟩ := l
  cases target with
  | placeholder p => rfl
  | unresolved p => rfl
  | resolved t =>
    have ht : t ∈ decided := hl t rfl
    obtain ⟨d, hd⟩ := EntitySet.exists_get?_of_lt (h.inside t ht)
    have hiff : st.isDropped t = true ↔ decide d = .drop := by
      simp [h.isDropped_iff t d hd, ht]
    show (some ((st.replaced.find? t).getD t)).filter st.isDropped =
      ((s.get? t).filter fun d => decide d = .drop).map (·.id)
    rw [hd, Option.filter_some, Option.filter_some]
    by_cases hdrop : decide d = .drop
    · have hdropped : st.isDropped t = true := hiff.2 hdrop
      -- what is dropped has no stand-in
      have hnone : st.replaced.find? t = none := by
        apply Option.eq_none_iff_forall_ne_some.2
        intro y hy
        simp [(h.books.of_replaced t y hy).2.1] at hdropped
      simp [hnone, hdropped, hdrop, EntitySet.id_of_get? hd]
    · have hlive : st.isDropped t = false := Bool.eq_false_iff.2 fun hdropped => hdrop (hiff.1 hdropped)
      cases hy : st.replaced.find? t with
      | none => simp [hlive, hdrop]
      | some y =>
        have hstandIn := h.books.live_of_mem_order h.inside (h.books.mem_order_of_replaced hy)
        simp [hstandIn.1, hdrop]

theorem find?_isDropped (h : Underway decide s decided st) {links : List Link}
    (hlinks : ∀ l ∈ links, ∀ t, l.target = .resolved t → t ∈ decided) :
    ((links.map (·.rerouted st.replaced)).filterMap (·.target.entity?)).find? st.isDropped =
      (links.findSome? (EntitySet.droppedTarget? decide s)).map (·.id) := by
  rw [← List.head?_filter, List.filter_filterMap, List.filterMap_map, ← List.head?_filterMap,
    ← List.head?_map, List.map_filterMap]
  congr 1
  apply List.filterMap_congr
  intro l hl
  exact h.filter_entity?_rerouted (hlinks l hl)

/-- A decision fails where the decider keeps an entity that requires one that it drops. -/
theorem failure_decideOne (h : Underway decide s decided st) (hdecide : IgnoresLinks decide)
    (hid : id ∉ decided) (hidlt : id < s.size) (hbefore : ∀ t, s.Requires id t → t ∈ decided) :
    (decideOne decide st id rest).failure =
      (EntitySet.refused? decide s id).map fun (e, d) => .droppedDependency e.shown d.shown := by
  obtain ⟨e, he⟩ := EntitySet.exists_get?_of_lt hidlt
  obtain ⟨e', he', hbare, hrequired⟩ := h.exists_next hid he
  -- the decider sees other links than in the first set, and by hypothesis looks at none of them
  have hsame : decide e' = decide e := hdecide e' e hbare
  have hshown : e'.shown = e.shown := Entity.shown_of_bare hbare
  have hfind := h.find?_isDropped fun l hl t ht => hbefore t ⟨e, he, l, hl, ht⟩
  rw [← hrequired] at hfind
  simp only [decideOne, he', EntitySet.refused?, he, Option.bind_some, hsame]
  cases hd : decide e with
  | drop => rfl
  | existing => rfl
  | keep =>
    simp only [keep, Entity.requiredEntities, hfind]
    cases hfound : e.required.findSome? (EntitySet.droppedTarget? decide s) with
    | none => rfl
    | some d =>
      obtain ⟨l, hl, htarget⟩ := List.exists_of_findSome?_eq_some hfound
      obtain ⟨-, hget, -⟩ := EntitySet.droppedTarget?_eq_some_iff.1 htarget
      have hlabel : st.entities.label d.id = d.shown := by
        rw [h.rows.label_eq (EntitySet.lt_size_of_get? hget), EntitySet.label, hget]
        rfl
      simp [hshown, hlabel]

theorem decideOne (h : Underway decide s decided st) (hdecide : IgnoresLinks decide)
    (hperm : order.Perm (List.range s.size)) (hsplit : order = decided ++ id :: rest)
    (hid : id ∉ decided) (hidlt : id < s.size)
    (hok : (decideOne decide st id rest).failure = none) :
    Underway decide s (decided ++ [id]) (Included.decideOne decide st id rest).state where
  inside x hx := by
    rcases List.mem_append.1 hx with hx | hx
    · exact h.inside x hx
    · exact List.mem_singleton.1 hx ▸ hidlt
  books := h.books.decideOne hid hidlt hok
  follows := h.follows.decideOne hperm hsplit hid h.books hok
  rows := h.rows.decideOne decide id rest
  isDropped_iff x d hd := by
    obtain ⟨e, he⟩ := EntitySet.exists_get?_of_lt hidlt
    obtain ⟨e', he', hbare, -⟩ := h.exists_next hid he
    have hsame : decide e' = decide e := hdecide e' e hbare
    have hself : x = id → decide d = decide e' := by
      rintro rfl
      rw [hsame, Option.some.inj (hd.symm.trans he)]
    have hold := h.isDropped_iff x d hd
    rw [List.mem_append, List.mem_singleton]
    -- only dropping changes what is dropped, and it adds the entity decided now
    have hkeeps : decide e' ≠ .drop →
        (st.isDropped x = true ↔ (x ∈ decided ∨ x = id) ∧ decide d = .drop) := by
      intro hne
      rw [hold]
      constructor
      · exact fun ⟨hx, hdrop⟩ => ⟨Or.inl hx, hdrop⟩
      · rintro ⟨hx | hx, hdrop⟩
        · exact ⟨hx, hdrop⟩
        · exact absurd ((hself hx).symm.trans hdrop) hne
    rcases decideOne_cases he' hok with ⟨hkeep, -, hst⟩ | ⟨hdrop, hst⟩ | ⟨hexisting, hst⟩
    · rw [hst]
      exact hkeeps (by simp [hkeep])
    · rw [hst, Accounted.isDropped_drop, Bool.or_eq_true, decide_eq_true_iff, hold]
      constructor
      · rintro (hx | ⟨hx, hd⟩)
        · exact ⟨Or.inr hx, (hself hx).trans hdrop⟩
        · exact ⟨Or.inl hx, hd⟩
      · rintro ⟨hx | hx, hd⟩
        · exact Or.inr ⟨hx, hd⟩
        · exact Or.inl hx
    · rw [hst]
      exact hkeeps (by simp [hexisting])

end Underway

/-- A pass along a topological order fails at the first refused entity. -/
theorem failure_decideAll (hdecide : IgnoresLinks decide) (horder : s.IsTopological order)
    (hsplit : order = decided ++ rest) (h : Underway decide s decided st) :
    (decideAll decide st rest).failure =
      (rest.findSome? (EntitySet.refused? decide s)).map
        fun (e, d) => .droppedDependency e.shown d.shown := by
  -- on what is left to decide; `decided` grows as the list shrinks
  induction rest generalizing decided st with
  | nil => rfl
  | cons id rest ih =>
    have hidlt : id < s.size := List.mem_range.1 (horder.perm.mem_iff.1 (by simp [hsplit]))
    have hnodup : (decided ++ id :: rest).Nodup :=
      hsplit ▸ horder.perm.nodup_iff.2 List.nodup_range
    have hid : id ∉ decided := fun hmem =>
      List.disjoint_of_nodup_append hnodup hmem List.mem_cons_self
    have hone : (decideOne decide st id rest).failure = _ :=
      h.failure_decideOne hdecide hid hidlt (horder.mem_before decided id rest hsplit)
    rw [failure_decideAll_cons, List.findSome?_cons]
    cases hrefused : EntitySet.refused? decide s id with
    | some found => simp [hone, hrefused]
    | none =>
      rw [hrefused, Option.map_none] at hone
      rw [hone, Option.none_or]
      exact ih (by simp [hsplit]) (h.decideOne hdecide horder.perm hsplit hid hidlt hone)

end Included

namespace Plan

variable {schema : Schema} {joins : JoinShapes} {entities : EntitySet} {decide : Decider}
  {order : List EntityId}

/-- What a build fails with, if there is an order. -/
theorem result_build_eq_error_iff (horder : entities.topologicalOrder = .ok order)
    {error : PlanError} :
    (build schema joins entities decide).result = .error error ↔
      (entities.applyInclusion order decide).failure = some error := by
  unfold build
  rw [horder]
  simp only [Report.ofExcept, Report.andThen, Pass.toReport]
  cases (entities.applyInclusion order decide).failure with
  | none => simp [Report.value]
  | some e => simp

/-- For a decider that does not look at links and a set that has an order, **a build fails if and only if
an entity is kept although it requires one that is dropped**. The failure names the first such entity
of the order and the first such link of it; no other failure is possible. -/
theorem build_droppedDependency_iff (horder : entities.topologicalOrder = .ok order)
    (hdecide : IgnoresLinks decide) :
    ((∃ entity dependency, (build schema joins entities decide).result =
        .error (.droppedDependency entity dependency)) ↔
      ∃ e ∈ entities.toList, ∃ d ∈ entities.toList, Refused decide e d) ∧
    ∀ error, (build schema joins entities decide).result = .error error ↔
      ∃ e d, FirstRefused decide entities order e d ∧
        error = .droppedDependency e.shown d.shown := by
  have htopological := EntitySet.isTopological horder
  have hfailure := Included.failure_decideAll hdecide htopological rfl (.start decide entities)
  have herror : ∀ error, (build schema joins entities decide).result = .error error ↔
      ∃ e d, FirstRefused decide entities order e d ∧
        error = .droppedDependency e.shown d.shown := by
    intro error
    rw [result_build_eq_error_iff horder, Included.failure_applyInclusion, hfailure,
      Option.map_eq_some_iff, Prod.exists]
    constructor
    · rintro ⟨e, d, hfound, rfl⟩
      exact ⟨e, d, EntitySet.findSome?_refused?_eq_some_iff.1 hfound, rfl⟩
    · rintro ⟨e, d, hfirst, rfl⟩
      exact ⟨e, d, EntitySet.findSome?_refused?_eq_some_iff.2 hfirst, rfl⟩
  refine ⟨?_, herror⟩
  constructor
  · rintro ⟨entity, dependency, hresult⟩
    obtain ⟨e, d, hfirst, -⟩ := (herror _).1 hresult
    obtain ⟨links, l, others, hrequired, htarget, -⟩ := hfirst.link
    exact ⟨e, EntitySet.mem_toList_iff.2 ⟨_, hfirst.entity⟩, d,
      EntitySet.mem_toList_iff.2 ⟨_, hfirst.dependency⟩, hfirst.kept, hfirst.dropped, l,
      by simp [hrequired], htarget⟩
  · rintro ⟨e, he, d, hd, hrefused⟩
    obtain ⟨id, hget⟩ := EntitySet.mem_toList_iff.1 he
    -- the search along the order cannot miss the entity
    cases hfound : order.findSome? (EntitySet.refused? decide entities) with
    | none =>
      have hmem : id ∈ order :=
        (EntitySet.mem_topologicalOrder_iff horder).2 (EntitySet.lt_size_of_get? hget)
      have hnone := List.findSome?_eq_none_iff.1 hfound id hmem
      exact absurd hrefused (EntitySet.refused?_eq_none_iff.1 hnone e hget d hd)
    | some found =>
      obtain ⟨e', d'⟩ := found
      exact ⟨_, _, (herror _).2 ⟨e', d', EntitySet.findSome?_refused?_eq_some_iff.1 hfound, rfl⟩⟩

/-- The order is kept without its customer. -/
theorem build_droppedDependency_iff_sample :
    let decide : Decider := fun e => if e.label = "customer" then .drop else .keep
    (build (.empty "main") ∅ sample decide).result =
        .error (.droppedDependency "order" "customer") ∧
      ∃ e ∈ sample.toList, ∃ d ∈ sample.toList, Refused decide e d := by
  intro decide
  have horder : sample.topologicalOrder = .ok [1, 2, 0, 3] :=
    EntitySet.topologicalOrder_eq_ok rfl rfl rfl
  have hdecide : IgnoresLinks decide := by
    intro e e' hbare
    have hlabel : e.label = e'.label := congrArg (·.label) hbare
    show (if e.label = "customer" then _ else _) = (if e'.label = "customer" then _ else _)
    rw [hlabel]
  obtain ⟨hiff, herror⟩ := @build_droppedDependency_iff (.empty "main") ∅ _ _ _ horder hdecide
  have hresult : (build (.empty "main") ∅ sample decide).result =
      .error (.droppedDependency "order" "customer") := by
    have hfirst : [1, 2, 0, 3].findSome? (EntitySet.refused? decide sample) =
        some (sample.toList[0], sample.toList[2]) := rfl
    exact (herror _).2 ⟨_, _, EntitySet.findSome?_refused?_eq_some_iff.1 hfirst, rfl⟩
  exact ⟨hresult, hiff.1 ⟨_, _, hresult⟩⟩

end Plan

end FixturePlan
