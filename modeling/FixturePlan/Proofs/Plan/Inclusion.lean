import FixturePlan.Plan.Basic
import FixturePlan.Proofs.Entity.Set
import FixturePlan.Proofs.Report

/-!
# Steps of inclusion

What a decision about one entity can do (`decideOne_cases`), and with it the rules for whole passes: what
every successful decision keeps, a successful pass keeps (`decideAll_of_step`), and what every step
keeps, together with its warnings, any pass keeps (`applyInclusion_of_each`).
-/

namespace FixturePlan

namespace Entity

theorem clearOptional_clearOptional (p : EntityId → Bool) (e : Entity) :
    (e.clearOptional p).clearOptional p = e.clearOptional p := by
  simp [clearOptional, SortedMap.filter]

end Entity

namespace Included

variable {decide : Decider} {st : Included} {id : EntityId} {e : Entity} {rest : List EntityId}

/-- The state in which an entity has been placed at the end of the order. -/
def place (st : Included) (id : EntityId) : Included :=
  { st.clearDropped id with order := st.order ++ [id] }

/-! ### Entities after a step

What is at each number after a step. -/

theorem get?_clearDropped (st : Included) (id x : EntityId) :
    (st.clearDropped id).entities.get? x =
      if id = x then (st.entities.get? x).map (·.clearOptional st.isDropped)
      else st.entities.get? x := by
  rw [clearDropped, EntitySet.get?_modify]

@[simp] theorem size_clearDropped (st : Included) (id : EntityId) :
    (st.clearDropped id).entities.size = st.entities.size := by
  rw [clearDropped, EntitySet.size_modify]

theorem get?_place (st : Included) (id x : EntityId) :
    (st.place id).entities.get? x =
      if id = x then (st.entities.get? x).map (·.clearOptional st.isDropped)
      else st.entities.get? x := get?_clearDropped st id x

@[simp] theorem size_place (st : Included) (id : EntityId) :
    (st.place id).entities.size = st.entities.size := size_clearDropped st id

theorem size_redirectAll (s : EntitySet) (source target : EntityId) (ids : List EntityId) :
    (redirectAll s source target ids).size = s.size := by
  unfold redirectAll
  induction ids generalizing s with
  | nil => rfl
  | cons id rest ih => rw [List.foldl_cons, ih, EntitySet.size_modify]

theorem get?_redirectAll (s : EntitySet) (source target : EntityId) (ids : List EntityId)
    (x : EntityId) :
    (redirectAll s source target ids).get? x =
      if x ∈ ids then (s.get? x).map (·.redirect source target) else s.get? x := by
  unfold redirectAll
  induction ids generalizing s with
  | nil => simp
  | cons id rest ih =>
    rw [List.foldl_cons, ih, EntitySet.get?_modify]
    -- an entity that is listed twice is redirected twice, with the same result
    by_cases hid : id = x
    · subst hid
      cases s.get? id with
      | none => simp
      | some e => simp [Entity.redirect_redirect]
    · simp [hid, Ne.symm hid]

@[simp] theorem size_replace (st : Included) (id : EntityId) (e : Entity) (rest : List EntityId) :
    (st.replace id e rest).entities.size = st.entities.size + 1 := by
  rw [replace, size_redirectAll, EntitySet.size_push]

/-- Of the entities of the order, placed or not, replacing redirects the links and nothing else. -/
theorem get?_replace {x : EntityId} (hx : x ∈ st.order ++ rest) (hlt : x < st.entities.size) :
    (st.replace id e rest).entities.get? x =
      (st.entities.get? x).map (·.redirect id st.entities.size) := by
  have hmem : x ∈ (st.order ++ [st.entities.size]) ++ rest := by
    rcases List.mem_append.1 hx with h | h <;> simp [h]
  rw [replace, get?_redirectAll, if_pos hmem, EntitySet.get?_push, if_neg (Nat.ne_of_lt hlt)]

theorem get?_replace_self :
    (st.replace id e rest).entities.get? st.entities.size =
      some (({ e.standIn with id := st.entities.size } : Entity).redirect id st.entities.size) := by
  have hmem : st.entities.size ∈ (st.order ++ [st.entities.size]) ++ rest := by simp
  rw [replace, get?_redirectAll, if_pos hmem, EntitySet.get?_push, if_pos rfl, Option.map_some]

/-! ### One decision

The one place where the step is taken apart. Everything after this speaks of the ways in which a decision
can go. -/

/-- What a decision that does not fail can do. -/
theorem decideOne_cases (he : st.entities.get? id = some e)
    (hok : (decideOne decide st id rest).failure = none) :
    (decide e = .keep ∧ (∀ t ∈ e.requiredEntities, st.isDropped t = false) ∧
        (decideOne decide st id rest).state = st.place id) ∨
      (decide e = .drop ∧ (decideOne decide st id rest).state = st.drop id) ∨
      (decide e = .existing ∧ (decideOne decide st id rest).state = st.replace id e rest) := by
  unfold decideOne at hok ⊢
  rw [he] at hok ⊢
  cases hd : decide e with
  | keep =>
    simp only [hd] at hok ⊢
    unfold keep at hok ⊢
    split at hok
    · cases hok
    · next hnone =>
      refine Or.inl ⟨trivial, ?_, rfl⟩
      intro t ht
      simpa using List.find?_eq_none.1 hnone t ht
  | drop => simp only [hd]; exact Or.inr (Or.inl ⟨trivial, rfl⟩)
  | existing => simp only [hd]; exact Or.inr (Or.inr ⟨trivial, rfl⟩)

/-- What a decision can do, whether it fails or not. -/
theorem decideOne_of_each {P : Included → List Warning → Prop} (same : P st [])
    (place : P (st.place id) (st.clearWarnings id)) (drop : P (st.drop id) [])
    (replace : ∀ e, st.entities.get? id = some e → P (st.replace id e rest) []) :
    P (decideOne decide st id rest).state (decideOne decide st id rest).warnings := by
  unfold decideOne
  cases he : st.entities.get? id with
  | none => exact same
  | some e =>
    simp only
    cases decide e with
    | keep =>
      show P (st.keep id e).state (st.keep id e).warnings
      unfold keep
      split
      · exact same
      · exact place
    | drop => exact drop
    | existing => exact replace e he

/-! ### All decisions

Induction along an order, once for passes that succeed and once for all passes. -/

theorem failure_decideAll_cons (decide : Decider) (st : Included) (id : EntityId)
    (rest : List EntityId) :
    (decideAll decide st (id :: rest)).failure =
      (decideOne decide st id rest).failure.or
        (decideAll decide (decideOne decide st id rest).state rest).failure := by
  rw [decideAll]
  split
  · next heq => rw [heq, Option.some_or]
  · next heq => rw [heq, Option.none_or]

theorem decideAll_cons_of_failure (h : (decideAll decide st (id :: rest)).failure = none) :
    (decideOne decide st id rest).failure = none ∧
      (decideAll decide (decideOne decide st id rest).state rest).failure = none ∧
      (decideAll decide st (id :: rest)).state =
        (decideAll decide (decideOne decide st id rest).state rest).state := by
  rw [decideAll] at h ⊢
  split at h
  · cases h
  · next heq => rw [heq]; exact ⟨rfl, h, rfl⟩

/-- What every successful decision keeps, a successful pass keeps. `P rest st` speaks of the state
before the decisions about `rest`. -/
theorem decideAll_of_step {P : List EntityId → Included → Prop}
    (hstep : ∀ id rest st, P (id :: rest) st → (decideOne decide st id rest).failure = none →
      P rest (decideOne decide st id rest).state)
    {rest : List EntityId} {st : Included} (h : P rest st)
    (hok : (decideAll decide st rest).failure = none) : P [] (decideAll decide st rest).state := by
  induction rest generalizing st with
  | nil => exact h
  | cons id rest ih =>
    obtain ⟨hone, hall, hstate⟩ := decideAll_cons_of_failure hok
    rw [hstate]
    exact ih (hstep id rest st h hone) hall

/-- What every decision keeps, a pass keeps, whether it succeeds or stops. -/
theorem decideAll_of_each {P : Included → List Warning → Prop}
    (hstep : ∀ st ws id rest, P st ws →
      P (decideOne decide st id rest).state (ws ++ (decideOne decide st id rest).warnings))
    {ws : List Warning} (h : P st ws) (rest : List EntityId) :
    P (decideAll decide st rest).state (ws ++ (decideAll decide st rest).warnings) := by
  induction rest generalizing st ws with
  | nil => rwa [decideAll, Pass.done, List.append_nil]
  | cons id rest ih =>
    have hone := hstep st ws id rest h
    rw [decideAll]
    split
    · next heq => rwa [heq] at hone
    · next heq =>
      rw [heq] at hone
      rw [← List.append_assoc]
      exact ih hone

/-! ### Clearing

The clearing at the end goes over the order once more, with all of the dropped known by then. -/

/-- Clearing removes optional links of the listed entities to dropped ones, and changes nothing
else. -/
theorem clearAll_eq (st : Included) (ids : List EntityId) :
    (st.clearAll ids).failure = none ∧ (st.clearAll ids).state.order = st.order ∧
      (st.clearAll ids).state.dropped = st.dropped ∧
      (st.clearAll ids).state.replaced = st.replaced ∧
      (st.clearAll ids).state.entities.size = st.entities.size := by
  induction ids generalizing st with
  | nil => exact ⟨rfl, rfl, rfl, rfl, rfl⟩
  | cons id rest ih =>
    obtain ⟨hf, ho, hd, hr, hs⟩ := ih (st.clearDropped id)
    exact ⟨hf, ho, hd, hr, hs.trans (size_clearDropped st id)⟩

theorem get?_clearAll (st : Included) (ids : List EntityId) (x : EntityId) :
    (st.clearAll ids).state.entities.get? x =
      if x ∈ ids then (st.entities.get? x).map (·.clearOptional st.isDropped)
      else st.entities.get? x := by
  induction ids generalizing st with
  | nil => rfl
  | cons id rest ih =>
    have hdropped : (st.clearDropped id).isDropped = st.isDropped := rfl
    rw [clearAll, ih, get?_clearDropped, hdropped]
    -- an entity that is listed twice is cleared twice, of the same links
    by_cases hid : id = x
    · subst hid
      cases st.entities.get? id with
      | none => simp
      | some e => simp [Entity.clearOptional_clearOptional]
    · simp [hid, Ne.symm hid]

theorem clearAll_of_each {P : Included → List Warning → Prop}
    (hstep : ∀ st ws id, P st ws → P (st.clearDropped id) (ws ++ st.clearWarnings id))
    {ws : List Warning} (h : P st ws) (ids : List EntityId) :
    P (st.clearAll ids).state (ws ++ (st.clearAll ids).warnings) := by
  induction ids generalizing st ws with
  | nil => rwa [clearAll, Pass.done, List.append_nil]
  | cons id rest ih =>
    rw [clearAll, ← List.append_assoc]
    exact ih (hstep st ws id h)

/-! ### The whole pass

Decisions and then clearing. -/

/-- The state after the decisions about an order and the clearing that follows them. -/
def outcome (decide : Decider) (s : EntitySet) (order : List EntityId) : Included :=
  let st := (decideAll decide (.start s) order).state
  (st.clearAll st.order).state

/-- The clearing at the end cannot fail. -/
theorem failure_applyInclusion (decide : Decider) (s : EntitySet) (order : List EntityId) :
    (s.applyInclusion order decide).failure = (decideAll decide (.start s) order).failure := by
  unfold EntitySet.applyInclusion
  split
  · next heq => rw [heq]
  · next heq => rw [heq, (clearAll_eq _ _).1]

theorem applyInclusion_of_failure {s : EntitySet} {order : List EntityId}
    (h : (s.applyInclusion order decide).failure = none) :
    (decideAll decide (.start s) order).failure = none ∧
      (s.applyInclusion order decide).state = outcome decide s order := by
  unfold EntitySet.applyInclusion outcome at *
  split at h
  · cases h
  · next heq => rw [heq]; exact ⟨rfl, rfl⟩

/-- What every decision and every clearing keeps, a whole pass keeps, whether it succeeds or stops. -/
theorem applyInclusion_of_each {s : EntitySet} {P : Included → List Warning → Prop}
    (hdecide : ∀ st ws id rest, P st ws →
      P (decideOne decide st id rest).state (ws ++ (decideOne decide st id rest).warnings))
    (hclear : ∀ st ws id, P st ws → P (st.clearDropped id) (ws ++ st.clearWarnings id))
    (h : P (.start s) []) (order : List EntityId) :
    P (s.applyInclusion order decide).state (s.applyInclusion order decide).warnings := by
  have hall := decideAll_of_each hdecide h order
  rw [List.nil_append] at hall
  unfold EntitySet.applyInclusion
  split
  · next heq => rwa [heq] at hall
  · next heq =>
    rw [heq] at hall
    exact clearAll_of_each hclear hall _

/-! ### Properties of single entities

A property that no redirect, no clearing and no stand-in breaks is proved for a plan by proving it for the
set it is made from. -/

/-- A property of entities that inclusion cannot break. -/
structure Stable (P : Entity → Prop) : Prop where
  redirect : ∀ source target e, P e → P (e.redirect source target)
  clearOptional : ∀ p e, P e → P (e.clearOptional p)
  standIn : ∀ id e, P e → P { e.standIn with id }

namespace Stable

variable {P : Entity → Prop}

theorem redirectAll (hP : Stable P) {s : EntitySet} (hs : ∀ x e, s.get? x = some e → P e)
    (source target : EntityId) (ids : List EntityId) :
    ∀ x e, (redirectAll s source target ids).get? x = some e → P e := by
  intro x e he
  rw [get?_redirectAll] at he
  split at he
  · obtain ⟨e₀, he₀, rfl⟩ := Option.map_eq_some_iff.1 he
    exact hP.redirect _ _ _ (hs x e₀ he₀)
  · exact hs x e he

theorem decideOne (hP : Stable P) (hst : ∀ x e, st.entities.get? x = some e → P e)
    (hok : (decideOne decide st id rest).failure = none) :
    ∀ x e, (decideOne decide st id rest).state.entities.get? x = some e → P e := by
  -- only an entity of the set is placed or gets a stand-in
  cases he : st.entities.get? id with
  | none =>
    have hsame : (Included.decideOne decide st id rest).state = st := by
      rw [Included.decideOne, he]
      rfl
    rwa [hsame]
  | some e =>
    rcases decideOne_cases he hok with ⟨-, -, hstate⟩ | ⟨-, hstate⟩ | ⟨-, hstate⟩
    · rw [hstate]
      intro x e' he'
      rw [get?_place] at he'
      split at he'
      · obtain ⟨e₀, he₀, rfl⟩ := Option.map_eq_some_iff.1 he'
        exact hP.clearOptional _ _ (hst x e₀ he₀)
      · exact hst x e' he'
    · rw [hstate]
      exact hst
    · rw [hstate]
      apply hP.redirectAll
      intro x e' he'
      rw [EntitySet.get?_push] at he'
      split at he'
      · obtain rfl := Option.some.inj he'
        exact hP.standIn _ _ (hst id e he)
      · exact hst x e' he'

theorem outcome (hP : Stable P) {s : EntitySet} {order : List EntityId}
    (hs : ∀ x e, s.get? x = some e → P e)
    (hok : (decideAll decide (.start s) order).failure = none) :
    ∀ x e, (outcome decide s order).entities.get? x = some e → P e := by
  have hall := decideAll_of_step (P := fun _ st => ∀ x e, st.entities.get? x = some e → P e)
    (fun id rest st hst hone => hP.decideOne hst hone) hs hok
  intro x e he
  rw [Included.outcome, get?_clearAll] at he
  split at he
  · obtain ⟨e₀, he₀, rfl⟩ := Option.map_eq_some_iff.1 he
    exact hP.clearOptional _ _ (hall x e₀ he₀)
  · exact hall x e he

end Stable

end Included

namespace Plan

variable {schema : Schema} {joins : JoinShapes} {entities : EntitySet} {decide : Decider}
  {plan : Plan}

/-- What a plan is made of. -/
theorem exists_order_of_build (h : (build schema joins entities decide).result = .ok plan) :
    ∃ sorted, entities.topologicalOrder = .ok sorted ∧
      (Included.decideAll decide (.start entities) sorted).failure = none ∧
      plan =
        { schema, joins
          entities := (Included.outcome decide entities sorted).entities
          order := (Included.outcome decide entities sorted).order
          dropped := (Included.outcome decide entities sorted).dropped
          replaced := (Included.outcome decide entities sorted).replaced } := by
  unfold build at h
  obtain ⟨sorted, hsorted, h⟩ := Report.result_andThen_eq_ok_iff.1 h
  obtain ⟨st, hst, h⟩ := Report.result_andThen_eq_ok_iff.1 h
  obtain ⟨hok, rfl⟩ := Pass.result_toReport_eq_ok_iff.1 hst
  obtain ⟨hdecide, hstate⟩ := Included.applyInclusion_of_failure hok
  refine ⟨sorted, hsorted, hdecide, ?_⟩
  rw [← hstate]
  exact (Except.ok.inj h).symm

/-- A build succeeds where there is an order and no decision fails. -/
theorem result_build_eq_ok {sorted : List EntityId} (hsorted : entities.topologicalOrder = .ok sorted)
    (hok : (entities.applyInclusion sorted decide).failure = none) :
    (build schema joins entities decide).result =
      .ok
        { schema, joins
          entities := (entities.applyInclusion sorted decide).state.entities
          order := (entities.applyInclusion sorted decide).state.order
          dropped := (entities.applyInclusion sorted decide).state.dropped
          replaced := (entities.applyInclusion sorted decide).state.replaced } := by
  refine Report.result_andThen_eq_ok_iff.2 ⟨sorted, hsorted, ?_⟩
  exact Report.result_andThen_eq_ok_iff.2 ⟨_, Pass.result_toReport_eq_ok_iff.2 ⟨hok, rfl⟩, rfl⟩

/-- What holds of all entities and cannot be broken by inclusion holds of all entities of a plan. -/
theorem forall_entities_of_build {P : Entity → Prop} (hP : Included.Stable P)
    (hs : ∀ e ∈ entities.toList, P e) (h : (build schema joins entities decide).result = .ok plan) :
    ∀ e ∈ plan.entities.toList, P e := by
  obtain ⟨sorted, -, hok, rfl⟩ := exists_order_of_build h
  intro e he
  obtain ⟨id, hid⟩ := EntitySet.mem_toList_iff.1 he
  refine hP.outcome ?_ hok id e hid
  exact fun x e he => hs e (EntitySet.mem_toList_iff.2 ⟨x, he⟩)

end Plan

end FixturePlan
