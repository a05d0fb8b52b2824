import FixturePlan.Proofs.Entity.Losses
import FixturePlan.Proofs.Plan.Rows

/-!
# What inclusion removes

An inclusion pass removes optional links in two places: when it keeps an entity, and once more at the
end. It warns exactly once about each link that it removes (`reportedChange_applyInclusion`), along any
order and whether it succeeds or stops: every step reports what it removes, and what one step has removed
is no longer there for another.
-/

namespace FixturePlan

namespace Included

variable {decide : Decider} {s : EntitySet} {st : Included} {id : EntityId} {e : Entity}
  {rest : List EntityId} {reports : LinkPlace → Warning → Prop}

/-- A warning names the entity and the attribute of an optional link. -/
inductive ReportsCleared (s : EntitySet) : LinkPlace → Warning → Prop
  | optional (id : EntityId) (name : String) :
      ReportsCleared s ⟨id, .optional name⟩ (.optionalCleared (s.label id) name)

/-! ### Taking an entity as existing

Links to the entity are exchanged for links to its stand-in, which is no loss. -/

/-- The stand-in has no links, and the links to the entity lead to it. -/
theorem link?_replace (st : Included) (id : EntityId) (e : Entity) (rest : List EntityId)
    (x : EntityId) (slot : LinkSlot) :
    (st.replace id e rest).entities.link? x slot =
      (st.entities.link? x slot).map fun l =>
        { l with target :=
            if x ∈ (st.order ++ [st.entities.size]) ++ rest then
              l.target.redirect id st.entities.size
            else l.target } := by
  rw [EntitySet.link?, replace, get?_redirectAll, ← EntitySet.link?_push_standIn st.entities e,
    EntitySet.link?]
  cases (st.entities.push e.standIn).get? x with
  | none => split <;> rfl
  | some e' =>
    split
    · exact e'.link?_redirect id st.entities.size slot
    · exact Option.map_id'.symm

theorem reportedChange_replace (st : Included) (id : EntityId) (e : Entity) (rest : List EntityId) :
    st.entities.ReportedChange (st.replace id e rest).entities reports [] := by
  refine .of_exchange (fun x r => if x ∈ (st.order ++ [st.entities.size]) ++ rest then
    r.redirect id st.entities.size else r) ?_ (link?_replace st id e rest)
  intro x r
  split
  · unfold Reference.redirect
    split
    · next h => exact Or.inr ⟨id, _, h, rfl⟩
    · exact Or.inl rfl
  · exact Or.inl rfl

/-! ### Clearing

Clearing removes exactly the optional links that it warns about. -/

/-- Whether clearing an entity removes a link. -/
def clears (st : Included) (id : EntityId) (place : LinkPlace) (l : Link) : Bool :=
  match place.slot with
  | .required _ => false
  | .optional _ => place.entity = id && Entity.leadsInto st.isDropped l

/-- The names of the links that clearing an entity removes. -/
def clearedNames (st : Included) (id : EntityId) : List String :=
  ((st.entities.get? id).map (·.optionalInto st.isDropped)).getD []

theorem link?_clearDropped (st : Included) (id x : EntityId) (slot : LinkSlot) :
    (st.clearDropped id).entities.link? x slot =
      (st.entities.link? x slot).filter fun l => !st.clears id ⟨x, slot⟩ l := by
  have hall : ∀ l? : Option Link, l?.filter (fun _ => true) = l? := by
    intro l?
    cases l? <;> rfl
  rw [EntitySet.link?, get?_clearDropped, EntitySet.link?]
  by_cases hx : id = x
  · subst hx
    rw [if_pos rfl]
    cases st.entities.get? id with
    | none => rfl
    | some e =>
      rw [Option.map_some, Option.bind_some, Option.bind_some, Entity.link?_clearOptional]
      cases slot <;> simp [clears, hall]
  · rw [if_neg hx]
    cases slot <;> simp [clears, hall, Ne.symm hx]

theorem nodup_clearedNames (st : Included) (id : EntityId) : (st.clearedNames id).Nodup := by
  unfold clearedNames
  cases st.entities.get? id with
  | none => exact .nil
  | some e => exact SortedMap.nodup_keys _

theorem mem_clearedNames {name : String} :
    name ∈ st.clearedNames id ↔
      ∃ l, st.entities.link? id (.optional name) = some l ∧
        Entity.leadsInto st.isDropped l = true := by
  unfold clearedNames EntitySet.link?
  cases st.entities.get? id with
  | none => simp
  | some e => exact Entity.mem_optionalInto

theorem clearWarnings_eq (st : Included) (id : EntityId) :
    st.clearWarnings id =
      (st.clearedNames id).map (.optionalCleared (st.entities.label id) ·) := by
  unfold clearWarnings clearedNames EntitySet.label
  cases st.entities.get? id <;> rfl

theorem reportedChange_clearDropped (h : RowsKept s st) (hthinned : s.Thinned st.entities)
    (id : EntityId) :
    st.entities.ReportedChange (st.clearDropped id).entities (ReportsCleared s)
      (st.clearWarnings id) := by
  refine .of_filter (st.clears id) ?_ (link?_clearDropped st id)
    ((st.nodup_clearedNames id).map (f := fun name => (⟨id, .optional name⟩ : LinkPlace)) ?_) ?_ ?_
  · rintro ⟨x, slot⟩ l p hp
    cases slot with
    | required position => rfl
    | optional name => simp [clears, Entity.leadsInto, hp, Reference.entity?]
  · intro name name' heq
    simpa using heq
  · rintro ⟨x, slot⟩
    simp only [List.mem_map, mem_clearedNames, LinkPlace.mk.injEq]
    constructor
    · rintro ⟨name, ⟨l, hl, hinto⟩, rfl, rfl⟩
      exact ⟨l, hl, by simp [clears, hinto]⟩
    · rintro ⟨l, hl, hclears⟩
      cases slot with
      | required position => cases hclears
      | optional name =>
        simp only [clears, Bool.and_eq_true, decide_eq_true_iff] at hclears
        obtain ⟨rfl, hinto⟩ := hclears
        exact ⟨name, ⟨l, hl, hinto⟩, rfl, rfl⟩
  · rw [clearWarnings_eq, List.forall₂_map_left_iff, List.forall₂_map_right_iff, List.forall₂_same]
    intro name hname
    -- a stand-in has no links, so the entity is one from the beginning
    obtain ⟨l', hl', -⟩ := mem_clearedNames.1 hname
    obtain ⟨l, hl, -⟩ := hthinned.exists_before _ _ _ hl'
    obtain ⟨e, he, -⟩ := Option.bind_eq_some_iff.1 hl
    rw [h.label_eq (EntitySet.lt_size_of_get? he)]
    exact .optional id name

/-! ### The whole pass

A loss is reported by the warnings of the step that brings it about, and remains one. -/

/-- An inclusion pass warns exactly once about each optional link that it removes, and about nothing
else. -/
theorem reportedChange_applyInclusion (s : EntitySet) (order : List EntityId) (decide : Decider) :
    s.ReportedChange (s.applyInclusion order decide).state.entities (ReportsCleared s)
      (s.applyInclusion order decide).warnings := by
  suffices hpass : RowsKept s (s.applyInclusion order decide).state ∧
      s.ReportedChange (s.applyInclusion order decide).state.entities (ReportsCleared s)
        (s.applyInclusion order decide).warnings from hpass.2
  -- the warnings so far are carried along, as each change is reported by those of its own step
  apply applyInclusion_of_each (P := fun st ws =>
    RowsKept s st ∧ s.ReportedChange st.entities (ReportsCleared s) ws)
  · rintro st ws id rest ⟨hrows, hchange⟩
    apply decideOne_of_each (P := fun st' ws' =>
      RowsKept s st' ∧ s.ReportedChange st'.entities (ReportsCleared s) (ws ++ ws'))
    · rw [List.append_nil]
      exact ⟨hrows, hchange⟩
    · exact ⟨hrows.place id, hchange.trans (reportedChange_clearDropped hrows hchange.thinned id)⟩
    · rw [List.append_nil]
      exact ⟨hrows.of_bare_eq rfl fun _ => rfl, hchange⟩
    · intro e _
      exact ⟨hrows.replace id e rest, hchange.trans (reportedChange_replace st id e rest)⟩
  · rintro st ws id ⟨hrows, hchange⟩
    exact ⟨hrows.clearDropped id,
      hchange.trans (reportedChange_clearDropped hrows hchange.thinned id)⟩
  · exact ⟨.start s, .refl s⟩

end Included

namespace Plan

variable {schema : Schema} {joins : JoinShapes} {entities : EntitySet} {decide : Decider}
  {plan : Plan}

/-- The warnings of a build that succeeds are those of its inclusion. -/
theorem reportedChange_build (h : (build schema joins entities decide).result = .ok plan) :
    entities.ReportedChange plan.entities (Included.ReportsCleared entities)
      (build schema joins entities decide).warnings := by
  obtain ⟨sorted, hsorted, hdecide, rfl⟩ := exists_order_of_build h
  have hok : (entities.applyInclusion sorted decide).failure = none :=
    (Included.failure_applyInclusion decide entities sorted).trans hdecide
  have hwarnings : (build schema joins entities decide).warnings =
      (entities.applyInclusion sorted decide).warnings := by
    unfold build
    rw [Report.warnings_andThen (a := sorted) hsorted,
      Report.warnings_andThen (Pass.result_toReport_eq_ok_iff.2 ⟨hok, rfl⟩)]
    exact List.append_nil _
  rw [hwarnings, ← (Included.applyInclusion_of_failure hok).2]
  exact Included.reportedChange_applyInclusion entities sorted decide

end Plan

end FixturePlan
