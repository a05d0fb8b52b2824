import FixturePlan.Planner
import FixturePlan.Proofs.Entity.Join
import FixturePlan.Proofs.Plan.Links

/-!
# The links of a finished run

Extraction gives placeholders only. Matching leaves none, and where it is strict it leaves no required
link without an entity (`EntitySet.isMatched_resolve`); the entities found are of the set
(`EntitySet.lt_size_of_resolve`). Inclusion breaks neither (`Entity.stable_isMatched`), so that the
links of every planned entity lead to planned entities (`Plan.LinksFound`).
-/

namespace FixturePlan

/-- The links of an entity as matching leaves them: no link still looks for an entity, and only a
required one may have found none, unless the policy is strict. -/
structure Entity.IsMatched (policy : UnresolvedPolicy) (e : Entity) : Prop where
  not_placeholder : ∀ l ∈ e.links, ∀ q, l.target ≠ .placeholder q
  optional_found : ∀ l ∈ e.optional.values, ∀ q, l.target ≠ .unresolved q
  required_found : policy = .fail → ∀ l ∈ e.required, ∀ q, l.target ≠ .unresolved q

namespace Entity

/-- Inclusion redirects and removes links, and neither makes a link that has found nothing. -/
theorem stable_isMatched (policy : UnresolvedPolicy) : Included.Stable (IsMatched policy) where
  -- a redirect goes from one resolved target to another, and so makes no other kind of link
  redirect source target e h := by
    refine ⟨?_, ?_, ?_⟩
    · intro l hl q hq
      rcases List.mem_append.1 hl with hl | hl
      · obtain ⟨l', hl', rfl⟩ := mem_required_redirect.1 hl
        exact h.not_placeholder l' (List.mem_append_left _ hl') q
          (Reference.redirect_eq_placeholder_iff.1 hq)
      · obtain ⟨l', hl', rfl⟩ := mem_optional_redirect.1 hl
        exact h.not_placeholder l' (List.mem_append_right _ hl') q
          (Reference.redirect_eq_placeholder_iff.1 hq)
    · intro l hl q hq
      obtain ⟨l', hl', rfl⟩ := mem_optional_redirect.1 hl
      exact h.optional_found l' hl' q (Reference.redirect_eq_unresolved_iff.1 hq)
    · intro hstrict l hl q hq
      obtain ⟨l', hl', rfl⟩ := mem_required_redirect.1 hl
      exact h.required_found hstrict l' hl' q (Reference.redirect_eq_unresolved_iff.1 hq)
  clearOptional p e h := by
    refine ⟨?_, ?_, h.required_found⟩
    · intro l hl
      rcases List.mem_append.1 hl with hl | hl
      · exact h.not_placeholder l (List.mem_append_left _ hl)
      · exact h.not_placeholder l (List.mem_append_right _ (mem_optional_clearOptional.1 hl).1)
    · exact fun l hl => h.optional_found l (mem_optional_clearOptional.1 hl).1
  standIn id e _ := ⟨nofun, nofun, nofun⟩

end Entity

namespace EntitySet

variable {schema : Schema} {policy : UnresolvedPolicy} {s : EntitySet}

/-- Where all links are placeholders, a pass that succeeds matches all entities. -/
theorem isMatched_resolve (hfresh : ∀ e ∈ s.toList, ∀ l ∈ e.links, ∃ p, l.target = .placeholder p)
    (hok : (s.resolve schema policy).failure = none) :
    ∀ e ∈ (s.resolve schema policy).state.entities.toList, e.IsMatched policy := by
  intro e he
  obtain ⟨e₀, he₀, rfl⟩ := exists_of_mem_resolve hok he
  -- of the links that waited, the unmatched optional ones are gone and the others are settled
  refine ⟨?_, ?_, ?_⟩
  · intro l hl q
    obtain ⟨l₀, -, rfl⟩ := Entity.exists_of_mem_links_settled hl
    exact l₀.target_settled_ne_placeholder q
  · intro l hl q hq
    obtain ⟨l₀, hl₀, hmatched, rfl⟩ := Entity.mem_optional_settled.1 hl
    obtain ⟨p, hp⟩ := hfresh e₀ he₀ l₀ (List.mem_append_right _ hl₀)
    rcases l₀.target_settled_eq_unresolved_iff.1 hq with h | ⟨h, hnone⟩
    · simp [hp] at h
    · simp [Link.isUnmatched, h, hnone] at hmatched
  · intro hstrict l hl q hq
    obtain ⟨l₀, hl₀, rfl⟩ := Entity.mem_required_settled.1 hl
    obtain ⟨p, hp⟩ := hfresh e₀ he₀ l₀ (List.mem_append_left _ hl₀)
    rcases l₀.target_settled_eq_unresolved_iff.1 hq with h | ⟨h, hnone⟩
    · simp [hp] at h
    · obtain ⟨id, hid⟩ := mem_toList_iff.1 he₀
      subst hstrict
      exact match?_ne_none_of_mem_required hok hid hl₀ h hnone

/-- A pass keeps the links within the set. -/
theorem lt_size_of_resolve
    (hinside : ∀ e ∈ s.toList, ∀ l ∈ e.links, ∀ t, l.target = .resolved t → t < s.size)
    (hok : (s.resolve schema policy).failure = none) :
    ∀ e ∈ (s.resolve schema policy).state.entities.toList, ∀ l ∈ e.links, ∀ t,
      l.target = .resolved t → t < (s.resolve schema policy).state.entities.size := by
  intro e he l hl t ht
  obtain ⟨e₀, he₀, rfl⟩ := exists_of_mem_resolve hok he
  obtain ⟨l₀, hl₀, rfl⟩ := Entity.exists_of_mem_links_settled hl
  have hlt : t < s.size := by
    rcases l₀.target_settled_eq_resolved_iff.1 ht with h | ⟨p, -, hfound⟩
    · exact hinside e₀ he₀ l₀ hl₀ t h
    · obtain ⟨e', he', -⟩ := Resolving.carriesAt_of_match? hfound
      exact lt_size_of_get? he'
  rwa [entities_resolve hok, settled, size_map]

end EntitySet

/-- The links of a planned entity, if `before` are the entities planned before it. -/
structure Plan.LinksFound (plan : Plan) (policy : UnresolvedPolicy) (before : List EntityId)
    (e : Entity) : Prop where
  not_placeholder : ∀ l ∈ e.links, ∀ q, l.target ≠ .placeholder q
  planned : ∀ l ∈ e.links, ∀ t, l.target = .resolved t → t ∈ plan.order
  required_before : ∀ l ∈ e.required, ∀ t, l.target = .resolved t → t ∈ before
  optional_found : ∀ l ∈ e.optional.values, ∀ q, l.target ≠ .unresolved q
  unresolved_lenient : ∀ l ∈ e.required, ∀ q, l.target = .unresolved q → policy = .warn
  required_found : policy = .fail → ∀ l ∈ e.required, ∃ t ∈ before, l.target = .resolved t

namespace Planner

variable {p : Planner} {source : Source} {decide : Decider} {plan : Plan}

/-- A run gives a plan if and only if every stage succeeds. -/
theorem result_run_eq_ok_iff :
    (p.run source decide).result = .ok plan ↔ ∃ s joins order,
      (p.inspect source).result = .ok (s, joins) ∧ (p.extractionOrder s).result = .ok order ∧
      ((p.extractor source s).extract order).failure = none ∧
      (((p.extractor source s).extract order).state.entities.resolve s
        p.settings.resolve.unresolvedRequired).failure = none ∧
      (Plan.build s joins (((p.extractor source s).extract order).state.entities.resolve s
        p.settings.resolve.unresolvedRequired).state.entities decide).result = .ok plan := by
  simp only [run, Planner.plan, Report.result_andThen_eq_ok_iff, Report.result_mapError_eq_ok_iff,
    Pass.result_toReport_eq_ok_iff, Prod.exists]
  constructor
  · rintro ⟨s, joins, hs, order, horder, _, ⟨hextract, rfl⟩, _, ⟨hresolve, rfl⟩, hplan⟩
    exact ⟨s, joins, order, hs, horder, hextract, hresolve, hplan⟩
  · rintro ⟨s, joins, order, hs, horder, hextract, hresolve, hplan⟩
    exact ⟨s, joins, hs, order, horder, _, ⟨hextract, rfl⟩, _, ⟨hresolve, rfl⟩, hplan⟩

/-- The links of every planned entity have found planned entities, the required ones entities planned
before it; only where the policy is lenient may a required link have found none. -/
theorem run_links (h : (p.run source decide).result = .ok plan) :
    ∀ before id after, plan.order = before ++ id :: after →
      ∃ e, plan.entities.get? id = some e ∧
        plan.LinksFound p.settings.resolve.unresolvedRequired before e := by
  obtain ⟨s, joins, order, -, -, hextract, hresolve, hplan⟩ := result_run_eq_ok_iff.1 h
  have hfresh : ∀ e ∈ ((p.extractor source s).extract order).state.entities.toList,
      ∀ l ∈ e.links, ∃ q, l.target = .placeholder q :=
    fun e he l hl => Extractor.exists_placeholder_of_extract _ hextract he hl
  -- of extraction no more is needed than that all links are placeholders, none of which leads anywhere
  generalize ((p.extractor source s).extract order).state.entities = entities at *
  have hinside : ∀ e ∈ entities.toList, ∀ l ∈ e.links, ∀ t, l.target = .resolved t →
      t < entities.size := by
    intro e he l hl t ht
    obtain ⟨q, hq⟩ := hfresh e he l hl
    rw [hq] at ht
    cases ht
  have hlt := EntitySet.lt_size_of_resolve hinside hresolve
  have hmatched := EntitySet.isMatched_resolve hfresh hresolve
  -- and of matching these two facts
  generalize (entities.resolve s p.settings.resolve.unresolvedRequired).state.entities = matched at *
  intro before id after hsplit
  obtain ⟨e, he, hbefore, hplanned⟩ := Plan.exists_get?_of_build hplan hlt hsplit
  obtain ⟨hplaceholder, hfound, hstrict⟩ := Plan.forall_entities_of_build
    (Entity.stable_isMatched _) hmatched hplan e (EntitySet.mem_toList_iff.2 ⟨id, he⟩)
  refine ⟨e, he, hplaceholder, hplanned, hbefore, hfound, ?_, ?_⟩
  · intro l hl q hq
    cases hpolicy : p.settings.resolve.unresolvedRequired with
    | warn => rfl
    | fail => exact absurd hq (hstrict hpolicy l hl q)
  · intro hpolicy l hl
    cases htarget : l.target with
    | placeholder q => exact absurd htarget (hplaceholder l (List.mem_append_left _ hl) q)
    | unresolved q => exact absurd htarget (hstrict hpolicy l hl q)
    | resolved t => exact ⟨t, hbefore l hl t htarget, rfl⟩

/-! ### A sample

The sample of `Extractor`, with a run that takes the city as existing. The visit to it comes after its
stand-in; the other visit has found no city. -/

open Extractor (sampleSource sampleSchema sampleExtractor)

/-- A lenient planner of the sample. -/
def samplePlanner : Planner where
  settings :=
    { connection := ⟨"sqlite", "", "main"⟩
      extract := ⟨["visit", "city"], [], 100⟩
      resolve := ⟨.warn⟩
      inclusion := ⟨.keep, [], []⟩
      naming := ⟨false⟩ }
  strategies := sampleExtractor.strategies

/-- Cities are there already. -/
def sampleDecider : Decider := fun e => if e.table = 1 then .existing else .keep

theorem result_inspect_samplePlanner : (samplePlanner.inspect sampleSource).result =
    .ok (sampleSchema, sampleSchema.joinShapes .verbatim) := by
  refine Report.result_andThen_eq_ok_iff.2 ⟨[], rfl, ?_⟩
  exact Report.result_andThen_eq_ok_iff.2 ⟨sampleSchema,
    Report.result_mapError_eq_ok_iff.2 Extractor.result_build_sampleSource, rfl⟩

/-- The visit that has found no city is marked. -/
theorem exists_run_sample_marked :
    ∃ plan, (samplePlanner.run sampleSource sampleDecider).result = .ok plan ∧
      plan.order = [1, 3, 0] ∧
      (plan.entities.link? 1 (.required 0)).map (·.target) =
        some (.unresolved ⟨1, 0, [("country", ⟨"it"⟩)]⟩) := by
  let joins := sampleSchema.joinShapes .verbatim
  let entities := (sampleExtractor.extract [0, 1]).state.entities
  let matched := entities.settled (Resolving.match? sampleSchema entities)
  have hresolve : (entities.resolve sampleSchema .warn).failure = none :=
    EntitySet.failure_resolve_eq_none_iff.2 nofun
  have hmatched : (entities.resolve sampleSchema .warn).state.entities = matched :=
    EntitySet.entities_resolve hresolve
  have hsorted : matched.topologicalOrder = .ok [1, 2, 0] :=
    EntitySet.topologicalOrder_eq_ok rfl rfl rfl
  have hok : (matched.applyInclusion [1, 2, 0] sampleDecider).failure = none := by decide
  have hplan := (congrArg (fun s => (Plan.build sampleSchema joins s sampleDecider).result)
    hmatched).trans (Plan.result_build_eq_ok hsorted hok)
  exact ⟨_, result_run_eq_ok_iff.2 ⟨sampleSchema, joins, [0, 1], result_inspect_samplePlanner, rfl,
    Extractor.failure_extract_sampleExtractor, hresolve, hplan⟩, by decide, by decide⟩

theorem exists_run_sample :
    ∃ plan, (samplePlanner.run sampleSource sampleDecider).result = .ok plan ∧
      plan.order = [1, 3, 0] := by
  obtain ⟨plan, h, horder, -⟩ := exists_run_sample_marked
  exact ⟨plan, h, horder⟩

theorem run_links_sample :
    ∃ plan, (samplePlanner.run sampleSource sampleDecider).result = .ok plan ∧
      plan.order = [1, 3, 0] ∧
      ∀ before id after, plan.order = before ++ id :: after →
        ∃ e, plan.entities.get? id = some e ∧ plan.LinksFound .warn before e := by
  obtain ⟨plan, h, horder⟩ := exists_run_sample
  exact ⟨plan, h, horder, run_links h⟩

end Planner

end FixturePlan
