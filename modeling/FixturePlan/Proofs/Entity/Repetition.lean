import FixturePlan.Proofs.Entity.Join
import FixturePlan.Proofs.Entity.LinearScan

/-!
# Passes one after the other

A pass that stops has settled the placeholders before the one it stopped at, and has left the others as
they were (`EntitySet.exists_settledAt_resolve`). The rows are still the same, so that a later pass finds
the matches that the first one would have found; and to settle a link that is settled changes nothing.
A pass after a pass therefore leaves what one pass would have left (`EntitySet.resolve_resolve`).
-/

namespace FixturePlan

namespace Resolving

variable {schema : Schema} {policy : UnresolvedPolicy} {s t : EntitySet}
  {found : Placeholder → Option EntityId}

/-! ### Settling twice

Links that are settled wait for nothing, so that settling them again does nothing. -/

/-- What is settled no longer looks for anything. -/
theorem target_ne_placeholder_of_settle {slot : LinkSlot} {l l' : Link}
    (h : settle found slot l = some l') (p : Placeholder) : l'.target ≠ .placeholder p := by
  have heq : l.settled found = l' := by
    cases slot with
    | required position => exact Option.some.inj h
    | optional name =>
      simp only [settle] at h
      split at h
      · cases h
      · exact Option.some.inj h
  rw [← heq]
  exact l.target_settled_ne_placeholder p

theorem bind_settle_settle (slot : LinkSlot) (l? : Option Link) :
    (l?.bind (settle found slot)).bind (settle found slot) = l?.bind (settle found slot) := by
  cases hl : l?.bind (settle found slot) with
  | none => rfl
  | some l' =>
    obtain ⟨l, -, hsettle⟩ := Option.bind_eq_some_iff.1 hl
    rw [Option.bind_some]
    exact settle_of_not_placeholder (target_ne_placeholder_of_settle hsettle) slot

/-- To settle a set of which some links are settled is to settle the set that it came from. -/
theorem settled_of_settledAt {done : List Pending} (h : SettledAt found s done t)
    (hrows : t.rows = s.rows) : t.settled found = s.settled found := by
  apply EntitySet.ext_link?
  · rw [EntitySet.rows_settled, EntitySet.rows_settled, hrows]
  · intro id slot
    rw [EntitySet.link?_settled, EntitySet.link?_settled]
    by_cases hdone : ∃ job ∈ done, job.entity = id ∧ job.slot = slot
    · obtain ⟨job, hjob, rfl, rfl⟩ := hdone
      rw [h.settled job hjob, bind_settle_settle]
    · have huntouched : t.link? id slot = s.link? id slot := by
        apply h.untouched
        intro job hjob heq
        exact hdone ⟨job, hjob, heq⟩
      rw [huntouched]

end Resolving

namespace EntitySet

open Resolving

variable {schema : Schema} {policy : UnresolvedPolicy} {s : EntitySet}

/-! ### Passes that stop

A pass that stops has settled the placeholders before a certain one. A pass after it takes the same
matches, since rows stay as they are, and settles the rest. -/

/-- A pass that stops has treated the placeholders before the one it stops at, which is a required one
without a match. -/
theorem exists_stop_of_failure {e : ResolveError} (h : (s.resolve schema policy).failure = some e) :
    ∃ before job after, s.pending = before ++ job :: after ∧
      (Pass.run (step schema policy) ⟨s, ⟨0, 0, 0⟩, ∅⟩ before).failure = none ∧
      (∃ position, job.slot = .required position) ∧ match? schema s job.placeholder = none ∧
      e = .unresolvedRequired (s.label job.entity) (keyName schema job.placeholder)
        (describe schema job.placeholder) ∧
      (s.resolve schema policy).state.entities =
        (Pass.run (step schema policy) ⟨s, ⟨0, 0, 0⟩, ∅⟩ before).state.entities ∧
      (s.resolve schema policy).warnings =
        (Pass.run (step schema policy) ⟨s, ⟨0, 0, 0⟩, ∅⟩ before).warnings := by
  have hstopped : (s.resolve schema policy).failure ≠ none := by
    rw [h]
    exact nofun
  obtain ⟨before, job, after, hpending, hbefore, hjob, hrun⟩ := Pass.exists_of_failure_run hstopped
  have hindexed : Indexed s (Pass.run (step schema policy) ⟨s, ⟨0, 0, 0⟩, ∅⟩ before).state :=
    indexed_run (.start s ⟨0, 0, 0⟩) before
  rw [resolve, hrun, Pass.failure_andThen hbefore] at h
  rw [resolve, hrun, Pass.state_andThen hbefore, Pass.warnings_andThen hbefore,
    warnings_step schema policy hindexed, if_neg fun hok => hjob hok.1, List.append_nil]
  -- only a missing required target under `fail` stops the pass
  cases (treated_step schema policy hindexed job).1 with
  | linked _ _ hok _ _ => exact absurd hok hjob
  | removed _ _ _ hok _ _ => exact absurd hok hjob
  | marked _ _ _ _ hok _ _ => exact absurd hok hjob
  | stopped position hmissing hslot _ hfailed hentities _ =>
    refine ⟨before, job, after, hpending, hbefore, ⟨position, hslot⟩, hmissing, ?_, hentities, rfl⟩
    rw [EntitySet.label_eq_of_map_bare_eq
      (EntitySet.map_bare_get?_of_rows_eq hindexed.rows_eq job.entity)] at hfailed
    exact Option.some.inj (h.symm.trans hfailed)

/-- A pass does what a pass over some placeholders does that succeeds: over all of them, or over those
before the one it stops at. -/
theorem exists_prefix_resolve (schema : Schema) (policy : UnresolvedPolicy) (s : EntitySet) :
    ∃ done, done <+: s.pending ∧
      (Pass.run (step schema policy) ⟨s, ⟨0, 0, 0⟩, ∅⟩ done).failure = none ∧
      (s.resolve schema policy).state.entities =
        (Pass.run (step schema policy) ⟨s, ⟨0, 0, 0⟩, ∅⟩ done).state.entities ∧
      (s.resolve schema policy).warnings =
        (Pass.run (step schema policy) ⟨s, ⟨0, 0, 0⟩, ∅⟩ done).warnings := by
  cases hfailure : (s.resolve schema policy).failure with
  | none => exact ⟨s.pending, List.prefix_rfl, hfailure, rfl, rfl⟩
  | some e =>
    obtain ⟨before, job, after, hpending, hbefore, -, -, -, hentities, hwarnings⟩ :=
      exists_stop_of_failure hfailure
    exact ⟨before, ⟨job :: after, hpending.symm⟩, hbefore, hentities, hwarnings⟩

/-- A pass settles some placeholders, all of them or those before the one it stops at, and leaves the
other links as they are. It warns about those among them that have no match. -/
theorem exists_settledAt_resolve (schema : Schema) (policy : UnresolvedPolicy) (s : EntitySet) :
    ∃ done, done <+: s.pending ∧
      SettledAt (match? schema s) s done (s.resolve schema policy).state.entities ∧
      (s.resolve schema policy).warnings =
        (done.filter fun job => match? schema s job.placeholder = none).map
          (unmatchedWarning schema s) := by
  obtain ⟨done, hdone, hok, hentities, hwarnings⟩ := exists_prefix_resolve schema policy s
  have hindexed := Indexed.start s ⟨0, 0, 0⟩
  refine ⟨done, hdone, ?_, ?_⟩
  · rw [hentities]
    exact settledAt_run hindexed (.start _ s) (fun _ hjob => hdone.subset hjob) hok
  · rw [hwarnings]
    exact warnings_run hindexed hok

/-- A pass that succeeds after any other pass settles the whole set, as far as it is not settled yet. -/
theorem entities_resolve_resolve {again : UnresolvedPolicy}
    (hok : ((s.resolve schema policy).state.entities.resolve schema again).failure = none) :
    ((s.resolve schema policy).state.entities.resolve schema again).state.entities =
      s.settled (match? schema s) := by
  obtain ⟨done, -, hdone, -⟩ := exists_settledAt_resolve schema policy s
  have hrows := rows_resolve schema policy s
  have hmatch : match? schema (s.resolve schema policy).state.entities = match? schema s := by
    funext p
    exact LinearScan.match?_congr hrows p
  rw [entities_resolve hok, hmatch]
  exact settled_of_settledAt hdone hrows

/-! ### Passes that succeed

After a pass that succeeds there is nothing left to settle. -/

theorem pending_settled (found : Placeholder → Option EntityId) (s : EntitySet) :
    (s.settled found).pending = [] := by
  apply List.eq_nil_iff_forall_not_mem.2
  intro job hjob
  obtain ⟨l, hl, htarget⟩ := mem_pending_iff.1 hjob
  rw [link?_settled] at hl
  obtain ⟨_, -, hsettle⟩ := Option.bind_eq_some_iff.1 hl
  exact target_ne_placeholder_of_settle hsettle _ htarget

theorem failure_resolve_warn (schema : Schema) (s : EntitySet) :
    (s.resolve schema .warn).failure = none := failure_resolve_eq_none_iff.2 nofun

/-- After a pass that succeeds every further pass succeeds, counts nothing and changes nothing. A strict
pass, whether it succeeds or stops, and a lenient pass after it leave the same set as a single lenient
pass. -/
theorem resolve_resolve (schema : Schema) (s : EntitySet) :
    (∀ policy, (s.resolve schema policy).failure = none → ∀ again,
      (s.resolve schema policy).state.entities.resolve schema again =
        .done ⟨(s.resolve schema policy).state.entities, ⟨0, 0, 0⟩, ∅⟩) ∧
    ((s.resolve schema .fail).state.entities.resolve schema .warn).failure = none ∧
    (s.resolve schema .warn).failure = none ∧
    ((s.resolve schema .fail).state.entities.resolve schema .warn).state.entities =
      (s.resolve schema .warn).state.entities := by
  refine ⟨?_, ?_, ?_, ?_⟩
  · intro policy hok again
    rw [entities_resolve hok]
    generalize hsettled : s.settled (match? schema s) = t
    have hpending : t.pending = [] := by
      rw [← hsettled, pending_settled]
    rw [resolve, hpending, Pass.run_nil]
  · exact failure_resolve_warn schema _
  · exact failure_resolve_warn schema s
  · rw [entities_resolve_resolve (failure_resolve_warn schema _),
      entities_resolve (failure_resolve_warn schema s)]

/-! ### A sample

Of the visits of the sample a strict pass links the first and stops at the second. A lenient pass goes on
from there, and leaves nothing for a third. -/

open Extractor (sampleExtractor sampleSchema)

/-- Visits and cities as they are extracted. -/
abbrev sampleVisits : EntitySet := (sampleExtractor.extract [0, 1]).state.entities

/-- What a strict pass leaves of them. -/
abbrev sampleStopped : EntitySet := (sampleVisits.resolve sampleSchema .fail).state.entities

/-- What a lenient pass makes of that. -/
abbrev sampleResumed : EntitySet := (sampleStopped.resolve sampleSchema .warn).state.entities

theorem resolve_resolve_sample :
    (sampleVisits.resolve sampleSchema .fail).failure ≠ none ∧
      sampleResumed = (sampleVisits.resolve sampleSchema .warn).state.entities ∧
      (sampleResumed.link? 0 (.required 0)).map (·.target) = some (.resolved 2) ∧
      sampleResumed.resolve sampleSchema .fail = .done ⟨sampleResumed, ⟨0, 0, 0⟩, ∅⟩ := by
  obtain ⟨-, hok, -, hresumed⟩ := resolve_resolve sampleSchema sampleVisits
  refine ⟨?_, hresumed, ?_, ?_⟩
  · intro hstrict
    have hfound := failure_resolve_eq_none_iff.1 hstrict rfl 1 0 _ _ rfl rfl
    exact hfound rfl
  · have hsettled : sampleResumed = sampleVisits.settled (match? sampleSchema sampleVisits) :=
      hresumed.trans (entities_resolve (failure_resolve_warn _ sampleVisits))
    rw [hsettled]
    rfl
  · exact (resolve_resolve sampleSchema sampleStopped).1 .warn hok .fail

end EntitySet

end FixturePlan
