import FixturePlan.Proofs.Entity.Counters

/-!
# Where a strict pass stops

A strict pass stops at the first required placeholder without a match (`EntitySet.FirstUnmatched`), where
places are ordered by entity, then by slot. As placeholders are treated in the order of their places
(`EntitySet.pairwise_before_pending`), the ones treated before it are exactly those that stand before it;
and as matching depends on the rows only, what became of these is what a search in the set from the
beginning says. All that stands after it is as it was (`EntitySet.StoppedAt`).
-/

namespace FixturePlan

/-- In a list in some order the elements before an element are those that precede it. -/
theorem mem_before_iff_of_pairwise {α : Type} {r : α → α → Prop} (hasymm : ∀ a b, r a b → ¬r b a)
    {before after : List α} {a : α} (h : (before ++ a :: after).Pairwise r) {b : α} :
    b ∈ before ↔ b ∈ before ++ a :: after ∧ r b a := by
  obtain ⟨-, hafter, hacross⟩ := List.pairwise_append.1 h
  constructor
  · intro hb
    exact ⟨List.mem_append_left _ hb, hacross b hb a List.mem_cons_self⟩
  · rintro ⟨hb, hba⟩
    rcases List.mem_append.1 hb with hb | hb
    · exact hb
    · rcases List.mem_cons.1 hb with rfl | hb
      · exact absurd hba (hasymm _ _ hba)
      · exact absurd hba (hasymm _ _ (List.rel_of_pairwise_cons hafter hb))

namespace EntitySet

open Resolving

variable {schema : Schema} {policy : UnresolvedPolicy} {s : EntitySet}

/-- The first required placeholder without a match, by entity and then by position. -/
structure FirstUnmatched (schema : Schema) (s : EntitySet) (id : EntityId) (position : Nat)
    (p : Placeholder) : Prop where
  looksFor : s.LooksFor ⟨id, .required position⟩ p
  unmatched : match? schema s p = none
  first : ∀ id' position' p', s.LooksFor ⟨id', .required position'⟩ p' → match? schema s p' = none →
    id < id' ∨ id = id' ∧ position ≤ position'

/-- What a pass leaves that stops at a required link. -/
structure StoppedAt (schema : Schema) (before : EntitySet) (id : EntityId) (position : Nat)
    (after : EntitySet) : Prop where
  /-- Placeholders of smaller entities, and those at smaller positions of the entity, lead to their
  matches. -/
  resolved : ∀ (place : LinkPlace) l p target, place.Before ⟨id, .required position⟩ →
    before.link? place.entity place.slot = some l → l.target = .placeholder p →
    match? schema before p = some target →
    after.link? place.entity place.slot = some { l with target := .resolved target }
  /-- Optional placeholders of smaller entities are gone where they have no match. -/
  removed : ∀ id' < id, ∀ name p, before.LooksFor ⟨id', .optional name⟩ p →
    match? schema before p = none → after.link? id' (.optional name) = none
  /-- Where nothing was looked for, nothing changes. -/
  plain : ∀ (place : LinkPlace), (∀ p, ¬before.LooksFor place p) →
    after.link? place.entity place.slot = before.link? place.entity place.slot
  /-- The link itself and the rest of the entity are as they were. -/
  rest : ∀ (slot : LinkSlot), ¬slot.Before (.required position) → after.link? id slot = before.link? id slot
  /-- So are the later entities. -/
  later : ∀ id' > id, after.get? id' = before.get? id'
  rows : after.rows = before.rows

/-- The placeholders that a pass has treated when it stops are those that stand before the one it stops
at. -/
theorem mem_before_iff {before after : List Pending} {job : Pending}
    (hpending : s.pending = before ++ job :: after) {job' : Pending} :
    job' ∈ before ↔ job' ∈ s.pending ∧ job'.place.Before job.place := by
  have hpairwise := s.pairwise_before_pending
  rw [hpending] at hpairwise ⊢
  exact mem_before_iff_of_pairwise (fun _ _ h => h.asymm) hpairwise

/-- Entities that agree in their rows and in every link are the same. -/
theorem get?_eq_of_link?_eq {a b : EntitySet} (hrows : a.rows = b.rows) {id : EntityId}
    (hlink : ∀ slot, a.link? id slot = b.link? id slot) : a.get? id = b.get? id := by
  have hbare := map_bare_get?_of_rows_eq hrows id
  unfold link? at hlink
  cases ha : a.get? id with
  | none =>
    rw [ha, Option.map_none] at hbare
    exact (Option.map_eq_none_iff.1 hbare.symm).symm
  | some e =>
    rw [ha, Option.map_some] at hbare
    obtain ⟨e', hb, hbare⟩ := Option.map_eq_some_iff.1 hbare.symm
    simp only [ha, hb, Option.bind_some] at hlink
    rw [hb, Entity.ext_link? hbare.symm hlink]

section

variable {before after : List Pending} {job : Pending} {position : Nat}
  (hpending : s.pending = before ++ job :: after)
  (hok : (Pass.run (step schema .fail) ⟨s, ⟨0, 0, 0⟩, ∅⟩ before).failure = none)

include hpending hok

/-- No required placeholder without a match stands before the one that a strict pass stops at. -/
theorem not_before_of_match?_eq_none {job' : Pending} (hjob' : job' ∈ s.pending) {position' : Nat}
    (hslot : job'.slot = .required position') (hmissing : match? schema s job'.placeholder = none) :
    ¬job'.place.Before job.place := by
  intro hbefore
  have hmem : job' ∈ before := (mem_before_iff hpending).2 ⟨hjob', hbefore⟩
  exact (failure_run_eq_none_iff (.start s ⟨0, 0, 0⟩)).1 hok rfl job' hmem position' hslot hmissing

theorem firstUnmatched (hslot : job.slot = .required position)
    (hmissing : match? schema s job.placeholder = none) :
    s.FirstUnmatched schema job.entity position job.placeholder where
  looksFor := by
    have hjob : job ∈ s.pending := by simp [hpending]
    have hlooks := mem_pending_iff.1 hjob
    rwa [hslot] at hlooks
  unmatched := hmissing
  first := by
    intro id' position' p' hlooks hmissing'
    have hjob' : (⟨id', .required position', p'⟩ : Pending) ∈ s.pending := mem_pending_iff.2 hlooks
    have hnot := not_before_of_match?_eq_none hpending hok hjob' rfl hmissing'
    rcases Nat.lt_trichotomy job.entity id' with hlt | rfl | hlt
    · exact Or.inl hlt
    · refine Or.inr ⟨rfl, Nat.le_of_not_lt fun hlt => hnot (Or.inr ⟨rfl, ?_⟩)⟩
      show (LinkSlot.required position').Before job.slot
      rw [hslot]
      exact hlt
    · exact absurd (Or.inl hlt) hnot

theorem stoppedAt (hslot : job.slot = .required position) :
    s.StoppedAt schema job.entity position
      (Pass.run (step schema .fail) ⟨s, ⟨0, 0, 0⟩, ∅⟩ before).state.entities := by
  have hindexed := Indexed.start s ⟨0, 0, 0⟩
  have hbefore : ∀ job' ∈ before, job' ∈ s.pending := fun job' hjob' =>
    ((mem_before_iff hpending).1 hjob').1
  have hsettled := settledAt_run hindexed (.start _ s) hbefore hok
  have hstays : Indexed s (Pass.run (step schema .fail) ⟨s, ⟨0, 0, 0⟩, ∅⟩ before).state :=
    indexed_run hindexed before
  have hrows := hstays.rows_eq
  rw [List.nil_append] at hsettled
  -- from here on only what the run did to the links matters, not how
  generalize (Pass.run (step schema .fail) ⟨s, ⟨0, 0, 0⟩, ∅⟩ before).state.entities = t
    at hsettled hrows
  have hplace : job.place = ⟨job.entity, .required position⟩ := by rw [Pending.place, hslot]
  -- places before the stop have been treated, each as its target says
  have hlink : ∀ (place : LinkPlace) l p, place.Before job.place →
      s.link? place.entity place.slot = some l → l.target = .placeholder p →
      t.link? place.entity place.slot = settle (match? schema s) place.slot l := by
    intro place l p hlt hl htarget
    have hjob' : (⟨place.entity, place.slot, p⟩ : Pending) ∈ before :=
      (mem_before_iff hpending).2 ⟨mem_pending_iff.2 ⟨l, hl, htarget⟩, hlt⟩
    have hnow := hsettled.settled _ hjob'
    rwa [hl, Option.bind_some] at hnow
  -- places from the stop on have not been reached
  have huntouched : ∀ place : LinkPlace, ¬place.Before job.place →
      t.link? place.entity place.slot = s.link? place.entity place.slot := by
    intro place hnot
    apply hsettled.untouched
    rintro job' hjob' ⟨hentity, hslot'⟩
    refine hnot ?_
    have hlt := ((mem_before_iff hpending).1 hjob').2
    rwa [Pending.place, hentity, hslot'] at hlt
  refine ⟨?_, ?_, ?_, ?_, ?_, hrows⟩
  · intro place l p target hlt hl htarget hmatch
    rw [hlink place l p (hplace ▸ hlt) hl htarget, settle_of_placeholder htarget, hmatch]
  · rintro id' hid' name p ⟨l, hl, htarget⟩ hmissing
    rw [hlink ⟨id', .optional name⟩ l p (Or.inl hid') hl htarget, settle_of_placeholder htarget,
      hmissing]
  · intro place hplain
    apply hsettled.untouched
    rintro job' hjob' ⟨hentity, hslot'⟩
    refine hplain job'.placeholder ?_
    have hlooks := mem_pending_iff.1 (hbefore job' hjob')
    rwa [hentity, hslot'] at hlooks
  · intro slot hnot
    apply huntouched ⟨job.entity, slot⟩
    rintro (hlt | ⟨-, hlt⟩)
    · exact Nat.lt_irrefl _ hlt
    · exact hnot (hslot ▸ hlt)
  · intro id' hid'
    refine get?_eq_of_link?_eq hrows ?_
    intro slot
    apply huntouched ⟨id', slot⟩
    rintro (hlt | ⟨heq, -⟩)
    · exact Nat.lt_asymm hid' hlt
    · exact Nat.ne_of_gt hid' heq

end

/-- A lenient pass never fails. A strict pass fails if and only if some required placeholder has no match;
its error then names the entity and the key of the first such placeholder, and what stands before it is
settled while the rest is as it was. -/
theorem stopsAtFirst_resolve (schema : Schema) (s : EntitySet) :
    (s.resolve schema .warn).failure = none ∧
    ((s.resolve schema .fail).failure ≠ none ↔
      ∃ id position p, s.LooksFor ⟨id, .required position⟩ p ∧ match? schema s p = none) ∧
    ∀ e, (s.resolve schema .fail).failure = some e → ∃ id position p,
      s.FirstUnmatched schema id position p ∧
      e = .unresolvedRequired (s.label id) (keyName schema p) (describe schema p) ∧
      s.StoppedAt schema id position (s.resolve schema .fail).state.entities := by
  refine ⟨failure_resolve_warn schema s, ?_, ?_⟩
  · rw [Ne, failure_resolve_eq_none_iff]
    constructor
    · intro hsome
      by_contra hnone
      refine hsome fun _ id position l p hl htarget hmissing => ?_
      exact hnone ⟨id, position, p, ⟨l, hl, htarget⟩, hmissing⟩
    · rintro ⟨id, position, p, ⟨l, hl, htarget⟩, hmissing⟩ hall
      exact hall rfl id position l p hl htarget hmissing
  -- the run splits at the placeholder where it failed
  · intro e he
    obtain ⟨before, job, after, hpending, hbefore, ⟨position, hslot⟩, hmissing, rfl, hentities, -⟩ :=
      exists_stop_of_failure he
    refine ⟨job.entity, position, job.placeholder, ?_, rfl, ?_⟩
    · exact firstUnmatched hpending hbefore hslot hmissing
    · rw [hentities]
      exact stoppedAt hpending hbefore hslot

/-! ### A sample -/

open Extractor (sampleSchema)

theorem stopsAtFirst_resolve_sample :
    (sampleMixed.resolve sampleSchema .fail).failure =
        some (.unresolvedRequired "visit[#2]" "at" "city[country=it]") ∧
      sampleMixed.StoppedAt sampleSchema 1 0 (sampleMixed.resolve sampleSchema .fail).state.entities := by
  obtain ⟨-, hfails, hstops⟩ := stopsAtFirst_resolve sampleSchema sampleMixed
  have hunmatched : sampleMixed.LooksFor ⟨1, .required 0⟩ ⟨1, 0, [("country", ⟨"it"⟩)]⟩ ∧
      match? sampleSchema sampleMixed ⟨1, 0, [("country", ⟨"it"⟩)]⟩ = none :=
    ⟨⟨_, rfl, rfl⟩, rfl⟩
  obtain ⟨e, he⟩ := Option.ne_none_iff_exists'.1 (hfails.2 ⟨1, 0, _, hunmatched⟩)
  obtain ⟨id, position, p, ⟨⟨l, hl, hp⟩, hmissing, hfirst⟩, hmessage, hstopped⟩ := hstops e he
  -- the first visit finds its city, and the second one has no other link
  have hplace : id = 1 ∧ position = 0 := by
    rcases hfirst 1 0 _ hunmatched.1 hunmatched.2 with hlt | ⟨rfl, hle⟩
    · obtain rfl : id = 0 := Nat.lt_one_iff.1 hlt
      cases position with
      | zero =>
        obtain rfl := Option.some.inj hl
        obtain rfl := Reference.placeholder.inj hp
        cases hmissing
      | succ n => cases hl
    · exact ⟨rfl, Nat.le_zero.1 hle⟩
  obtain ⟨rfl, rfl⟩ := hplace
  obtain rfl := Option.some.inj hl
  obtain rfl := Reference.placeholder.inj hp
  exact ⟨by rw [he, hmessage]; rfl, hstopped⟩

end EntitySet

end FixturePlan
