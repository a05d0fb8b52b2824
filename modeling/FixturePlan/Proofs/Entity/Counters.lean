import FixturePlan.Proofs.Entity.Losses
import Mathlib.Data.Set.Card

/-!
# The counters of a resolution pass

Of three things one becomes of a placeholder that is treated: it is resolved, removed or marked (`Fate`).
Which one it is depends on the set that the pass began with (`Resolving.fate`). Each step that does not
stop adds one to the counter of the fate, so that the counters of a pass that succeeds are the numbers of
places in the set by what has become of their links (`EntitySet.accountedFor_resolve`).
-/

namespace FixturePlan

/-- What becomes of a link that looks for something. -/
inductive Fate where
  | resolved
  | removed
  | marked
  deriving DecidableEq, Repr

/-- The counter of the links with a fate. -/
def ResolveStats.counter (stats : ResolveStats) : Fate → Nat
  | .resolved => stats.resolved
  | .removed => stats.unresolvedOptional
  | .marked => stats.unresolvedRequired

theorem ResolveStats.ext_counter {a b : ResolveStats} (h : ∀ f, a.counter f = b.counter f) : a = b := by
  cases a
  cases b
  exact (ResolveStats.mk.injEq ..).mpr ⟨h .resolved, h .removed, h .marked⟩

namespace Resolving

variable {schema : Schema} {policy : UnresolvedPolicy} {s : EntitySet} {st : Resolving}
  {found : Placeholder → Option EntityId} {job : Pending} {jobs : List Pending}

/-! ### Counting by steps

Each step counts one placeholder under its fate, so that in the end each counter has the number of
placeholders with its fate. -/

/-- The fate of a placeholder, if `found` gives the matches. -/
def fate (found : Placeholder → Option EntityId) (job : Pending) : Fate :=
  match found job.placeholder, job.slot with
  | some _, _ => .resolved
  | none, .optional _ => .removed
  | none, .required _ => .marked

/-- A step that does not stop counts its placeholder once, under its fate. -/
theorem counter_step (h : Indexed s st) (hok : (step schema policy st job).failure = none) (f : Fate) :
    (step schema policy st job).state.stats.counter f =
      st.stats.counter f + if fate (match? schema s) job = f then 1 else 0 := by
  cases (treated_step schema policy h job).1 with
  | linked id hfound _ _ hstats =>
    have hfate : fate (match? schema s) job = .resolved := by rw [fate, hfound]
    rw [hstats, hfate]
    cases f <;> rfl
  | removed name hmissing hslot _ _ hstats =>
    have hfate : fate (match? schema s) job = .removed := by rw [fate, hmissing, hslot]
    rw [hstats, hfate]
    cases f <;> rfl
  | stopped _ _ _ _ hfailed _ _ =>
    rw [hfailed] at hok
    cases hok
  | marked position hmissing hslot _ _ _ hstats =>
    have hfate : fate (match? schema s) job = .marked := by rw [fate, hmissing, hslot]
    rw [hstats, hfate]
    cases f <;> rfl

/-- A pass that succeeds counts each of its placeholders once. -/
theorem counter_run (h : Indexed s st) (hok : (Pass.run (step schema policy) st jobs).failure = none)
    (f : Fate) :
    (Pass.run (step schema policy) st jobs).state.stats.counter f =
      st.stats.counter f + jobs.countP fun job => fate (match? schema s) job = f := by
  induction jobs generalizing st with
  | nil => rfl
  | cons job rest ih =>
    obtain ⟨hstep, hrest⟩ := (Pass.failure_run_cons st job rest).1 hok
    rw [Pass.state_run_cons hstep, ih (treated_step schema policy h job).2 hrest, counter_step h hstep,
      List.countP_cons, Nat.add_assoc, Nat.add_comm (List.countP _ rest)]
    simp only [decide_eq_true_iff]

/-- Every placeholder has one of the three fates. -/
theorem countP_fate_add (found : Placeholder → Option EntityId) (jobs : List Pending) :
    (jobs.countP fun job => fate found job = .resolved) +
      (jobs.countP fun job => fate found job = .removed) +
      (jobs.countP fun job => fate found job = .marked) = jobs.length := by
  induction jobs with
  | nil => rfl
  | cons job rest ih =>
    simp only [List.countP_cons, List.length_cons]
    cases fate found job <;> simp <;> omega

end Resolving

namespace EntitySet

open Resolving

variable {schema : Schema} {policy : UnresolvedPolicy} {s before after : EntitySet}
  {place : LinkPlace} {p : Placeholder} {f f' : Fate}

/-! ### Fates of places

A fate can be read off the links before and after a pass, without looking at the pass. -/

/-- The link at a place looks for something. -/
def LooksFor (s : EntitySet) (place : LinkPlace) (p : Placeholder) : Prop :=
  ∃ l, s.link? place.entity place.slot = some l ∧ l.target = .placeholder p

/-- What has become of the placeholder at a place, as it shows in the links there before and after. -/
inductive ComesTo (before after : EntitySet) (place : LinkPlace) : Fate → Prop
  | resolved {l : Link} {p : Placeholder} {id : EntityId}
      (was : before.link? place.entity place.slot = some l) (looked : l.target = .placeholder p)
      (now : after.link? place.entity place.slot = some { l with target := .resolved id }) :
      ComesTo before after place .resolved
  | removed {name : String} {l : Link} {p : Placeholder} (slot : place.slot = .optional name)
      (was : before.link? place.entity place.slot = some l) (looked : l.target = .placeholder p)
      (gone : after.link? place.entity place.slot = none) : ComesTo before after place .removed
  | marked {position : Nat} {l : Link} {p : Placeholder} (slot : place.slot = .required position)
      (was : before.link? place.entity place.slot = some l) (looked : l.target = .placeholder p)
      (now : after.link? place.entity place.slot = some { l with target := .unresolved p }) :
      ComesTo before after place .marked

namespace ComesTo

theorem exists_looksFor (h : before.ComesTo after place f) : ∃ p, before.LooksFor place p := by
  cases h with
  | resolved was looked _ => exact ⟨_, _, was, looked⟩
  | removed _ was looked _ => exact ⟨_, _, was, looked⟩
  | marked _ was looked _ => exact ⟨_, _, was, looked⟩

/-- The links after the pass tell the fates apart. -/
theorem unique (h : before.ComesTo after place f) (h' : before.ComesTo after place f') : f = f' := by
  cases h <;> cases h' <;> simp_all

end ComesTo

/-- What a pass has made of a set, and how its counters account for it. -/
structure AccountedFor (before after : EntitySet) (stats : ResolveStats) : Prop where
  /-- Nothing looks for anything any more. -/
  not_placeholder : ∀ e ∈ after.toList, ∀ l ∈ e.links, ∀ p, l.target ≠ .placeholder p
  /-- The counters together are the number of links that looked for something. -/
  total : {place | ∃ p, before.LooksFor place p}.encard =
    (stats.resolved + stats.unresolvedOptional + stats.unresolvedRequired : Nat)
  resolved : {place | before.ComesTo after place .resolved}.encard = stats.resolved
  removed : {place | before.ComesTo after place .removed}.encard = stats.unresolvedOptional
  marked : {place | before.ComesTo after place .marked}.encard = stats.unresolvedRequired
  /-- Other links stay as they are, and none appears where there was none. -/
  untouched : ∀ id slot, (∀ p, ¬before.LooksFor ⟨id, slot⟩ p) →
    after.link? id slot = before.link? id slot
  /-- The entities are the same up to their links. -/
  rows : after.rows = before.rows

/-! ### A pass that succeeds

The places that came to a fate are therefore as many as the placeholders counted under it. -/

/-- The places of the placeholders of a kind are as many as the placeholders. -/
theorem encard_place_pending (s : EntitySet) (q : Pending → Bool) :
    {place | ∃ job ∈ s.pending, q job = true ∧ job.place = place}.encard = s.pending.countP q := by
  have hnodup : ((s.pending.filter q).map Pending.place).Nodup :=
    s.nodup_place_pending.sublist (List.filter_sublist.map _)
  have hset : {place | ∃ job ∈ s.pending, q job = true ∧ job.place = place} =
      ((s.pending.filter q).map Pending.place).toFinset := by
    ext place
    simp [and_assoc]
  rw [hset, Set.encard_coe_eq_coe_finsetCard, List.toFinset_card_of_nodup hnodup, List.length_map,
    List.countP_eq_length_filter]

theorem looksFor_iff : (∃ p, s.LooksFor place p) ↔ ∃ job ∈ s.pending, job.place = place := by
  constructor
  · rintro ⟨p, hp⟩
    exact ⟨⟨place.entity, place.slot, p⟩, mem_pending_iff.2 hp, rfl⟩
  · rintro ⟨job, hjob, rfl⟩
    exact ⟨job.placeholder, mem_pending_iff.1 hjob⟩

section

variable (hok : (s.resolve schema policy).failure = none)

include hok

theorem comesTo_fate {job : Pending} (hjob : job ∈ s.pending) :
    s.ComesTo (s.resolve schema policy).state.entities job.place (fate (match? schema s) job) := by
  obtain ⟨l, hl, htarget⟩ := mem_pending_iff.1 hjob
  have hnow := link?_resolve hok job.entity job.slot
  rw [hl, Option.bind_some, settle_of_placeholder htarget] at hnow
  obtain ⟨id, slot, p⟩ := job
  unfold fate
  cases hmatch : match? schema s p with
  | some target =>
    simp only [hmatch] at hnow
    exact .resolved hl htarget hnow
  | none =>
    cases slot with
    | optional name =>
      simp only [hmatch] at hnow
      exact .removed rfl hl htarget hnow
    | required position =>
      simp only [hmatch] at hnow
      exact .marked rfl hl htarget hnow

/-- What has become of a link is the fate of the placeholder that stood there. -/
theorem comesTo_iff : s.ComesTo (s.resolve schema policy).state.entities place f ↔
    ∃ job ∈ s.pending, fate (match? schema s) job = f ∧ job.place = place := by
  constructor
  · intro h
    obtain ⟨job, hjob, rfl⟩ := looksFor_iff.1 h.exists_looksFor
    exact ⟨job, hjob, (comesTo_fate hok hjob).unique h, rfl⟩
  · rintro ⟨job, hjob, rfl, rfl⟩
    exact comesTo_fate hok hjob

theorem counter_resolve (f : Fate) : (s.resolve schema policy).state.stats.counter f =
    s.pending.countP fun job => fate (match? schema s) job = f := by
  have hrun := counter_run (Indexed.start s ⟨0, 0, 0⟩) hok f
  have hzero : (⟨0, 0, 0⟩ : ResolveStats).counter f = 0 := by cases f <;> rfl
  rwa [hzero, Nat.zero_add] at hrun

theorem encard_comesTo (f : Fate) :
    {place | s.ComesTo (s.resolve schema policy).state.entities place f}.encard =
      (s.resolve schema policy).state.stats.counter f := by
  rw [counter_resolve hok, ← encard_place_pending]
  simp only [comesTo_iff hok, decide_eq_true_iff]

/-- A pass that succeeds leaves no placeholder. Its counters are the numbers of placeholders that it has
resolved, removed from their optional slots, and marked in their required slots; there are no others. All
other links and the rows stay as they are. -/
theorem accountedFor_resolve :
    s.AccountedFor (s.resolve schema policy).state.entities (s.resolve schema policy).state.stats where
  not_placeholder := by
    intro e he l hl p
    obtain ⟨e₀, -, rfl⟩ := exists_of_mem_resolve hok he
    obtain ⟨l₀, -, rfl⟩ := Entity.exists_of_mem_links_settled hl
    exact l₀.target_settled_ne_placeholder p
  total := by
    -- every placeholder has exactly one fate, so that the three counters count them all
    have hall : {place | ∃ p, s.LooksFor place p} =
        {place | ∃ job ∈ s.pending, true = true ∧ job.place = place} := by
      ext place
      simp only [Set.mem_ofPred_eq, looksFor_iff, true_and]
    have hsum : (s.resolve schema policy).state.stats.counter .resolved +
        (s.resolve schema policy).state.stats.counter .removed +
        (s.resolve schema policy).state.stats.counter .marked = s.pending.length := by
      rw [counter_resolve hok, counter_resolve hok, counter_resolve hok, countP_fate_add]
    rw [hall, s.encard_place_pending fun _ => true, List.countP_true, ← hsum]
    rfl
  resolved := encard_comesTo hok .resolved
  removed := encard_comesTo hok .removed
  marked := encard_comesTo hok .marked
  untouched := by
    intro id slot hplain
    rw [link?_resolve hok]
    cases hl : s.link? id slot with
    | none => rfl
    | some l => exact settle_of_not_placeholder (fun p htarget => hplain p ⟨l, hl, htarget⟩) slot
  rows := rows_resolve schema policy s

end

/-! ### A sample -/

open Extractor (sampleSchema)

/-- The visits of the sample and one more, which has a link already, and an optional one to a city that
is not there. -/
def sampleMixed : EntitySet := sampleVisits.push
  { Entity.extracted 0 "visit" with
    required := [⟨"at", 0, .resolved 2⟩]
    optional := .ofList
      [("via", ⟨"via", 0, .placeholder ⟨1, 0, [("country", ⟨"it"⟩), ("name", ⟨"oslo"⟩)]⟩⟩)] }

theorem accountedFor_resolve_sample :
    (sampleMixed.resolve sampleSchema .warn).failure = none ∧
      (sampleMixed.resolve sampleSchema .warn).state.stats = ⟨1, 1, 1⟩ ∧
      sampleMixed.AccountedFor (sampleMixed.resolve sampleSchema .warn).state.entities ⟨1, 1, 1⟩ := by
  have hok := failure_resolve_warn sampleSchema sampleMixed
  have hstats : (sampleMixed.resolve sampleSchema .warn).state.stats = ⟨1, 1, 1⟩ := by
    apply ResolveStats.ext_counter
    intro f
    rw [counter_resolve hok]
    cases f <;> rfl
  have haccounted := accountedFor_resolve hok
  rw [hstats] at haccounted
  exact ⟨hok, hstats, haccounted⟩

end EntitySet

end FixturePlan
