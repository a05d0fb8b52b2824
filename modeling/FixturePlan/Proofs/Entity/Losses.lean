import FixturePlan.Proofs.Entity.Repetition
import Mathlib.Data.List.Sigma

/-!
# Lost links

Between an earlier and a later state of a set a link is lost if it is gone, or if what it looked for is
marked as not found (`EntitySet.Lost`). Warnings report the losses if they correspond to them one to one
(`EntitySet.LossesReported`). Nothing that a run does to a set brings a link back (`EntitySet.Thinned`),
so that reports about one change after the other are a report about both (`ReportedChange.trans`).

A resolution pass reports what it loses, whether it succeeds or stops (`reportedChange_resolve`).
-/

namespace FixturePlan

/-- Where a link stands. -/
structure LinkPlace where
  entity : EntityId
  slot : LinkSlot
  deriving DecidableEq, Repr

/-- The order in which the links of an entity are visited: the required ones by position, and after them
the optional ones by name. -/
def LinkSlot.Before : LinkSlot → LinkSlot → Prop
  | .required i, .required j => i < j
  | .required _, .optional _ => True
  | .optional _, .required _ => False
  | .optional m, .optional n => m < n

theorem LinkSlot.Before.asymm {a b : LinkSlot} (h : a.Before b) : ¬b.Before a := by
  cases a with
  | required i =>
    cases b with
    | required j => exact Nat.lt_asymm h
    | optional n => exact id
  | optional m =>
    cases b with
    | required j => exact absurd h id
    | optional n => exact String.lt_asymm h

/-- The order in which places are visited: by entity, and within it by slot. -/
def LinkPlace.Before (a b : LinkPlace) : Prop :=
  a.entity < b.entity ∨ a.entity = b.entity ∧ a.slot.Before b.slot

theorem LinkPlace.Before.asymm {a b : LinkPlace} (h : a.Before b) : ¬b.Before a := by
  rintro (hlt' | ⟨heq', hslot'⟩)
  · rcases h with hlt | ⟨heq, -⟩
    · exact Nat.lt_asymm hlt hlt'
    · exact Nat.ne_of_lt hlt' heq.symm
  · rcases h with hlt | ⟨-, hslot⟩
    · exact Nat.ne_of_lt hlt heq'.symm
    · exact hslot.asymm hslot'

/-! ### Targets

A target changes in one of few ways, and ways that follow each other are one of them again. -/

/-- What can become of a target: matching finds it or does not, and inclusion redirects it. -/
inductive Reference.Becomes : Reference → Reference → Prop
  | same (r : Reference) : Becomes r r
  | found (p : Placeholder) (id : EntityId) : Becomes (.placeholder p) (.resolved id)
  | missed (p : Placeholder) : Becomes (.placeholder p) (.unresolved p)
  | redirected (id id' : EntityId) : Becomes (.resolved id) (.resolved id')

namespace Reference.Becomes

variable {a b c : Reference} {p : Placeholder}

theorem trans (h : a.Becomes b) (h' : b.Becomes c) : a.Becomes c := by
  cases h with
  | same => exact h'
  | found p id => cases h' <;> exact .found p _
  | missed p => cases h'; exact .missed p
  | redirected id id' => cases h' <;> exact .redirected id _

theorem eq_placeholder (h : a.Becomes b) (hb : b = .placeholder p) : a = .placeholder p := by
  cases h with
  | same => exact hb
  | found => cases hb
  | missed => cases hb
  | redirected => cases hb

theorem eq_unresolved (h : a.Becomes b) (ha : a = .unresolved p) : b = .unresolved p := by
  cases h with
  | same => exact ha
  | found => cases ha
  | missed => cases ha
  | redirected => cases ha

/-- A target that is missed in two changes is missed in the first or in the second. -/
theorem eq_or_eq (h : a.Becomes b) (ha : a = .placeholder p) (h' : b.Becomes c)
    (hc : c = .unresolved p) : b = .placeholder p ∨ b = .unresolved p := by
  subst ha hc
  cases h with
  | same => exact Or.inl rfl
  | found p id => cases h'
  | missed => exact Or.inr rfl

end Reference.Becomes

/-! ### Losses

A link is lost where it is removed, or where what it looked for is missed. Losses of two changes add up,
as what is lost cannot be lost again. -/

namespace EntitySet

/-- What is lost of the links between two sets. -/
inductive Lost (before after : EntitySet) (place : LinkPlace) : Prop
  | removed {l : Link} (was : before.link? place.entity place.slot = some l)
      (gone : after.link? place.entity place.slot = none)
  | marked {l l' : Link} {p : Placeholder} (was : before.link? place.entity place.slot = some l)
      (looked : l.target = .placeholder p) (now : after.link? place.entity place.slot = some l')
      (missed : l'.target = .unresolved p)

/-- Every loss has one warning of its own, and there are no other warnings; `reports` says which
warnings name a place. -/
def LossesReported (before after : EntitySet) (reports : LinkPlace → Warning → Prop)
    (warnings : List Warning) : Prop :=
  ∃ lost : List LinkPlace, lost.Nodup ∧ (∀ place, place ∈ lost ↔ before.Lost after place) ∧
    List.Forall₂ reports lost warnings

/-- Every link of the later set has come from the earlier one, and no marked link is gone. -/
structure Thinned (before after : EntitySet) : Prop where
  exists_before : ∀ id slot l', after.link? id slot = some l' →
    ∃ l, before.link? id slot = some l ∧ l.target.Becomes l'.target
  exists_after_of_marked : ∀ id slot l p, before.link? id slot = some l → l.target = .unresolved p →
    ∃ l', after.link? id slot = some l'

variable {before mid after : EntitySet} {place : LinkPlace}
  {reports reports' : LinkPlace → Warning → Prop} {ws ws' : List Warning}

/-- A link that was marked is marked still. -/
theorem Thinned.exists_marked (h : before.Thinned after) {id : EntityId} {slot : LinkSlot} {l : Link}
    {p : Placeholder} (hl : before.link? id slot = some l) (hp : l.target = .unresolved p) :
    ∃ l', after.link? id slot = some l' ∧ l'.target = .unresolved p := by
  obtain ⟨l', hl'⟩ := h.exists_after_of_marked id slot l p hl hp
  obtain ⟨l₀, hl₀, hbecomes⟩ := h.exists_before id slot l' hl'
  obtain rfl := Option.some.inj (hl.symm.trans hl₀)
  exact ⟨l', hl', hbecomes.eq_unresolved hp⟩

theorem Thinned.trans (h : before.Thinned mid) (h' : mid.Thinned after) : before.Thinned after where
  exists_before id slot l'' hl'' := by
    obtain ⟨l', hl', hbecomes'⟩ := h'.exists_before id slot l'' hl''
    obtain ⟨l, hl, hbecomes⟩ := h.exists_before id slot l' hl'
    exact ⟨l, hl, hbecomes.trans hbecomes'⟩
  exists_after_of_marked id slot l p hl hp := by
    obtain ⟨l', hl', hp'⟩ := h.exists_marked hl hp
    exact h'.exists_after_of_marked id slot l' p hl' hp'

namespace Lost

/-- A link that stays the same is not lost. -/
theorem link?_ne (h : before.Lost after place) :
    after.link? place.entity place.slot ≠ before.link? place.entity place.slot := by
  intro hsame
  rcases h with ⟨was, gone⟩ | ⟨was, looked, now, missed⟩
  · simp [hsame, was] at gone
  · rw [hsame] at now
    obtain rfl := Option.some.inj (was.symm.trans now)
    simp [looked] at missed

/-- What is lost stays lost. -/
theorem later (h : before.Lost mid place) (h' : mid.Thinned after) : before.Lost after place := by
  rcases h with ⟨was, gone⟩ | ⟨was, looked, now, missed⟩
  · refine .removed was (Option.eq_none_iff_forall_ne_some.2 ?_)
    intro l hl
    obtain ⟨l', hl', -⟩ := h'.exists_before _ _ l hl
    rw [gone] at hl'
    cases hl'
  · obtain ⟨l, hl, hmissed⟩ := h'.exists_marked now missed
    exact .marked was looked hl hmissed

/-- What is lost later was there before. -/
theorem earlier (h : mid.Lost after place) (h' : before.Thinned mid) : before.Lost after place := by
  rcases h with ⟨was, gone⟩ | ⟨was, looked, now, missed⟩
  · obtain ⟨l, hl, -⟩ := h'.exists_before _ _ _ was
    exact .removed hl gone
  · obtain ⟨l, hl, hbecomes⟩ := h'.exists_before _ _ _ was
    exact .marked hl (hbecomes.eq_placeholder looked) now missed

end Lost

namespace Thinned

/-- What is lost in two changes is lost in the first or in the second. -/
theorem lost_iff (h : before.Thinned mid) (h' : mid.Thinned after) :
    before.Lost after place ↔ before.Lost mid place ∨ mid.Lost after place := by
  constructor
  · rintro (⟨was, gone⟩ | ⟨was, looked, now, missed⟩)
    · cases hmid : mid.link? place.entity place.slot with
      | none => exact Or.inl (.removed was hmid)
      | some l => exact Or.inr (.removed hmid gone)
    · obtain ⟨l, hl, hbecomes'⟩ := h'.exists_before _ _ _ now
      obtain ⟨l₀, hl₀, hbecomes⟩ := h.exists_before _ _ l hl
      obtain rfl := Option.some.inj (was.symm.trans hl₀)
      rcases hbecomes.eq_or_eq looked hbecomes' missed with hp | hp
      · exact Or.inr (.marked hl hp now missed)
      · exact Or.inl (.marked was looked hl hp)
  · rintro (hlost | hlost)
    · exact hlost.later h'
    · exact hlost.earlier h

/-- Nothing is lost twice. -/
theorem not_lost_of_lost (h' : mid.Thinned after) (hlost : before.Lost mid place) :
    ¬mid.Lost after place := by
  rintro (⟨was', gone'⟩ | ⟨was', looked', -, -⟩)
  · rcases hlost with ⟨-, gone⟩ | ⟨-, -, now, missed⟩
    · simp [gone] at was'
    · obtain ⟨l, hl⟩ := h'.exists_after_of_marked _ _ _ _ now missed
      simp [gone'] at hl
  · rcases hlost with ⟨-, gone⟩ | ⟨-, -, now, missed⟩
    · simp [gone] at was'
    · obtain rfl := Option.some.inj (now.symm.trans was')
      simp [missed] at looked'

end Thinned

/-! ### Changes that are reported

Stages are put together from changes that keep this account: exchanges of targets, which lose nothing, and
filters. -/

/-- A set has come from another one, with a warning for every loss. -/
structure ReportedChange (before after : EntitySet) (reports : LinkPlace → Warning → Prop)
    (warnings : List Warning) : Prop where
  thinned : before.Thinned after
  losses : before.LossesReported after reports warnings

namespace ReportedChange

/-- To exchange entities for others in the targets of links is nothing to report. -/
theorem of_exchange (turn : EntityId → Reference → Reference)
    (hturn : ∀ id r, turn id r = r ∨ ∃ t t', r = .resolved t ∧ turn id r = .resolved t')
    (hlink : ∀ id slot, after.link? id slot =
      (before.link? id slot).map fun l => { l with target := turn id l.target }) :
    before.ReportedChange after reports [] where
  thinned :=
    { exists_before := by
        intro id slot l' hl'
        rw [hlink, Option.map_eq_some_iff] at hl'
        obtain ⟨l, hl, rfl⟩ := hl'
        refine ⟨l, hl, ?_⟩
        rcases hturn id l.target with hsame | ⟨t, t', ht, ht'⟩
        · simp only [hsame]
          exact .same _
        · simp only [ht'] at ht ⊢
          rw [ht]
          exact .redirected t t'
      exists_after_of_marked := by
        intro id slot l p hl _
        exact ⟨_, by rw [hlink, hl, Option.map_some]⟩ }
  losses := by
    refine ⟨[], .nil, fun place => iff_of_false List.not_mem_nil ?_, .nil⟩
    -- an exchange removes no link, and turns no placeholder into a marked link
    rintro (⟨was, gone⟩ | ⟨was, looked, now, missed⟩)
    · rw [hlink, was] at gone
      cases gone
    · rw [hlink, was] at now
      obtain rfl := Option.some.inj now
      simp only [looked] at missed
      rcases hturn place.entity (.placeholder _) with hsame | ⟨t, t', ht, -⟩
      · cases hsame.symm.trans missed
      · cases ht

theorem refl (s : EntitySet) : s.ReportedChange s reports [] := by
  apply of_exchange fun _ r => r
  · exact fun _ _ => Or.inl rfl
  · intro id slot
    cases s.link? id slot <;> rfl

/-- A change that removes some links, none of which is marked, is reported by the warnings about
these. -/
theorem of_filter (removes : LinkPlace → Link → Bool)
    (hmarked : ∀ place l p, l.target = .unresolved p → removes place l = false)
    (hlink : ∀ id slot, after.link? id slot =
      (before.link? id slot).filter fun l => !removes ⟨id, slot⟩ l)
    {lost : List LinkPlace} (hnodup : lost.Nodup)
    (hlost : ∀ place, place ∈ lost ↔
      ∃ l, before.link? place.entity place.slot = some l ∧ removes place l = true)
    (hws : List.Forall₂ reports lost ws) : before.ReportedChange after reports ws where
  thinned :=
    { exists_before := by
        intro id slot l' hl'
        rw [hlink, Option.filter_eq_some_iff] at hl'
        exact ⟨l', hl'.1, .same _⟩
      exists_after_of_marked := by
        intro id slot l p hl hp
        refine ⟨l, ?_⟩
        rw [hlink, hl, Option.filter_some, hmarked _ l p hp]
        rfl }
  losses := by
    refine ⟨lost, hnodup, ?_, hws⟩
    intro place
    rw [hlost]
    constructor
    · rintro ⟨l, hl, hremoves⟩
      refine .removed hl ?_
      rw [hlink, hl, Option.filter_some, hremoves]
      rfl
    -- the filter keeps or removes, so that only the first kind of loss is possible
    · rintro (⟨was, gone⟩ | ⟨was, looked, now, missed⟩)
      · rw [hlink, was, Option.filter_some] at gone
        refine ⟨_, was, ?_⟩
        by_contra hkept
        simp [hkept] at gone
      · rw [hlink, was, Option.filter_eq_some_iff] at now
        obtain rfl := Option.some.inj now.1
        simp [looked] at missed

/-- Reports about one change after the other are a report about both. -/
theorem trans (h : before.ReportedChange mid reports ws)
    (h' : mid.ReportedChange after reports ws') :
    before.ReportedChange after reports (ws ++ ws') where
  thinned := h.thinned.trans h'.thinned
  losses := by
    obtain ⟨lost, hnodup, hlost, hws⟩ := h.losses
    obtain ⟨lost', hnodup', hlost', hws'⟩ := h'.losses
    refine ⟨lost ++ lost', ?_, ?_, List.rel_append hws hws'⟩
    · refine List.nodup_append.2 ⟨hnodup, hnodup', ?_⟩
      rintro place hplace _ hplace' rfl
      exact h'.thinned.not_lost_of_lost ((hlost place).1 hplace) ((hlost' place).1 hplace')
    · intro place
      rw [List.mem_append, hlost, hlost', h.thinned.lost_iff h'.thinned]

theorem mono (h : before.ReportedChange after reports ws)
    (himp : ∀ place w, reports place w → reports' place w) :
    before.ReportedChange after reports' ws := by
  obtain ⟨hthinned, lost, hnodup, hlost, hws⟩ := h
  exact ⟨hthinned, lost, hnodup, hlost, hws.imp himp⟩

end ReportedChange

end EntitySet

/-! ### Matching

A pass visits the placeholders in the order of their places, which are all different, so that every
warning speaks of a place of its own. -/

/-- The place of a placeholder. -/
def Pending.place (job : Pending) : LinkPlace := ⟨job.entity, job.slot⟩

theorem Entity.pairwise_before_pending (e : Entity) :
    e.pending.Pairwise fun job job' => job.slot.Before job'.slot := by
  -- required slots in order, optional ones in order, and the required before the optional
  refine List.pairwise_append.2 ⟨?_, ?_, ?_⟩
  · have hpositions : e.required.zipIdx.Pairwise fun entry entry' => entry.2 < entry'.2 := by
      apply List.pairwise_map.1
      rw [List.zipIdx_map_snd]
      exact List.pairwise_lt_range'
    refine hpositions.filterMap _ ?_
    intro entry entry' hlt job hjob job' hjob'
    obtain ⟨p, -, rfl⟩ := Option.map_eq_some_iff.1 hjob
    obtain ⟨p', -, rfl⟩ := Option.map_eq_some_iff.1 hjob'
    exact hlt
  · refine e.optional.sorted.filterMap _ ?_
    intro entry entry' hlt job hjob job' hjob'
    obtain ⟨p, -, rfl⟩ := Option.map_eq_some_iff.1 hjob
    obtain ⟨p', -, rfl⟩ := Option.map_eq_some_iff.1 hjob'
    exact hlt
  · intro job hjob job' hjob'
    obtain ⟨entry, -, hentry⟩ := List.mem_filterMap.1 hjob
    obtain ⟨entry', -, hentry'⟩ := List.mem_filterMap.1 hjob'
    obtain ⟨p, -, rfl⟩ := Option.map_eq_some_iff.1 hentry
    obtain ⟨p', -, rfl⟩ := Option.map_eq_some_iff.1 hentry'
    trivial

/-- The placeholders of a set come in the order of their places. -/
theorem EntitySet.pairwise_before_pending (s : EntitySet) :
    s.pending.Pairwise fun job job' => job.place.Before job'.place := by
  refine List.pairwise_flatMap.2 ⟨?_, ?_⟩
  · intro e _
    refine e.pairwise_before_pending.imp_of_mem ?_
    intro job job' hjob hjob' hslot
    refine Or.inr ⟨?_, hslot⟩
    exact (Entity.mem_pending_iff.1 hjob).1.trans (Entity.mem_pending_iff.1 hjob').1.symm
  · have hids : s.toList.Pairwise fun e e' => e.id < e'.id := by
      apply List.pairwise_map.1
      rw [LinearScan.map_id_toList]
      exact List.pairwise_lt_range
    refine hids.imp ?_
    intro e e' hlt job hjob job' hjob'
    refine Or.inl ?_
    show job.entity < job'.entity
    rw [(Entity.mem_pending_iff.1 hjob).1, (Entity.mem_pending_iff.1 hjob').1]
    exact hlt

/-- No two placeholders stand at one place. -/
theorem EntitySet.nodup_place_pending (s : EntitySet) : (s.pending.map Pending.place).Nodup := by
  refine List.pairwise_map.2 (s.pairwise_before_pending.imp ?_)
  intro job job' hbefore heq
  rw [heq] at hbefore
  exact hbefore.asymm hbefore

namespace Resolving

open EntitySet

variable {schema : Schema} {policy : UnresolvedPolicy} {s t : EntitySet} {done : List Pending}
  {found : Placeholder → Option EntityId} {job : Pending} {place : LinkPlace}

/-- A warning names the entity of a placeholder, and the attribute or the key that it stands for. -/
inductive ReportsUnmatched (schema : Schema) (s : EntitySet) : LinkPlace → Warning → Prop
  | optional {id : EntityId} {name : String} {l : Link} {p : Placeholder}
      (was : s.link? id (.optional name) = some l) (looked : l.target = .placeholder p) :
      ReportsUnmatched schema s ⟨id, .optional name⟩
        (.optionalUnmatched (s.label id) name (describe schema p))
  | required {id : EntityId} {position : Nat} {l : Link} {p : Placeholder}
      (was : s.link? id (.required position) = some l) (looked : l.target = .placeholder p) :
      ReportsUnmatched schema s ⟨id, .required position⟩
        (.requiredUnmatched (s.label id) (keyName schema p) (describe schema p))

theorem reports_unmatchedWarning (hjob : job ∈ s.pending) :
    ReportsUnmatched schema s job.place (unmatchedWarning schema s job) := by
  obtain ⟨l, hl, htarget⟩ := mem_pending_iff.1 hjob
  obtain ⟨id, slot, p⟩ := job
  cases slot with
  | required position => exact .required hl htarget
  | optional name => exact .optional hl htarget

namespace SettledAt

variable (h : SettledAt found s done t) (hdone : ∀ job ∈ done, job ∈ s.pending)

include h hdone

/-- What has become of a placeholder that is settled. -/
theorem exists_link? (hjob : job ∈ done) : ∃ l, s.link? job.entity job.slot = some l ∧
    l.target = .placeholder job.placeholder ∧
    t.link? job.entity job.slot = settle found job.slot l := by
  obtain ⟨l, hl, htarget⟩ := mem_pending_iff.1 (hdone job hjob)
  refine ⟨l, hl, htarget, ?_⟩
  rw [h.settled job hjob, hl, Option.bind_some]

theorem thinned : s.Thinned t where
  exists_before id slot l' hl' := by
    -- a link was waiting and has been treated, or else nothing has touched it
    by_cases hplace : ∃ job ∈ done, job.entity = id ∧ job.slot = slot
    · obtain ⟨job, hjob, rfl, rfl⟩ := hplace
      obtain ⟨l, hl, htarget, hnow⟩ := h.exists_link? hdone hjob
      refine ⟨l, hl, ?_⟩
      rw [hnow, settle_of_placeholder htarget] at hl'
      rw [htarget]
      split at hl'
      · obtain rfl := Option.some.inj hl'
        exact .found _ _
      · cases hl'
      · obtain rfl := Option.some.inj hl'
        exact .missed _
    · rw [h.untouched id slot fun job hjob heq => hplace ⟨job, hjob, heq⟩] at hl'
      exact ⟨l', hl', .same _⟩
  exists_after_of_marked id slot l p hl hp := by
    refine ⟨l, (h.untouched id slot ?_).trans hl⟩
    rintro job hjob ⟨rfl, rfl⟩
    obtain ⟨l', hl', htarget⟩ := mem_pending_iff.1 (hdone job hjob)
    obtain rfl := Option.some.inj (hl.symm.trans hl')
    simp [htarget] at hp

/-- The placeholders that are lost are those that are settled without a match. -/
theorem lost_iff :
    s.Lost t place ↔ ∃ job ∈ done, job.place = place ∧ found job.placeholder = none := by
  constructor
  · intro hlost
    -- only a treated place can have lost its link: everywhere else the two sets agree
    by_cases hplace : ∃ job ∈ done, job.place = place
    · obtain ⟨job, hjob, rfl⟩ := hplace
      obtain ⟨l, -, htarget, hnow⟩ := h.exists_link? hdone hjob
      refine ⟨job, hjob, rfl, ?_⟩
      cases hfound : found job.placeholder with
      | none => rfl
      | some id =>
        rw [settle_of_placeholder htarget, hfound] at hnow
        rcases hlost with ⟨-, gone⟩ | ⟨-, -, now, missed⟩
        · cases gone.symm.trans hnow
        · obtain rfl := Option.some.inj (now.symm.trans hnow)
          cases missed
    · exfalso
      have hsame : t.link? place.entity place.slot = s.link? place.entity place.slot := by
        apply h.untouched
        rintro job hjob ⟨hentity, hslot⟩
        exact hplace ⟨job, hjob, by rw [Pending.place, hentity, hslot]⟩
      exact hlost.link?_ne hsame
  · rintro ⟨⟨id, slot, p⟩, hjob, rfl, hmissing⟩
    obtain ⟨l, hl, htarget, hnow⟩ := h.exists_link? hdone hjob
    simp only [settle_of_placeholder htarget] at hmissing hnow
    rw [hmissing] at hnow
    cases slot with
    | required position => exact .marked hl htarget hnow rfl
    | optional name => exact .removed hl hnow

end SettledAt

end Resolving

namespace EntitySet

open Resolving

/-- A resolution pass warns exactly once about each placeholder that it removes or marks, and about
nothing else. -/
theorem reportedChange_resolve (schema : Schema) (policy : UnresolvedPolicy) (s : EntitySet) :
    s.ReportedChange (s.resolve schema policy).state.entities (ReportsUnmatched schema s)
      (s.resolve schema policy).warnings := by
  obtain ⟨done, hdone, hsettled, hwarnings⟩ := exists_settledAt_resolve schema policy s
  refine ⟨hsettled.thinned hdone.subset,
    (done.filter fun job => match? schema s job.placeholder = none).map Pending.place, ?_, ?_, ?_⟩
  · exact s.nodup_place_pending.sublist ((List.filter_sublist.trans hdone.sublist).map _)
  · intro place
    rw [hsettled.lost_iff hdone.subset]
    simp only [List.mem_map, List.mem_filter, decide_eq_true_iff]
    constructor
    · rintro ⟨job, ⟨hjob, hmissing⟩, hplace⟩
      exact ⟨job, hjob, hplace, hmissing⟩
    · rintro ⟨job, hjob, hplace, hmissing⟩
      exact ⟨job, ⟨hjob, hmissing⟩, hplace⟩
  · rw [hwarnings, List.forall₂_map_left_iff, List.forall₂_map_right_iff, List.forall₂_same]
    intro job hjob
    exact reports_unmatchedWarning (hdone.subset (List.mem_of_mem_filter hjob))

end EntitySet

end FixturePlan
