import FixturePlan.Proofs.Entity.Slot
import FixturePlan.Proofs.Report

/-!
# What resolution makes of every link

A resolution pass treats the placeholders one after the other; what it makes of each (`settle`) depends
on the set it began with and not on the links treated before. After a pass that succeeds every link is
settled (`link?_resolve`), and with it the whole set (`entities_resolve`).
-/

namespace FixturePlan

/-! ### Settled links

What a pass makes of a link depends only on the match of what the link looks for. This is put down for
single links, for entities and for sets. -/

namespace Link

variable {found : Placeholder → Option EntityId} (l : Link)

/-- A link after matching, if `found` gives the matches: it leads to its match or is marked. -/
def settled (found : Placeholder → Option EntityId) (l : Link) : Link :=
  match l.target with
  | .placeholder p =>
    { l with target := match found p with
      | some id => .resolved id
      | none => .unresolved p }
  | .resolved _ => l
  | .unresolved _ => l

/-- Whether a link looks for something that is not found. -/
def isUnmatched (found : Placeholder → Option EntityId) (l : Link) : Bool :=
  match l.target with
  | .placeholder p => (found p).isNone
  | .resolved _ => false
  | .unresolved _ => false

@[simp] theorem foreignKey_settled : (l.settled found).foreignKey = l.foreignKey := by
  unfold settled
  split <;> rfl

theorem settled_of_not_placeholder (h : ∀ p, l.target ≠ .placeholder p) : l.settled found = l := by
  unfold settled
  split
  · next p hp => exact absurd hp (h p)
  · rfl
  · rfl

theorem isUnmatched_of_not_placeholder (h : ∀ p, l.target ≠ .placeholder p) :
    l.isUnmatched found = false := by
  unfold isUnmatched
  split
  · next p hp => exact absurd hp (h p)
  · rfl
  · rfl

theorem target_settled_ne_placeholder (p : Placeholder) :
    (l.settled found).target ≠ .placeholder p := by
  unfold settled
  split
  · split <;> simp
  · next h => simp [h]
  · next h => simp [h]

theorem target_settled_eq_resolved_iff {id : EntityId} :
    (l.settled found).target = .resolved id ↔
      l.target = .resolved id ∨ ∃ p, l.target = .placeholder p ∧ found p = some id := by
  unfold settled
  split
  · next p hp => cases hfound : found p <;> simp [hp, hfound]
  · next h => simp [h]
  · next h => simp [h]

theorem target_settled_eq_unresolved_iff {p : Placeholder} :
    (l.settled found).target = .unresolved p ↔
      l.target = .unresolved p ∨ l.target = .placeholder p ∧ found p = none := by
  unfold settled
  split
  · next q hq =>
    cases hfound : found q with
    | none =>
      simp only [hq, Reference.unresolved.injEq, Reference.placeholder.injEq, reduceCtorEq, false_or]
      constructor
      · rintro rfl
        exact ⟨rfl, hfound⟩
      · exact fun h => h.1
    | some id =>
      simp only [hq, Reference.placeholder.injEq, reduceCtorEq, false_or, false_iff]
      rintro ⟨rfl, hnone⟩
      simp [hfound] at hnone
  · next h => simp [h]
  · next h => simp [h]

end Link

namespace Entity

/-- An entity after matching: optional links to nothing are gone. -/
def settled (found : Placeholder → Option EntityId) (e : Entity) : Entity :=
  { e with
    required := e.required.map (·.settled found)
    optional := (e.optional.filter fun _ l => !l.isUnmatched found).mapValues
      fun _ l => l.settled found }

theorem mem_required_settled {found : Placeholder → Option EntityId} {e : Entity} {l : Link} :
    l ∈ (e.settled found).required ↔ ∃ l' ∈ e.required, l'.settled found = l := List.mem_map

theorem mem_optional_settled {found : Placeholder → Option EntityId} {e : Entity} {l : Link} :
    l ∈ (e.settled found).optional.values ↔
      ∃ l' ∈ e.optional.values, l'.isUnmatched found = false ∧ l'.settled found = l := by
  simp only [settled, SortedMap.mem_values, SortedMap.find?_mapValues, SortedMap.find?_filter,
    Option.map_eq_some_iff, Option.filter_eq_some_iff, Bool.not_eq_true']
  constructor
  · rintro ⟨name, l', ⟨hl', hmatched⟩, rfl⟩
    exact ⟨l', ⟨name, hl'⟩, hmatched, rfl⟩
  · rintro ⟨l', ⟨name, hl'⟩, hmatched, rfl⟩
    exact ⟨name, l', ⟨hl', hmatched⟩, rfl⟩

/-- A link after matching is a link from before, settled. -/
theorem exists_of_mem_links_settled {found : Placeholder → Option EntityId} {e : Entity} {l : Link}
    (h : l ∈ (e.settled found).links) : ∃ l' ∈ e.links, l'.settled found = l := by
  rcases List.mem_append.1 h with h | h
  · obtain ⟨l', hl', heq⟩ := mem_required_settled.1 h
    exact ⟨l', List.mem_append_left _ hl', heq⟩
  · obtain ⟨l', hl', -, heq⟩ := mem_optional_settled.1 h
    exact ⟨l', List.mem_append_right _ hl', heq⟩

/-- An entity has a link by a key, and all its links by the key have one target. -/
def LinkedBy (e : Entity) (k : ForeignKeyId) (target : Reference) : Prop :=
  (∃ l ∈ e.links, l.foreignKey = k) ∧ ∀ l ∈ e.links, l.foreignKey = k → l.target = target

/-- A link that finds its match leads to it. -/
theorem linkedBy_settled {found : Placeholder → Option EntityId} {e : Entity} {k : ForeignKeyId}
    {p : Placeholder} {id : EntityId} (h : e.LinkedBy k (.placeholder p)) (hfound : found p = some id) :
    (e.settled found).LinkedBy k (.resolved id) := by
  obtain ⟨⟨l, hl, hkey⟩, htarget⟩ := h
  refine ⟨⟨l.settled found, ?_, by rw [Link.foreignKey_settled, hkey]⟩, ?_⟩
  · rcases List.mem_append.1 hl with hl' | hl'
    · exact List.mem_append_left _ (mem_required_settled.2 ⟨l, hl', rfl⟩)
    · refine List.mem_append_right _ (mem_optional_settled.2 ⟨l, hl', ?_, rfl⟩)
      simp [Link.isUnmatched, htarget l hl hkey, hfound]
  · intro l' hl' hkey'
    obtain ⟨l, hl, rfl⟩ := exists_of_mem_links_settled hl'
    rw [Link.foreignKey_settled] at hkey'
    exact (l.target_settled_eq_resolved_iff).2 (Or.inr ⟨p, htarget l hl hkey', hfound⟩)

/-- A link that finds nothing is marked and required, or gone. -/
theorem unresolved_of_mem_settled {found : Placeholder → Option EntityId} {e : Entity}
    {k : ForeignKeyId} {p : Placeholder}
    (h : ∀ l ∈ e.links, l.foreignKey = k → l.target = .placeholder p) (hfound : found p = none)
    {l : Link} (hl : l ∈ (e.settled found).links) (hkey : l.foreignKey = k) :
    l.target = .unresolved p ∧ ∃ l' ∈ e.required, l'.foreignKey = k := by
  rcases List.mem_append.1 hl with hl | hl
  · obtain ⟨l', hl', rfl⟩ := mem_required_settled.1 hl
    rw [Link.foreignKey_settled] at hkey
    have htarget := h l' (List.mem_append_left _ hl') hkey
    exact ⟨(l'.target_settled_eq_unresolved_iff).2 (Or.inr ⟨htarget, hfound⟩), l', hl', hkey⟩
  · obtain ⟨l', hl', hmatched, rfl⟩ := mem_optional_settled.1 hl
    rw [Link.foreignKey_settled] at hkey
    have htarget := h l' (List.mem_append_right _ hl') hkey
    simp [Link.isUnmatched, htarget, hfound] at hmatched

/-- A required link that finds nothing is marked. -/
theorem linkedBy_unresolved_settled {found : Placeholder → Option EntityId} {e : Entity}
    {k : ForeignKeyId} {p : Placeholder} {l : Link} (hl : l ∈ e.required) (hkey : l.foreignKey = k)
    (h : ∀ l ∈ e.links, l.foreignKey = k → l.target = .placeholder p) (hfound : found p = none) :
    (e.settled found).LinkedBy k (.unresolved p) := by
  refine ⟨⟨l.settled found, ?_, by rw [Link.foreignKey_settled, hkey]⟩, ?_⟩
  · exact List.mem_append_left _ (mem_required_settled.2 ⟨l, hl, rfl⟩)
  · exact fun l' hl' hkey' => (unresolved_of_mem_settled h hfound hl' hkey').1

@[simp] theorem id_settled (found : Placeholder → Option EntityId) (e : Entity) :
    (e.settled found).id = e.id := rfl

end Entity

/-- A set after matching. -/
def EntitySet.settled (found : Placeholder → Option EntityId) (s : EntitySet) : EntitySet :=
  s.map (·.settled found) (Entity.id_settled found)

namespace Resolving

variable {schema : Schema} {policy : UnresolvedPolicy} {s : EntitySet} {st : Resolving}
  {job : Pending}

/-! ### One placeholder

A step looks up one placeholder and then does one of four things. The look-up can build an index, but
never a wrong one. -/

/-- The four things that treating a placeholder can do: link it to its match or, where it has none,
remove it, stop, or mark it. -/
inductive Treated (schema : Schema) (policy : UnresolvedPolicy) (s : EntitySet) (st : Resolving)
    (job : Pending) (r : Pass ResolveError Resolving) : Prop where
  | linked (id : EntityId) (found : match? schema s job.placeholder = some id)
      (ok : r.failure = none)
      (entities : r.state.entities = st.entities.setLink job.entity job.slot (.resolved id))
      (stats : r.state.stats = { st.stats with resolved := st.stats.resolved + 1 })
  | removed (name : String) (missing : match? schema s job.placeholder = none)
      (slot : job.slot = .optional name) (ok : r.failure = none)
      (entities : r.state.entities = st.entities.removeOptional job.entity name)
      (stats : r.state.stats =
        { st.stats with unresolvedOptional := st.stats.unresolvedOptional + 1 })
  | stopped (position : Nat) (missing : match? schema s job.placeholder = none)
      (slot : job.slot = .required position) (strict : policy = .fail)
      (failed : r.failure = some (.unresolvedRequired (st.entities.label job.entity)
        (keyName schema job.placeholder) (describe schema job.placeholder)))
      (entities : r.state.entities = st.entities) (stats : r.state.stats = st.stats)
  | marked (position : Nat) (missing : match? schema s job.placeholder = none)
      (slot : job.slot = .required position) (lenient : policy = .warn) (ok : r.failure = none)
      (entities : r.state.entities =
        st.entities.setLink job.entity job.slot (.unresolved job.placeholder))
      (stats : r.state.stats =
        { st.stats with unresolvedRequired := st.stats.unresolvedRequired + 1 })

/-- A step does one of the four things, as the match in the set that the pass began with says, and
keeps the indexes right. -/
theorem treated_step (schema : Schema) (policy : UnresolvedPolicy) (h : Indexed s st)
    (job : Pending) :
    Treated schema policy s st job (step schema policy st job) ∧
      Indexed s (step schema policy st job).state := by
  have hfound := h.lookup_fst schema job.placeholder
  obtain ⟨hindexed, hentities, hstats⟩ := h.lookup_snd schema job.placeholder
  -- the lookup may build an index, which changes the state and no entity; its answer is all that counts
  unfold step
  generalize lookup schema st job.placeholder = r at hfound hindexed hentities hstats
  obtain ⟨found, entities, stats, indexes⟩ := r
  simp only at hfound hentities hstats
  subst hfound hentities hstats
  cases hmatch : match? schema s job.placeholder with
  | some id => exact ⟨.linked id hmatch rfl rfl rfl, hindexed.of_rows_eq (EntitySet.rows_setLink ..)⟩
  | none =>
    cases hslot : job.slot with
    | optional name =>
      exact ⟨.removed name hmatch hslot rfl rfl rfl,
        hindexed.of_rows_eq (EntitySet.rows_removeOptional ..)⟩
    | required position =>
      cases policy with
      | fail => exact ⟨.stopped position hmatch hslot rfl rfl rfl rfl, hindexed⟩
      | warn =>
        refine ⟨.marked position hmatch hslot rfl rfl ?_ rfl,
          hindexed.of_rows_eq (EntitySet.rows_setLink ..)⟩
        rw [hslot]
        rfl

/-- The warning about a placeholder without a match. -/
def unmatchedWarning (schema : Schema) (s : EntitySet) (job : Pending) : Warning :=
  let target := describe schema job.placeholder
  match job.slot with
  | .optional name => .optionalUnmatched (s.label job.entity) name target
  | .required _ => .requiredUnmatched (s.label job.entity) (keyName schema job.placeholder) target

/-- A step that goes on warns if and only if there is no match; a step that stops does not warn. -/
theorem warnings_step (schema : Schema) (policy : UnresolvedPolicy) (h : Indexed s st)
    (job : Pending) :
    (step schema policy st job).warnings =
      if (step schema policy st job).failure = none ∧ match? schema s job.placeholder = none then
        [unmatchedWarning schema s job]
      else [] := by
  have hfound := h.lookup_fst schema job.placeholder
  obtain ⟨-, hentities, -⟩ := h.lookup_snd schema job.placeholder
  have hlabel : st.entities.label job.entity = s.label job.entity :=
    EntitySet.label_eq_of_map_bare_eq (EntitySet.map_bare_get?_of_rows_eq h.rows_eq job.entity)
  -- the label is that of the first set: only links have changed since
  unfold step unmatchedWarning
  generalize lookup schema st job.placeholder = r at hfound hentities
  obtain ⟨found, entities, stats, indexes⟩ := r
  simp only at hfound hentities
  subst hfound hentities
  cases hmatch : match? schema s job.placeholder with
  | some id => simp [Pass.done]
  | none =>
    cases hslot : job.slot with
    | optional name => simp [Pass.noting, hlabel]
    | required position =>
      cases policy with
      | fail => simp [Pass.failing]
      | warn => simp [Pass.noting, hlabel]

/-- What a pass that succeeds makes of a link in a slot: a link without a match is removed from an
optional slot. -/
def settle (found : Placeholder → Option EntityId) (slot : LinkSlot) (l : Link) : Option Link :=
  match slot with
  | .required _ => some (l.settled found)
  | .optional _ => if l.isUnmatched found then none else some (l.settled found)

theorem settle_of_placeholder {found : Placeholder → Option EntityId} {l : Link} {p : Placeholder}
    (hl : l.target = .placeholder p) (slot : LinkSlot) :
    settle found slot l =
      match found p, slot with
      | some id, _ => some { l with target := .resolved id }
      | none, .optional _ => none
      | none, .required _ => some { l with target := .unresolved p } := by
  simp only [settle, Link.settled, Link.isUnmatched, hl]
  cases found p <;> cases slot <;> rfl

theorem settle_of_not_placeholder {found : Placeholder → Option EntityId} {l : Link}
    (hl : ∀ p, l.target ≠ .placeholder p) (slot : LinkSlot) : settle found slot l = some l := by
  unfold settle
  rw [l.settled_of_not_placeholder hl, l.isUnmatched_of_not_placeholder hl]
  cases slot <;> rfl

end Resolving

theorem Entity.link?_settled (found : Placeholder → Option EntityId) (e : Entity)
    (slot : LinkSlot) :
    (e.settled found).link? slot = (e.link? slot).bind (Resolving.settle found slot) := by
  cases slot with
  | required position =>
    simp only [link?, settled, List.getElem?_map]
    cases e.required[position]? <;> rfl
  | optional name =>
    simp only [link?, settled, SortedMap.find?_mapValues, SortedMap.find?_filter]
    cases e.optional.find? name with
    | none => rfl
    | some l =>
      rw [Option.bind_some, Option.filter_some]
      cases hl : l.isUnmatched found <;> simp only [Resolving.settle, hl] <;> rfl

namespace Resolving

variable {schema : Schema} {policy : UnresolvedPolicy} {s : EntitySet} {st : Resolving}
  {job : Pending}

/-! ### All placeholders

The invariant of a pass: links are settled in the slots that were treated, and elsewhere they are as at
the beginning. -/

/-- The links of `t` are those of `s`, settled in the slots of the jobs in `done`. -/
structure SettledAt (found : Placeholder → Option EntityId) (s : EntitySet) (done : List Pending)
    (t : EntitySet) : Prop where
  settled : ∀ job ∈ done,
    t.link? job.entity job.slot = (s.link? job.entity job.slot).bind (settle found job.slot)
  untouched : ∀ id slot, (∀ job ∈ done, ¬(job.entity = id ∧ job.slot = slot)) →
    t.link? id slot = s.link? id slot

theorem SettledAt.start (found : Placeholder → Option EntityId) (s : EntitySet) :
    SettledAt found s [] s where
  settled _ hjob := absurd hjob List.not_mem_nil
  untouched _ _ _ := rfl

/-- A step that does not stop settles the link in its slot, also where the link was settled before, and
leaves the other links as they are. -/
theorem link?_step {l : Link} (h : Indexed s st) (htarget : l.target = .placeholder job.placeholder)
    (hnow : st.entities.link? job.entity job.slot = some l ∨
      st.entities.link? job.entity job.slot = settle (match? schema s) job.slot l)
    (hok : (step schema policy st job).failure = none) (id : EntityId) (slot : LinkSlot) :
    (step schema policy st job).state.entities.link? id slot =
      if id = job.entity ∧ slot = job.slot then settle (match? schema s) job.slot l
      else st.entities.link? id slot := by
  rw [settle_of_placeholder htarget] at hnow ⊢
  -- at the treated slot the link is settled, whether or not it was treated before
  cases (treated_step schema policy h job).1 with
  | linked id' hfound _ hentities _ =>
    rw [hentities, EntitySet.link?_setLink]
    split
    · next heq =>
      obtain ⟨rfl, rfl⟩ := heq
      rw [hfound] at hnow ⊢
      rcases hnow with hnow | hnow <;> simp [hnow]
    · rfl
  | removed name hmissing hslot _ hentities _ =>
    rw [hentities, EntitySet.link?_removeOptional, hslot, hmissing]
  | stopped _ _ _ _ hfailed _ _ =>
    rw [hfailed] at hok
    cases hok
  | marked position hmissing hslot _ _ hentities _ =>
    rw [hentities, EntitySet.link?_setLink]
    split
    · next heq =>
      obtain ⟨rfl, rfl⟩ := heq
      rw [hslot, hmissing] at hnow ⊢
      rcases hnow with hnow | hnow <;> simp [hnow]
    · rfl

/-- A step settles its placeholder, and nothing else. -/
theorem settledAt_step {done : List Pending} (h : Indexed s st)
    (hdone : SettledAt (match? schema s) s done st.entities) (hjob : job ∈ s.pending)
    (hok : (step schema policy st job).failure = none) :
    SettledAt (match? schema s) s (done ++ [job]) (step schema policy st job).state.entities := by
  obtain ⟨l, hl, htarget⟩ := EntitySet.mem_pending_iff.1 hjob
  -- the slot holds the placeholder, or what an earlier job for the same slot has made of it
  have hnow : st.entities.link? job.entity job.slot = some l ∨
      st.entities.link? job.entity job.slot = settle (match? schema s) job.slot l := by
    by_cases hseen : ∃ job' ∈ done, job'.entity = job.entity ∧ job'.slot = job.slot
    · obtain ⟨job', hmem, hentity, hslot⟩ := hseen
      have hsettled := hdone.settled job' hmem
      rw [hentity, hslot, hl] at hsettled
      exact Or.inr hsettled
    · refine Or.inl ((hdone.untouched _ _ ?_).trans hl)
      exact fun job' hmem heq => hseen ⟨job', hmem, heq⟩
  have hstep := link?_step h htarget hnow hok
  refine ⟨?_, ?_⟩
  · intro job' hmem
    rw [hstep]
    split
    · next heq => rw [heq.1, heq.2, hl, Option.bind_some]
    · next hne =>
      rcases List.mem_append.1 hmem with hmem | hmem
      · exact hdone.settled job' hmem
      · obtain rfl := List.mem_singleton.1 hmem
        exact absurd ⟨rfl, rfl⟩ hne
  · intro id slot hnone
    have hne : ¬(id = job.entity ∧ slot = job.slot) := fun heq =>
      hnone job (by simp) ⟨heq.1.symm, heq.2.symm⟩
    rw [hstep, if_neg hne]
    exact hdone.untouched id slot fun job' hmem => hnone job' (List.mem_append_left _ hmem)

/-- A pass that succeeds settles all placeholders that it treats. -/
theorem settledAt_run {done jobs : List Pending} (h : Indexed s st)
    (hdone : SettledAt (match? schema s) s done st.entities) (hjobs : ∀ job ∈ jobs, job ∈ s.pending)
    (hok : (Pass.run (step schema policy) st jobs).failure = none) :
    SettledAt (match? schema s) s (done ++ jobs)
      (Pass.run (step schema policy) st jobs).state.entities := by
  induction jobs generalizing done st with
  | nil => rwa [List.append_nil]
  | cons job rest ih =>
    obtain ⟨hstep, hrest⟩ := (Pass.failure_run_cons st job rest).1 hok
    rw [Pass.state_run_cons hstep, List.append_cons]
    exact ih (treated_step schema policy h job).2
      (settledAt_step h hdone (hjobs job List.mem_cons_self) hstep)
      (fun job' hmem => hjobs job' (List.mem_cons_of_mem _ hmem)) hrest

/-- A pass that succeeds warns about the placeholders without a match, in their order. -/
theorem warnings_run {jobs : List Pending} (h : Indexed s st)
    (hok : (Pass.run (step schema policy) st jobs).failure = none) :
    (Pass.run (step schema policy) st jobs).warnings =
      (jobs.filter fun job => match? schema s job.placeholder = none).map
        (unmatchedWarning schema s) := by
  induction jobs generalizing st with
  | nil => rfl
  | cons job rest ih =>
    obtain ⟨hstep, hrest⟩ := (Pass.failure_run_cons st job rest).1 hok
    rw [Pass.run_cons, Pass.warnings_andThen hstep, ih (treated_step schema policy h job).2 hrest,
      warnings_step schema policy h, List.filter_cons]
    cases hmatch : match? schema s job.placeholder <;> simp [hstep]

/-- The indexes stay right through a whole pass. -/
theorem indexed_run (h : Indexed s st) (jobs : List Pending) :
    Indexed s (Pass.run (step schema policy) st jobs).state := by
  apply Pass.state_run_of_step (P := Indexed s) _ h
  intro st' job _ hst'
  exact (treated_step schema policy hst' job).2

/-! ### Failures

Only required placeholders without a match stop a pass, and only under the strict policy. -/

/-- A placeholder stops a strict pass if it stands in a required slot and has no match. -/
theorem failure_step_eq_none_iff (h : Indexed s st) :
    (step schema policy st job).failure = none ↔
      (policy = .fail → ∀ position, job.slot = .required position →
        match? schema s job.placeholder ≠ none) := by
  cases (treated_step schema policy h job).1 with
  | linked id hfound hok _ _ => simp [hok, hfound]
  | removed name _ hslot hok _ _ => simp [hok, hslot]
  | stopped position hmissing hslot hstrict hfailed _ _ =>
    rw [hfailed]
    simp [hslot, hstrict, hmissing]
  | marked _ _ _ hlenient hok _ _ =>
    rw [hok]
    simp [hlenient]

theorem failure_run_eq_none_iff {jobs : List Pending} (h : Indexed s st) :
    (Pass.run (step schema policy) st jobs).failure = none ↔
      (policy = .fail → ∀ job ∈ jobs, ∀ position, job.slot = .required position →
        match? schema s job.placeholder ≠ none) := by
  induction jobs generalizing st with
  | nil => simp
  | cons job rest ih =>
    rw [Pass.failure_run_cons, failure_step_eq_none_iff h, ih (treated_step schema policy h job).2,
      ← imp_and, List.forall_mem_cons]

end Resolving

namespace EntitySet

open Resolving

variable {schema : Schema} {policy : UnresolvedPolicy} {s : EntitySet}

/-- A pass changes links only. -/
theorem rows_resolve (schema : Schema) (policy : UnresolvedPolicy) (s : EntitySet) :
    (s.resolve schema policy).state.entities.rows = s.rows := by
  have hrun : Indexed s (s.resolve schema policy).state :=
    indexed_run (Indexed.start s ⟨0, 0, 0⟩) s.pending
  exact hrun.rows_eq

/-- A pass fails if and only if it is strict and some required placeholder has no match. -/
theorem failure_resolve_eq_none_iff :
    (s.resolve schema policy).failure = none ↔
      (policy = .fail → ∀ id position l p, s.link? id (.required position) = some l →
        l.target = .placeholder p → match? schema s p ≠ none) := by
  rw [resolve, failure_run_eq_none_iff (Indexed.start s ⟨0, 0, 0⟩)]
  refine imp_congr_right fun _ => ?_
  constructor
  · intro h id position l p hl htarget
    exact h ⟨id, .required position, p⟩ (mem_pending_iff.2 ⟨l, hl, htarget⟩) position rfl
  · intro h job hjob position hslot
    obtain ⟨l, hl, htarget⟩ := mem_pending_iff.1 hjob
    exact h job.entity position l job.placeholder (hslot ▸ hl) htarget

/-- A strict pass that succeeds has found a match for every required placeholder. -/
theorem match?_ne_none_of_mem_required (hok : (s.resolve schema .fail).failure = none)
    {id : EntityId} {e : Entity} (he : s.get? id = some e) {l : Link} (hl : l ∈ e.required)
    {p : Placeholder} (htarget : l.target = .placeholder p) : match? schema s p ≠ none := by
  obtain ⟨position, hposition⟩ := Entity.mem_required_iff.1 hl
  refine failure_resolve_eq_none_iff.1 hok rfl id position l p ?_ htarget
  rw [link?, he, Option.bind_some, hposition]

/-- After a pass that succeeds every link is settled. -/
theorem link?_resolve (hok : (s.resolve schema policy).failure = none) (id : EntityId)
    (slot : LinkSlot) :
    (s.resolve schema policy).state.entities.link? id slot =
      (s.link? id slot).bind (settle (match? schema s) slot) := by
  have h := settledAt_run (Indexed.start s ⟨0, 0, 0⟩) (.start _ s) (fun job hmem => hmem) hok
  rw [List.nil_append] at h
  by_cases hpending : ∃ job ∈ s.pending, job.entity = id ∧ job.slot = slot
  · obtain ⟨job, hmem, rfl, rfl⟩ := hpending
    exact h.settled job hmem
  · refine (h.untouched id slot fun job hmem heq => hpending ⟨job, hmem, heq⟩).trans ?_
    cases hl : s.link? id slot with
    | none => rfl
    | some l =>
      have hplain : ∀ p, l.target ≠ .placeholder p := fun p htarget =>
        hpending ⟨⟨id, slot, p⟩, mem_pending_iff.2 ⟨l, hl, htarget⟩, rfl, rfl⟩
      rw [Option.bind_some, settle_of_not_placeholder hplain]

theorem rows_settled (found : Placeholder → Option EntityId) (s : EntitySet) :
    (s.settled found).rows = s.rows := by
  refine List.ext_getElem? ?_
  intro i
  simp only [rows, List.getElem?_map, getElem?_toList, settled, get?_map, Option.map_map]
  rfl

theorem link?_settled (found : Placeholder → Option EntityId) (s : EntitySet) (id : EntityId)
    (slot : LinkSlot) :
    (s.settled found).link? id slot = (s.link? id slot).bind (settle found slot) := by
  unfold link? settled
  rw [get?_map]
  cases s.get? id with
  | none => rfl
  | some e => rw [Option.map_some, Option.bind_some, Option.bind_some, Entity.link?_settled]

/-- A pass that succeeds settles the whole set. -/
theorem entities_resolve (hok : (s.resolve schema policy).failure = none) :
    (s.resolve schema policy).state.entities = s.settled (match? schema s) := by
  refine ext_link? ?_ ?_
  · rw [rows_resolve, rows_settled]
  · intro id slot
    rw [link?_resolve hok, link?_settled]

theorem exists_of_mem_resolve (hok : (s.resolve schema policy).failure = none) {e : Entity}
    (he : e ∈ (s.resolve schema policy).state.entities.toList) :
    ∃ e₀ ∈ s.toList, e₀.settled (Resolving.match? schema s) = e := by
  rw [entities_resolve hok] at he
  obtain ⟨id, hid⟩ := mem_toList_iff.1 he
  rw [settled, get?_map] at hid
  obtain ⟨e₀, he₀, rfl⟩ := Option.map_eq_some_iff.1 hid
  exact ⟨e₀, mem_toList_iff.2 ⟨id, he₀⟩, rfl⟩

end EntitySet

end FixturePlan
