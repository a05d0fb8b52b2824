import FixturePlan.Proofs.Entity.Join
import FixturePlan.Proofs.Entity.Resolution

/-!
# Resolution by linear scan

The plain way to resolve a set goes through its entities by number and through the slots of each, and for
each placeholder that it meets searches the set as it is at that moment from the first entity on.
`EntitySet.resolve` instead collects the placeholders beforehand and looks matches up in indexes, which it
makes when they are first needed and keeps while links change. The two agree in all that they give
(`EntitySet.resolve_eq_resolveByScan`).

The agreement has two halves. Step by step the indexed pass does what a search does, since indexes
depend on values and not on links (`mapState_step`). And the placeholders of an entity are still those
of the beginning when its turn comes, since only its own links change in its turn, each in the turn of its
slot (`run_treatSlot`, `run_treatEntity`).
-/

namespace FixturePlan

/-- The state of a pass that keeps no indexes. -/
structure LinearScan where
  entities : EntitySet
  stats : ResolveStats

namespace LinearScan

open Resolving (keyName describe)

/-! ### The plain way

A link is changed by going through all links of its entity, and whether it is still a placeholder is
seen when its turn comes. -/

/-- Let the link in a slot lead elsewhere. -/
def lead (slot : LinkSlot) (target : Reference) (e : Entity) : Entity :=
  match slot with
  | .required position =>
    { e with required := e.required.zipIdx.map fun (l, i) => if i = position then { l with target } else l }
  | .optional name =>
    { e with optional := e.optional.mapValues fun n l => if n = name then { l with target } else l }

theorem id_lead (slot : LinkSlot) (target : Reference) (e : Entity) : (lead slot target e).id = e.id := by
  cases slot <;> rfl

/-- Take away the link under a name. -/
def drop (name : String) (e : Entity) : Entity :=
  { e with optional := e.optional.filter fun n _ => n != name }

theorem id_drop (name : String) (e : Entity) : (drop name e).id = e.id := rfl

/-- The slots of an entity, the required ones first. -/
def slots (e : Entity) : List LinkSlot :=
  (List.range e.required.length).map .required ++ e.optional.keys.map .optional

section Definitions

variable (schema : Schema) (policy : UnresolvedPolicy)

/-- The number of columns of a foreign key. -/
def columnCount (k : ForeignKeyId) : Nat :=
  match schema.foreignKeys[k]? with
  | some key => key.pairs.length
  | none => 0

/-- The first entity of the set, as it is now, that is of the target table and has every value that is
looked for, if there are as many of these as the key has columns. -/
def search (st : LinearScan) (p : Placeholder) : Option EntityId :=
  if p.keyValues.length < columnCount schema p.foreignKey then none
  else
    (st.entities.toList.find? fun e =>
      e.table == p.table && p.keyValues.all fun kv => e.token? kv.1 = some kv.2).map (·.id)

/-- Treat a placeholder in a slot of an entity. -/
def treat (st : LinearScan) (id : EntityId) (slot : LinkSlot) (p : Placeholder) :
    Pass ResolveError LinearScan :=
  let entity := st.entities.label id
  match search schema st p, slot with
  | some found, slot =>
    .done { entities := st.entities.modify id (lead slot (.resolved found)) (id_lead _ _)
            stats := { st.stats with resolved := st.stats.resolved + 1 } }
  | none, .optional name =>
    .noting { entities := st.entities.modify id (drop name) (id_drop name)
              stats := { st.stats with unresolvedOptional := st.stats.unresolvedOptional + 1 } }
      (.optionalUnmatched entity name (describe schema p))
  | none, .required position =>
    match policy with
    | .fail => .failing st (.unresolvedRequired entity (keyName schema p) (describe schema p))
    | .warn =>
      .noting { entities :=
                  st.entities.modify id (lead (.required position) (.unresolved p)) (id_lead _ _)
                stats := { st.stats with unresolvedRequired := st.stats.unresolvedRequired + 1 } }
        (.requiredUnmatched entity (keyName schema p) (describe schema p))

/-- Treat the link in a slot of an entity, if it is a placeholder. -/
def treatSlot (id : EntityId) (st : LinearScan) (slot : LinkSlot) : Pass ResolveError LinearScan :=
  match (st.entities.link? id slot).map Link.target with
  | some (.placeholder p) => treat schema policy st id slot p
  | _ => .done st

/-- Treat the links of the entity of a number. -/
def treatEntity (st : LinearScan) (id : EntityId) : Pass ResolveError LinearScan :=
  match st.entities.get? id with
  | none => .done st
  | some e => Pass.run (treatSlot schema policy id) st (slots e)

end Definitions

end LinearScan

/-- Match every placeholder of a set, entity by entity and without indexes. -/
def EntitySet.resolveByScan (schema : Schema) (policy : UnresolvedPolicy) (s : EntitySet) :
    Pass ResolveError LinearScan :=
  Pass.run (LinearScan.treatEntity schema policy) ⟨s, ⟨0, 0, 0⟩⟩ (List.range s.size)

/-- The state of an indexed pass without its indexes. -/
def Resolving.unindexed (st : Resolving) : LinearScan := ⟨st.entities, st.stats⟩

namespace LinearScan

variable {schema : Schema} {policy : UnresolvedPolicy}

/-! ### One placeholder

The two resolvers agree on one placeholder: the index gives what the search gives, and a link is set or
removed in the same way. -/

theorem columnCount_eq_keyWidth (schema : Schema) (p : Placeholder) :
    columnCount schema p.foreignKey = Resolving.keyWidth schema p := by
  rw [columnCount, Resolving.keyWidth, Schema.foreignKey?]
  cases schema.foreignKeys[p.foreignKey]? <;> rfl

theorem modify_lead (s : EntitySet) (id : EntityId) (slot : LinkSlot) (target : Reference) :
    s.modify id (lead slot target) (id_lead _ _) = s.setLink id slot target := by
  cases slot with
  | optional name => rfl
  | required position =>
    have hlead : lead (.required position) target = Entity.setRequired position target := by
      funext e
      have hlinks : (e.required.zipIdx.map fun (l, i) => if i = position then { l with target } else l) =
          e.required.modify position fun l => { l with target } := by
        refine List.ext_getElem? fun i => ?_
        rw [List.getElem?_map, List.getElem?_zipIdx, List.getElem?_modify, Option.map_map]
        cases e.required[i]? with
        | none => rfl
        | some l => simp [eq_comm]
      rw [lead, hlinks, Entity.setRequired]
    simp only [hlead, EntitySet.setLink]

theorem modify_drop (s : EntitySet) (id : EntityId) (name : String) :
    s.modify id (drop name) (id_drop name) = s.removeOptional id name := by
  have hdrop : drop name = Entity.removeOptional name := by
    funext e
    rw [drop, Entity.removeOptional, SortedMap.erase]
    congr 2
    funext n _
    by_cases hname : n = name <;> simp [hname]
  simp only [hdrop, EntitySet.removeOptional]

theorem search_eq_match? (st : LinearScan) (p : Placeholder) :
    search schema st p = Resolving.match? schema st.entities p := by
  unfold search Resolving.match? EntitySet.firstMatch? EntitySet.ofTable
  simp only [columnCount_eq_keyWidth, List.find?_filter, Entity.carries, Bool.decide_and,
    Bool.decide_eq_true]

/-- Where the rows are the same, the matches are. -/
theorem match?_congr {a b : EntitySet} (h : a.rows = b.rows) (p : Placeholder) :
    Resolving.match? schema a p = Resolving.match? schema b p := by
  unfold Resolving.match?
  rw [← KeyIndex.getElem?_ofTable_tokens, ← KeyIndex.getElem?_ofTable_tokens,
    KeyIndex.ofTable_congr h]

/-- Treat a placeholder that was collected before. -/
def treatJob (schema : Schema) (policy : UnresolvedPolicy) (st : LinearScan) (job : Pending) :
    Pass ResolveError LinearScan :=
  treat schema policy st job.entity job.slot job.placeholder

/-- With indexes that are right, a step does what a step by search does. -/
theorem mapState_step {s : EntitySet} {st : Resolving} (h : Resolving.Indexed s st) (job : Pending) :
    (Resolving.step schema policy st job).mapState Resolving.unindexed =
      treatJob schema policy st.unindexed job := by
  have hfound := h.lookup_fst schema job.placeholder
  obtain ⟨-, hentities, hstats⟩ := h.lookup_snd schema job.placeholder
  have hsearch : search schema st.unindexed job.placeholder =
      Resolving.match? schema s job.placeholder := by
    rw [search_eq_match?]
    exact match?_congr h.rows_eq job.placeholder
  unfold Resolving.step treatJob treat
  simp only [hsearch, modify_lead, modify_drop]
  generalize Resolving.lookup schema st job.placeholder = r at hfound hentities hstats
  obtain ⟨found, entities, stats, indexes⟩ := r
  simp only at hfound hentities hstats
  subst hfound hentities hstats
  cases Resolving.match? schema s job.placeholder with
  | some id => rfl
  | none =>
    cases job.slot with
    | optional name => rfl
    | required position => cases policy <;> rfl

section Treat

variable (st : LinearScan) {id : EntityId} (slot : LinkSlot) (p : Placeholder)

/-- Treating a placeholder changes no entity but its own. -/
theorem get?_treat_of_ne {id' : EntityId} (h : id' ≠ id) :
    (treat schema policy st id slot p).state.entities.get? id' = st.entities.get? id' := by
  unfold treat
  simp only [modify_lead, modify_drop]
  cases search schema st p with
  | some found => exact EntitySet.get?_setLink_of_ne _ h _ _
  | none =>
    cases slot with
    | optional name => exact EntitySet.get?_removeOptional_of_ne _ h _
    | required position =>
      cases policy with
      | fail => rfl
      | warn => exact EntitySet.get?_setLink_of_ne _ h _ _

/-- Treating a placeholder changes no link but its own. -/
theorem link?_treat_of_ne (id : EntityId) {slot' : LinkSlot} (h : slot' ≠ slot) :
    (treat schema policy st id slot p).state.entities.link? id slot' = st.entities.link? id slot' := by
  have hother : ¬(id = id ∧ slot' = slot) := fun heq => h heq.2
  unfold treat
  simp only [modify_lead, modify_drop]
  cases search schema st p with
  | some found => exact (EntitySet.link?_setLink _ _ _ _ _ _).trans (if_neg hother)
  | none =>
    cases slot with
    | optional name => exact (EntitySet.link?_removeOptional _ _ _ _ _).trans (if_neg hother)
    | required position =>
      cases policy with
      | fail => rfl
      | warn => exact (EntitySet.link?_setLink _ _ _ _ _ _).trans (if_neg hother)

end Treat

/-! ### Slot by slot

The code collects all placeholders beforehand, while the plain resolver looks at each slot when it gets
there. No slot changes before its turn, so that both see the same. -/

/-- The placeholder in a slot, as it is collected beforehand. -/
def jobAt (e : Entity) (slot : LinkSlot) : Option Pending :=
  (e.link? slot).bind fun l => l.target.placeholder?.map (⟨e.id, slot, ·⟩)

/-- What is collected from an entity is what its slots have, in their order. -/
theorem pending_eq_filterMap_slots (e : Entity) : e.pending = (slots e).filterMap (jobAt e) := by
  have hpositions : e.required.zipIdx.map Prod.snd = List.range e.required.length := by
    rw [List.zipIdx_map_snd, List.range_eq_range']
  rw [slots, List.filterMap_append, List.filterMap_map, List.filterMap_map, ← hpositions,
    List.filterMap_map, SortedMap.keys, List.filterMap_map, Entity.pending]
  congr 1
  · refine List.filterMap_congr ?_
    rintro ⟨l, i⟩ hl
    have hlink : e.link? (.required i) = some l := List.mem_zipIdx_iff_getElem?.1 hl
    simp only [Function.comp_apply, jobAt, hlink, Option.bind_some]
  · refine List.filterMap_congr ?_
    rintro ⟨name, l⟩ hl
    have hlink : e.link? (.optional name) = some l := SortedMap.find?_eq_some_iff.2 hl
    simp only [Function.comp_apply, jobAt, hlink, Option.bind_some]

theorem nodup_slots (e : Entity) : (slots e).Nodup := by
  refine List.nodup_append.2 ⟨?_, ?_, ?_⟩
  · exact List.nodup_range.map fun _ _ => LinkSlot.required.inj
  · exact e.optional.nodup_keys.map fun _ _ => LinkSlot.optional.inj
  · rintro a ha b hb rfl
    obtain ⟨position, -, rfl⟩ := List.mem_map.1 ha
    obtain ⟨name, -, hname⟩ := List.mem_map.1 hb
    cases hname

/-- Going through slots that are as they were when their placeholders were collected is going through
these placeholders. -/
theorem run_treatSlot {e : Entity} {ss : List LinkSlot} (hnodup : ss.Nodup) {st : LinearScan}
    (hss : ∀ slot ∈ ss, st.entities.link? e.id slot = e.link? slot) :
    Pass.run (treatSlot schema policy e.id) st ss =
      Pass.run (treatJob schema policy) st (ss.filterMap (jobAt e)) := by
  induction ss generalizing st with
  | nil => rfl
  | cons slot rest ih =>
    obtain ⟨hnew, hrest⟩ := List.nodup_cons.1 hnodup
    obtain ⟨hslot, hlater⟩ := List.forall_mem_cons.1 hss
    by_cases hjob : jobAt e slot = none
    · -- nothing is looked for in the slot
      have hdone : treatSlot schema policy e.id st slot = .done st := by
        rw [treatSlot, hslot]
        rw [jobAt] at hjob
        cases hlink : e.link? slot with
        | none => rfl
        | some l =>
          rw [hlink] at hjob
          obtain ⟨name, foreignKey, target⟩ := l
          cases target with
          | placeholder p => cases hjob
          | resolved t => rfl
          | unresolved p => rfl
      rw [Pass.run_cons, hdone, List.filterMap_cons_none hjob]
      exact ih hrest hlater
    · obtain ⟨job, hjob⟩ := Option.ne_none_iff_exists'.1 hjob
      obtain ⟨l, hlink, hmap⟩ := Option.bind_eq_some_iff.1 hjob
      obtain ⟨p, hp, rfl⟩ := Option.map_eq_some_iff.1 hmap
      have htreat : treatSlot schema policy e.id st slot = treat schema policy st e.id slot p := by
        rw [treatSlot, hslot, hlink, Option.map_some, Reference.placeholder?_eq_some_iff.1 hp]
      rw [Pass.run_cons, htreat, List.filterMap_cons_some hjob, Pass.run_cons]
      refine Pass.andThen_congr fun _ => ih hrest fun slot' hslot' => ?_
      have hne : slot' ≠ slot := fun heq => hnew (heq ▸ hslot')
      rw [link?_treat_of_ne st slot p e.id hne]
      exact hlater slot' hslot'

/-! ### Entity by entity

In the same way no entity changes before its turn. -/

/-- Treating the placeholders of an entity changes no other entity. -/
theorem get?_run_treatJob_of_ne (st : LinearScan) (e : Entity) {id : EntityId} (h : id ≠ e.id) :
    (Pass.run (treatJob schema policy) st e.pending).state.entities.get? id = st.entities.get? id := by
  refine Pass.state_run_of_step
    (P := fun st' : LinearScan => st'.entities.get? id = st.entities.get? id) ?_ rfl
  intro st' job hjob hst'
  have hentity : job.entity = e.id := (Entity.mem_pending_iff.1 hjob).1
  rw [treatJob, get?_treat_of_ne st' _ _ (hentity ▸ h), hst']

/-- Going through entities that are as they were when their placeholders were collected is going
through these placeholders. -/
theorem run_treatEntity {es : List Entity} (hnodup : (es.map (·.id)).Nodup) {st : LinearScan}
    (hes : ∀ e ∈ es, st.entities.get? e.id = some e) :
    Pass.run (treatEntity schema policy) st (es.map (·.id)) =
      Pass.run (treatJob schema policy) st (es.flatMap (·.pending)) := by
  induction es generalizing st with
  | nil => rfl
  | cons e rest ih =>
    obtain ⟨hnew, hrest⟩ := List.nodup_cons.1 hnodup
    have hget := hes e List.mem_cons_self
    have hturn : treatEntity schema policy st e.id =
        Pass.run (treatJob schema policy) st e.pending := by
      rw [treatEntity, hget, pending_eq_filterMap_slots]
      refine run_treatSlot (nodup_slots e) fun slot _ => ?_
      rw [EntitySet.link?, hget, Option.bind_some]
    rw [List.map_cons, List.flatMap_cons, Pass.run_cons, Pass.run_append, hturn]
    refine Pass.andThen_congr fun _ => ih hrest ?_
    -- the entities to come are not the one whose turn it was
    intro e' he'
    have hne : e'.id ≠ e.id := fun heq => hnew (List.mem_map.2 ⟨e', he', heq⟩)
    rw [get?_run_treatJob_of_ne st e hne]
    exact hes e' (List.mem_cons_of_mem _ he')

theorem map_id_toList (s : EntitySet) : s.toList.map (·.id) = List.range s.size := by
  refine List.ext_getElem (by rw [List.length_map, List.length_range, EntitySet.length_toList]) ?_
  intro i hi _
  rw [List.length_map] at hi
  rw [List.getElem_map, List.getElem_range]
  refine EntitySet.id_of_get? (s := s) ?_
  rw [← EntitySet.getElem?_toList, List.getElem?_eq_getElem hi]

end LinearScan

namespace EntitySet

open LinearScan

/-- Matching by index gives the same set, the same counts, the same failure and the same warnings as
searching the set anew for each placeholder. -/
theorem resolve_eq_resolveByScan (schema : Schema) (policy : UnresolvedPolicy) (s : EntitySet) :
    (s.resolve schema policy).state.entities = (s.resolveByScan schema policy).state.entities ∧
      (s.resolve schema policy).state.stats = (s.resolveByScan schema policy).state.stats ∧
      (s.resolve schema policy).failure = (s.resolveByScan schema policy).failure ∧
      (s.resolve schema policy).warnings = (s.resolveByScan schema policy).warnings := by
  have hscan : s.resolveByScan schema policy =
      Pass.run (treatJob schema policy) ⟨s, ⟨0, 0, 0⟩⟩ s.pending := by
    rw [resolveByScan, ← map_id_toList]
    refine run_treatEntity ?_ ?_
    · rw [map_id_toList]
      exact List.nodup_range
    · intro e he
      obtain ⟨id, hid⟩ := mem_toList_iff.1 he
      rw [id_of_get? hid, hid]
  have hindexed : (s.resolve schema policy).mapState Resolving.unindexed =
      Pass.run (treatJob schema policy) ⟨s, ⟨0, 0, 0⟩⟩ s.pending :=
    Pass.mapState_run (P := Resolving.Indexed s)
      (fun st job h => ⟨mapState_step h job, (Resolving.treated_step schema policy h job).2⟩)
      (Resolving.Indexed.start s ⟨0, 0, 0⟩) s.pending
  rw [hscan, ← hindexed]
  exact ⟨rfl, rfl, rfl, rfl⟩

/-- Of two visits, the first has a city among the entities behind them, and the second has none. -/
example : ((Extractor.sampleExtractor.extract [0, 1]).state.entities.resolveByScan
    Extractor.sampleSchema .warn).state.entities.toList.map (fun e => e.required.map (·.target)) =
      [[.resolved 2], [.unresolved ⟨1, 0, [("country", ⟨"it"⟩)]⟩], []] := by decide

end EntitySet

end FixturePlan
