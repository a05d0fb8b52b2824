import FixturePlan.Proofs.Entity.Repetition
import FixturePlan.Proofs.Run

/-!
# Links follow their keys

A link belongs to a foreign key of the schema: its entity is of the source table of the key, and what it
leads to or looks for is of the target table; it is required if the key is NOT NULL, and otherwise stands
under its own name among the optional ones (`Link.Follows`). A set in which every link does so is
well-typed. Extraction gives well-typed sets, and neither matching, whether it succeeds or stops, nor
inclusion breaks this (`Extractor.wellTyped_stages`).

Of a set this depends on links and on the tables of entities. Matching keeps the tables. Inclusion adds
a stand-in to them, which is of the table of the entity that it stands in for.
-/

namespace FixturePlan

/-- The table of the entity of a number. -/
def EntitySet.tableOf? (s : EntitySet) (id : EntityId) : Option TableId := (s.get? id).map (·.table)

/-- What a link leads to, or looks for, is of a table. -/
def Reference.LeadsTo (s : EntitySet) (table : TableId) : Reference → Prop
  | .placeholder p => p.table = table
  | .resolved id => s.tableOf? id = some table
  | .unresolved p => p.table = table

/-- A slot is one for the links of a key. -/
def LinkSlot.IsFor (k : ForeignKey) (l : Link) : LinkSlot → Prop
  | .required _ => k.nullable = false
  | .optional name => k.nullable = true ∧ l.name = name

/-- The link in a slot of an entity belongs to a key of the schema. -/
structure Link.Follows (schema : Schema) (s : EntitySet) (id : EntityId) (slot : LinkSlot)
    (k : ForeignKey) (l : Link) : Prop where
  key_eq : schema.foreignKey? l.foreignKey = some k
  source_eq : s.tableOf? id = some k.source
  slot : slot.IsFor k l
  target : l.target.LeadsTo s k.target

/-- Every link belongs to a key. -/
def EntitySet.WellTyped (schema : Schema) (s : EntitySet) : Prop :=
  ∀ id slot l, s.link? id slot = some l → ∃ k, l.Follows schema s id slot k

namespace EntitySet

variable {s t : EntitySet}

theorem tableOf?_congr (h : s.rows = t.rows) (id : EntityId) : s.tableOf? id = t.tableOf? id := by
  have hrows : ∀ s : EntitySet, s.tableOf? id = (s.rows[id]?).map (·.table) := by
    intro s
    rw [rows, List.getElem?_map, getElem?_toList, Option.map_map]
    rfl
  rw [hrows, hrows, h]

theorem tableOf?_push_of_some {e : Entity} {id : EntityId} {table : TableId}
    (h : s.tableOf? id = some table) : (s.push e).tableOf? id = some table := by
  obtain ⟨e', he', rfl⟩ := Option.map_eq_some_iff.1 h
  have hne : id ≠ s.size := Nat.ne_of_lt (lt_size_of_get? he')
  rw [tableOf?, get?_push, if_neg hne, he', Option.map_some]

theorem tableOf?_push_size (e : Entity) : (s.push e).tableOf? s.size = some e.table := by
  rw [tableOf?, get?_push, if_pos rfl, Option.map_some]

variable {f : Entity → Entity} {keeps : ∀ e, (f e).id = e.id}

theorem tableOf?_modify (htable : ∀ e, (f e).table = e.table) (id id' : EntityId) :
    (s.modify id f keeps).tableOf? id' = s.tableOf? id' := by
  rw [tableOf?, tableOf?, get?_modify]
  split
  · cases s.get? id' with
    | none => rfl
    | some e => simp [htable]
  · rfl

end EntitySet

namespace Link.Follows

variable {schema : Schema} {s t : EntitySet} {id : EntityId} {slot : LinkSlot} {k : ForeignKey}
  {l : Link}

/-- A set in which all entities are of the tables that they were of will do as well. -/
theorem mono (h : l.Follows schema s id slot k)
    (htables : ∀ id table, s.tableOf? id = some table → t.tableOf? id = some table) :
    l.Follows schema t id slot k := by
  refine ⟨h.key_eq, htables id k.source h.source_eq, h.slot, ?_⟩
  have htarget := h.target
  cases hl : l.target with
  | placeholder p =>
    rw [hl] at htarget
    exact htarget
  | resolved i =>
    rw [hl] at htarget
    exact htables i k.target htarget
  | unresolved p =>
    rw [hl] at htarget
    exact htarget

/-- A link may lead elsewhere within the table. -/
theorem with_target (h : l.Follows schema s id slot k) {target : Reference}
    (htarget : target.LeadsTo s k.target) :
    ({ l with target } : Link).Follows schema s id slot k := by
  refine ⟨h.key_eq, h.source_eq, ?_, htarget⟩
  cases slot with
  | required position => exact h.slot
  | optional name => exact h.slot

/-- A link that is settled follows its key, as its match is of the table that it looks for. -/
theorem settle (h : l.Follows schema s id slot k) {l' : Link}
    (hsettle : Resolving.settle (Resolving.match? schema s) slot l = some l') :
    l'.Follows schema s id slot k := by
  -- settling touches only links that still wait
  have hplain : (∀ p, l.target ≠ .placeholder p) → l'.Follows schema s id slot k := by
    intro hne
    rw [Resolving.settle_of_not_placeholder hne] at hsettle
    obtain rfl := Option.some.inj hsettle
    exact h
  cases htarget : l.target with
  | resolved i => exact hplain (by simp [htarget])
  | unresolved p => exact hplain (by simp [htarget])
  | placeholder p =>
    have hp : p.table = k.target := by
      have hleads := h.target
      rwa [htarget] at hleads
    rw [Resolving.settle_of_placeholder htarget] at hsettle
    cases hmatch : Resolving.match? schema s p with
    | some i =>
      rw [hmatch] at hsettle
      obtain rfl := Option.some.inj hsettle
      apply h.with_target
      obtain ⟨e, he, htable, -⟩ := Resolving.carriesAt_of_match? hmatch
      show s.tableOf? i = some k.target
      rw [EntitySet.tableOf?, he, Option.map_some, htable, hp]
    | none =>
      rw [hmatch] at hsettle
      cases slot with
      | optional name => cases hsettle
      | required position =>
        obtain rfl := Option.some.inj hsettle
        exact h.with_target hp

/-- A link may be led over to another entity of the same table. -/
theorem redirect (h : l.Follows schema s id slot k) {source target : EntityId}
    (htable : s.tableOf? target = s.tableOf? source) :
    ({ l with target := l.target.redirect source target } : Link).Follows schema s id slot k := by
  apply h.with_target
  have hleads := h.target
  unfold Reference.redirect
  split
  · next heq =>
    rw [heq] at hleads
    exact htable.trans hleads
  · exact hleads

end Link.Follows

/-! ### Extraction

Links start out as placeholders for the table of their key. -/

/-- Extracted entities are well-typed. -/
theorem Extractor.wellTyped_extract (x : Extractor) (hs : x.schema.WellFormed) {order : List TableId}
    (hok : (x.extract order).failure = none) :
    (x.extract order).state.entities.WellTyped x.schema := by
  intro id slot l hl
  obtain ⟨e, he, hl⟩ := Option.bind_eq_some_iff.1 hl
  obtain ⟨o, ho, hentity⟩ := x.exists_origin_of_get? hok he
  have hmem : o.table ∈ x.schema.tables := x.table_mem_of_mem_origins (List.mem_of_getElem? ho)
  -- whatever the slot, the link is that of a key which leaves the table of the row
  have hfollows : ∀ entry ∈ (Layout.ofTable x.schema x.strategies.naming o.table).references,
      Extract.reference x.schema x.strategies (.ofTable x.schema x.strategies.naming o.table)
        o.columns o.row entry = .ok (some l) → slot.IsFor entry.1 l →
      ∃ k, l.Follows x.schema (x.extract order).state.entities id slot k := by
    intro entry hentry href hslot
    have hout := Layout.mem_outgoing_of_mem_references x.schema x.strategies.naming o.table hentry
    obtain ⟨hk, hsource⟩ := (hs.mem_outgoing_iff hmem).1 hout
    obtain ⟨found, -, -, rfl⟩ := Extract.reference_eq_ok_some_iff.1 href
    refine ⟨entry.1, hs.foreignKey?_id hk, ?_, hslot, rfl⟩
    have htable : e.table = o.table.id := Extract.table_of_entity hentity
    rw [EntitySet.tableOf?, he, Option.map_some, htable, hsource]
  cases slot with
  | required position =>
    have hrequired : l ∈ e.required := Entity.mem_required_iff.2 ⟨position, hl⟩
    obtain ⟨entry, hentry, hnullable, href⟩ := (Extract.mem_required_of_entity hentity).1 hrequired
    exact hfollows entry hentry href hnullable
  | optional name =>
    have hnodup := Layout.nodup_names_references x.schema x.strategies.naming o.table
    obtain ⟨entry, hentry, hnullable, hname, href⟩ :=
      (Extract.find?_optional_of_entity hnodup hentity).1 hl
    apply hfollows entry hentry href
    obtain ⟨found, -, -, rfl⟩ := Extract.reference_eq_ok_some_iff.1 href
    exact ⟨hnullable, hname⟩

namespace EntitySet.WellTyped

variable {schema : Schema} {s : EntitySet} (h : s.WellTyped schema)

include h

/-! ### Matching

A match is an entity of the table that the placeholder names, and a mark keeps the placeholder. -/

/-- A pass keeps a set well-typed, whether it succeeds or stops. -/
theorem resolve (policy : UnresolvedPolicy) :
    (s.resolve schema policy).state.entities.WellTyped schema := by
  obtain ⟨done, -, hdone, -⟩ := exists_settledAt_resolve schema policy s
  have htables : ∀ id table, s.tableOf? id = some table →
      (s.resolve schema policy).state.entities.tableOf? id = some table := by
    intro id table htable
    rwa [tableOf?_congr (rows_resolve schema policy s)]
  intro id slot l hl
  by_cases hslot : ∃ job ∈ done, job.entity = id ∧ job.slot = slot
  · obtain ⟨job, hjob, rfl, rfl⟩ := hslot
    rw [hdone.settled job hjob] at hl
    obtain ⟨l₀, hl₀, hsettle⟩ := Option.bind_eq_some_iff.1 hl
    obtain ⟨k, hk⟩ := h _ _ l₀ hl₀
    exact ⟨k, (hk.settle hsettle).mono htables⟩
  · have huntouched := hdone.untouched id slot fun job hjob heq => hslot ⟨job, hjob, heq⟩
    rw [huntouched] at hl
    obtain ⟨k, hk⟩ := h id slot l hl
    exact ⟨k, hk.mono htables⟩

/-! ### Inclusion

Inclusion moves links to stand-ins, and a stand-in is of the table of the entity it stands for. -/

/-- A change of one entity keeps a set well-typed if it keeps the table, and if what it makes of a link
still follows the key. -/
theorem modify {f : Entity → Entity} {keeps : ∀ e, (f e).id = e.id} (id : EntityId)
    (htable : ∀ e, (f e).table = e.table)
    (hlink : ∀ e slot l, (f e).link? slot = some l → ∃ l₀, e.link? slot = some l₀ ∧
      ∀ k, l₀.Follows schema s id slot k → l.Follows schema s id slot k) :
    (s.modify id f keeps).WellTyped schema := by
  have htables : ∀ id' table, s.tableOf? id' = some table →
      (s.modify id f keeps).tableOf? id' = some table := by
    intro id' table h'
    rwa [tableOf?_modify htable]
  intro id' slot l hl
  obtain ⟨e, he, hl⟩ := Option.bind_eq_some_iff.1 hl
  rw [get?_modify] at he
  split at he
  · next hid =>
    subst hid
    obtain ⟨e₀, he₀, rfl⟩ := Option.map_eq_some_iff.1 he
    obtain ⟨l₀, hl₀, hfollows⟩ := hlink e₀ slot l hl
    obtain ⟨k, hk⟩ := h id slot l₀ (by rw [link?, he₀, Option.bind_some, hl₀])
    exact ⟨k, (hfollows k hk).mono htables⟩
  · obtain ⟨k, hk⟩ := h id' slot l (by rw [link?, he, Option.bind_some, hl])
    exact ⟨k, hk.mono htables⟩

theorem clearOptional (id : EntityId) (p : EntityId → Bool) :
    (s.modify id (·.clearOptional p) (Entity.id_clearOptional p)).WellTyped schema := by
  apply h.modify id
  · exact fun _ => rfl
  · intro e slot l hl
    refine ⟨l, ?_, fun _ hk => hk⟩
    rw [Entity.link?_clearOptional] at hl
    cases slot with
    | required position => exact hl
    | optional name => exact (Option.filter_eq_some_iff.1 hl).1

theorem redirect {source target : EntityId} (htable : s.tableOf? target = s.tableOf? source)
    (id : EntityId) :
    (s.modify id (·.redirect source target) (Entity.id_redirect source target)).WellTyped
      schema := by
  apply h.modify id
  · exact fun _ => rfl
  · intro e slot l hl
    rw [Entity.link?_redirect] at hl
    obtain ⟨l₀, hl₀, rfl⟩ := Option.map_eq_some_iff.1 hl
    exact ⟨l₀, hl₀, fun _ hk => hk.redirect htable⟩

theorem redirectAll {source target : EntityId} (htable : s.tableOf? target = s.tableOf? source)
    (ids : List EntityId) :
    (Included.redirectAll s source target ids).WellTyped schema := by
  unfold Included.redirectAll
  induction ids generalizing s with
  | nil => exact h
  | cons id rest ih =>
    rw [List.foldl_cons]
    have htables : ∀ i, (s.modify id (·.redirect source target)
        (Entity.id_redirect source target)).tableOf? i = s.tableOf? i := by
      intro i
      apply tableOf?_modify
      intro e
      rfl
    apply ih (h.redirect htable id)
    rw [htables, htables, htable]

/-- A stand-in has no links of its own. -/
theorem push_standIn (e : Entity) : (s.push e.standIn).WellTyped schema := by
  intro id slot l hl
  rw [link?_push_standIn] at hl
  obtain ⟨k, hk⟩ := h id slot l hl
  exact ⟨k, hk.mono fun _ _ => tableOf?_push_of_some⟩

end EntitySet.WellTyped

namespace Included

variable {schema : Schema} {decide : Decider} {st : Included}

theorem wellTyped_decideOne (h : st.entities.WellTyped schema) {id : EntityId}
    {rest : List EntityId} (hok : (decideOne decide st id rest).failure = none) :
    (decideOne decide st id rest).state.entities.WellTyped schema := by
  cases he : st.entities.get? id with
  | none =>
    have hsame : (decideOne decide st id rest).state = st := by
      rw [decideOne, he]
      rfl
    rwa [hsame]
  | some e =>
    rcases decideOne_cases he hok with ⟨-, -, hstate⟩ | ⟨-, hstate⟩ | ⟨-, hstate⟩
    · rw [hstate]
      exact h.clearOptional id st.isDropped
    · rwa [hstate]
    · rw [hstate]
      apply (h.push_standIn e).redirectAll
      -- the stand-in is of the table of its entity
      have hid : st.entities.tableOf? id = some e.table := by
        rw [EntitySet.tableOf?, he, Option.map_some]
      rw [EntitySet.tableOf?_push_size, EntitySet.tableOf?_push_of_some hid]
      rfl

theorem wellTyped_clearAll (h : st.entities.WellTyped schema) (ids : List EntityId) :
    (st.clearAll ids).state.entities.WellTyped schema := by
  induction ids generalizing st with
  | nil => exact h
  | cons id rest ih => exact ih (h.clearOptional id st.isDropped)

/-- Inclusion that succeeds keeps a set well-typed. -/
theorem wellTyped_applyInclusion {s : EntitySet} (h : s.WellTyped schema) {order : List EntityId}
    (hok : (s.applyInclusion order decide).failure = none) :
    (s.applyInclusion order decide).state.entities.WellTyped schema := by
  obtain ⟨hall, hstate⟩ := applyInclusion_of_failure hok
  have hdecided : (decideAll decide (.start s) order).state.entities.WellTyped schema := by
    apply decideAll_of_step (P := fun _ st => st.entities.WellTyped schema) _ h hall
    intro id rest st hst hone
    exact wellTyped_decideOne hst hone
  rw [hstate]
  exact wellTyped_clearAll hdecided _

end Included

/-! ### A run -/

/-- Extracted from a built schema, after any pass, and after inclusion that succeeds, every link of
every entity belongs to a key of the schema. -/
theorem Extractor.wellTyped_stages (x : Extractor) {metadata : Source} {exclude : List Text.Pattern}
    {name : String} (hbuild : (Schema.build metadata exclude name).result = .ok x.schema)
    {order : List TableId} (hextract : (x.extract order).failure = none) :
    (x.extract order).state.entities.WellTyped x.schema ∧
    ∀ policy,
      ((x.extract order).state.entities.resolve x.schema policy).state.entities.WellTyped x.schema ∧
      ∀ sorted decide,
        (((x.extract order).state.entities.resolve x.schema policy).state.entities.applyInclusion
          sorted decide).failure = none →
        (((x.extract order).state.entities.resolve x.schema policy).state.entities.applyInclusion
          sorted decide).state.entities.WellTyped x.schema := by
  have hextracted := x.wellTyped_extract (Schema.wellFormed_of_build hbuild) hextract
  refine ⟨hextracted, fun policy => ⟨hextracted.resolve policy, ?_⟩⟩
  intro sorted decide hok
  exact Included.wellTyped_applyInclusion (hextracted.resolve policy) hok

/-- The visits of the sample, matched and with the city taken as existing. -/
abbrev sampleIncluded : Pass PlanError Included :=
  (EntitySet.sampleVisits.resolve Extractor.sampleSchema .warn).state.entities.applyInclusion
    [1, 2, 0] Planner.sampleDecider

theorem Extractor.wellTyped_stages_sample :
    sampleIncluded.failure = none ∧
      (sampleIncluded.state.entities.link? 0 (.required 0)).map (·.target) = some (.resolved 3) ∧
      sampleIncluded.state.entities.tableOf? 3 = some 1 ∧
      sampleIncluded.state.entities.WellTyped Extractor.sampleSchema := by
  have hmatched := EntitySet.entities_resolve
    (EntitySet.failure_resolve_warn sampleSchema EntitySet.sampleVisits)
  have hok : sampleIncluded.failure = none := by
    rw [sampleIncluded, hmatched]
    decide
  refine ⟨hok, ?_, ?_, ?_⟩
  · rw [sampleIncluded, hmatched]
    decide
  · rw [sampleIncluded, hmatched]
    decide
  · exact ((wellTyped_stages sampleExtractor result_build_sampleSource
      failure_extract_sampleExtractor).2 .warn).2 _ _ hok

end FixturePlan
