import FixturePlan.Proofs.Entity.Repetition

/-!
# Extraction in another order of the tables

An entity is known apart from its number by its row: its table and the number of the row in it. If the
same tables are read in another order, the rows are the same under other numbers
(`existsUnique_sameRow`), and since within a table the numbers ascend with the rows
(`ordinal_lt_of_lt`), the first match of a placeholder is the same row in both orders
(`ReadsBoth.rel_match?`).
The links then lead to the same rows (`corresponds_of_perm`).
-/

namespace FixturePlan

/-! ### Sets that correspond

Two sets correspond by a relation of their numbers if related entities agree in all but the numbers. -/

/-- Links lead to entities that correspond, or to none after the same search. -/
inductive Reference.Alike (R : EntityId → EntityId → Prop) : Reference → Reference → Prop where
  | resolved {i j : EntityId} (h : R i j) : Alike R (.resolved i) (.resolved j)
  | unresolved (p : Placeholder) : Alike R (.unresolved p) (.unresolved p)

/-- Links by one key under one name, alike in where they lead. -/
structure Link.Alike (R : EntityId → EntityId → Prop) (l l' : Link) : Prop where
  name_eq : l.name = l'.name
  foreignKey_eq : l.foreignKey = l'.foreignKey
  target : Reference.Alike R l.target l'.target

/-- Entities that agree in everything but their numbers and those that their links lead to. -/
structure Entity.Alike (R : EntityId → EntityId → Prop) (e e' : Entity) : Prop where
  table_eq : e.table = e'.table
  kind_eq : e.kind = e'.kind
  label_eq : e.label = e'.label
  values_eq : e.values = e'.values
  links : ∀ slot, Option.Rel (Link.Alike R) (e.link? slot) (e'.link? slot)

/-- Sets of which the entities correspond one to one, and are alike. -/
structure EntitySet.CorrespondBy (R : EntityId → EntityId → Prop) (s s' : EntitySet) : Prop where
  left : ∀ i < s.size, ∃! j, R i j
  right : ∀ j < s'.size, ∃! i, R i j
  alike : ∀ i j, R i j →
    ∃ e e', s.get? i = some e ∧ s'.get? j = some e' ∧ e.Alike R e'

namespace Resolving

variable {R : EntityId → EntityId → Prop} {found found' : Placeholder → Option EntityId}

/-- Placeholders whose matches correspond are settled alike. -/
theorem rel_settle (hfound : ∀ p, Option.Rel R (found p) (found' p)) (slot : LinkSlot) {l : Link}
    {p : Placeholder} (hl : l.target = .placeholder p) :
    Option.Rel (Link.Alike R) (settle found slot l) (settle found' slot l) := by
  rw [settle_of_placeholder hl, settle_of_placeholder hl]
  have hp := hfound p
  generalize found p = match₁ at hp
  generalize found' p = match₂ at hp
  cases hp with
  | some hij => exact .some ⟨rfl, rfl, .resolved hij⟩
  | none =>
    cases slot with
    | required position => exact .some ⟨rfl, rfl, .unresolved p⟩
    | optional name => exact .none

end Resolving

/-- Entities with the same placeholders whose matches correspond are alike once they are settled. -/
theorem Entity.alike_settled {R : EntityId → EntityId → Prop}
    {found found' : Placeholder → Option EntityId} {e e' : Entity}
    (hsame : ({ e with id := 0 } : Entity) = { e' with id := 0 })
    (hpending : ∀ slot l, e.link? slot = some l → ∃ p, l.target = .placeholder p)
    (hfound : ∀ p, Option.Rel R (found p) (found' p)) :
    (e.settled found).Alike R (e'.settled found') := by
  -- the two entities have all but the number in common
  obtain ⟨i, table, kind, label, values, required, optional⟩ := e
  obtain ⟨j, _, _, _, _, _, _⟩ := e'
  obtain ⟨-, rfl, rfl, rfl, rfl, rfl, rfl⟩ := Entity.mk.inj hsame
  refine ⟨rfl, rfl, rfl, rfl, ?_⟩
  intro slot
  rw [link?_settled, link?_settled]
  -- a slot is empty on both sides, or waits for the same values on both
  have hlink : ∀ l? : Option Link, (∀ l, l? = some l → ∃ p, l.target = .placeholder p) →
      Option.Rel (Link.Alike R) (l?.bind (Resolving.settle found slot))
        (l?.bind (Resolving.settle found' slot)) := by
    intro l? hl?
    cases l? with
    | none => exact .none
    | some l =>
      obtain ⟨p, hp⟩ := hl? l rfl
      exact Resolving.rel_settle hfound slot hp
  exact hlink _ (hpending slot)

namespace Extractor

variable (x : Extractor)

/-! ### When extraction succeeds

Whether a table can be read does not depend on the tables that were read before it. -/

theorem failure_extractTable_eq_none_iff {done : Extraction} {id : TableId} :
    (x.extractTable done id).failure = none ↔
      ∀ t, x.schema.table? id = some t → ∃ found, (x.tableEntities t).result = .ok found := by
  rw [extractTable_eq]
  cases ht : x.schema.table? id with
  | none => simp
  | some t =>
    simp only [Option.some.injEq, forall_eq']
    generalize x.tableEntities t = r
    obtain ⟨ws, result⟩ := r
    cases result with
    | error e => simp
    | ok found => simp

/-- Extraction succeeds if and only if each of the tables can be read. -/
theorem failure_run_extractTable_eq_none_iff {done : Extraction} {order : List TableId} :
    (Pass.run x.extractTable done order).failure = none ↔ ∀ id ∈ order, ∀ t,
      x.schema.table? id = some t → ∃ found, (x.tableEntities t).result = .ok found := by
  induction order generalizing done with
  | nil => simp
  | cons id rest ih =>
    rw [Pass.failure_run_cons, failure_extractTable_eq_none_iff, ih, List.forall_mem_cons]

/-! ### Rows and their numbers

A row is a table and a number in the table, in whichever order the tables are read. -/

theorem ordinal_of_getElem?_originsOf {t : Table} {o : Origin} {n : Nat}
    (h : (x.originsOf t)[n]? = some o) : o.ordinal = n + 1 := by
  unfold originsOf Origin.ofRows at h
  split at h
  · cases h
  · split at h
    · cases h
    · split at h
      · cases h
      · rw [List.getElem?_map] at h
        obtain ⟨⟨r, i⟩, hentry, rfl⟩ := Option.map_eq_some_iff.1 h
        rw [List.getElem?_zipIdx] at hentry
        obtain ⟨_, -, heq⟩ := Option.map_eq_some_iff.1 hentry
        obtain ⟨-, rfl⟩ := Prod.mk.inj heq
        show 0 + n + 1 = n + 1
        rw [Nat.zero_add]

theorem mem_origins {order : List TableId} {o : Origin} :
    o ∈ x.origins order ↔
      ∃ id ∈ order, ∃ t, x.schema.table? id = some t ∧ o ∈ x.originsOf t := by
  simp only [origins, List.mem_flatMap, List.mem_filterMap]
  constructor
  · rintro ⟨t, ⟨id, hid, ht⟩, ho⟩
    exact ⟨id, hid, t, ht, ho⟩
  · rintro ⟨id, hid, t, ht, ho⟩
    exact ⟨t, ⟨id, hid, ht⟩, ho⟩

/-- The row that an entity stands for when the tables are read in an order: its table and the number of
the row in the table. -/
def rowAt? (order : List TableId) (id : EntityId) : Option (TableId × Nat) :=
  ((x.origins order)[id]?).map fun o => (o.table.id, o.ordinal)

/-- Two numbers, each for its own order of the tables, stand for the same row. -/
def SameRow (order order' : List TableId) (i j : EntityId) : Prop :=
  ∃ row, x.rowAt? order i = some row ∧ x.rowAt? order' j = some row

variable {x}

theorem SameRow.symm {order order' : List TableId} {i j : EntityId} (h : x.SameRow order order' i j) :
    x.SameRow order' order j i := by
  obtain ⟨row, hi, hj⟩ := h
  exact ⟨row, hj, hi⟩

section Orders

variable (hs : x.schema.WellFormed) {order order' : List TableId}

include hs in
/-- A row is known by its table and its number. -/
theorem eq_of_row_eq {o o' : Origin} (ho : o ∈ x.origins order) (ho' : o' ∈ x.origins order')
    (htable : o.table.id = o'.table.id) (hordinal : o.ordinal = o'.ordinal) : o = o' := by
  obtain ⟨id, -, t, ht, hot⟩ := x.mem_origins.1 ho
  obtain ⟨id', -, t', ht', hot'⟩ := x.mem_origins.1 ho'
  have hid : id = id' := by
    rw [x.table_of_mem_originsOf hot, x.table_of_mem_originsOf hot', hs.table_id _ _ ht,
      hs.table_id _ _ ht'] at htable
    exact htable
  subst hid
  obtain rfl : t = t' := Option.some.inj (ht.symm.trans ht')
  obtain ⟨n, hn⟩ := List.mem_iff_getElem?.1 hot
  obtain ⟨n', hn'⟩ := List.mem_iff_getElem?.1 hot'
  rw [x.ordinal_of_getElem?_originsOf hn, x.ordinal_of_getElem?_originsOf hn'] at hordinal
  obtain rfl := Nat.succ.inj hordinal
  exact Option.some.inj (hn.symm.trans hn')

include hs in
theorem sameRow_iff {i j : EntityId} : x.SameRow order order' i j ↔
    ∃ o, (x.origins order)[i]? = some o ∧ (x.origins order')[j]? = some o := by
  constructor
  · rintro ⟨row, hi, hj⟩
    obtain ⟨o, ho, rfl⟩ := Option.map_eq_some_iff.1 hi
    obtain ⟨o', ho', hrow⟩ := Option.map_eq_some_iff.1 hj
    obtain ⟨htable, hordinal⟩ := Prod.mk.inj hrow
    obtain rfl := eq_of_row_eq hs (List.mem_of_getElem? ho') (List.mem_of_getElem? ho) htable hordinal
    exact ⟨o', ho, ho'⟩
  · rintro ⟨o, hi, hj⟩
    refine ⟨(o.table.id, o.ordinal), ?_, ?_⟩
    · rw [rowAt?, hi, Option.map_some]
    · rw [rowAt?, hj, Option.map_some]

include hs in
/-- The rows of a table are read in their order. -/
theorem pairwise_ordinal (hnodup : order.Nodup) : (x.origins order).Pairwise fun o o' =>
    o.table.id = o'.table.id → o.ordinal < o'.ordinal := by
  rw [origins, List.pairwise_flatMap]
  constructor
  · intro t _
    rw [List.pairwise_iff_getElem]
    intro i j hi hj hlt _
    rw [x.ordinal_of_getElem?_originsOf (List.getElem?_eq_getElem hi),
      x.ordinal_of_getElem?_originsOf (List.getElem?_eq_getElem hj)]
    exact Nat.succ_lt_succ hlt
  · -- rows of different tables are of different tables
    refine List.pairwise_filterMap.2 (hnodup.imp ?_)
    intro id id' hne t ht t' ht' o ho o' ho' heq
    rw [x.table_of_mem_originsOf ho, x.table_of_mem_originsOf ho', hs.table_id _ t ht,
      hs.table_id _ t' ht'] at heq
    exact absurd heq hne

include hs in
/-- Of two rows of a table the one with the smaller number is the earlier one. -/
theorem ordinal_lt_of_lt (hnodup : order.Nodup) {i j : EntityId} {o o' : Origin}
    (ho : (x.origins order)[i]? = some o) (ho' : (x.origins order)[j]? = some o')
    (htable : o.table.id = o'.table.id) (hlt : i < j) : o.ordinal < o'.ordinal := by
  obtain ⟨hi, rfl⟩ := List.getElem?_eq_some_iff.1 ho
  obtain ⟨hj, rfl⟩ := List.getElem?_eq_some_iff.1 ho'
  exact List.pairwise_iff_getElem.1 (pairwise_ordinal hs hnodup) i j hi hj hlt htable

include hs in
theorem eq_of_getElem?_origins (hnodup : order.Nodup) {i j : EntityId} {o : Origin}
    (hi : (x.origins order)[i]? = some o) (hj : (x.origins order)[j]? = some o) : i = j := by
  rcases Nat.lt_trichotomy i j with hlt | heq | hlt
  · exact absurd (ordinal_lt_of_lt hs hnodup hi hj rfl hlt) (Nat.lt_irrefl _)
  · exact heq
  · exact absurd (ordinal_lt_of_lt hs hnodup hj hi rfl hlt) (Nat.lt_irrefl _)

include hs in
/-- Every row that is read in one order is read in the other, and once. -/
theorem existsUnique_sameRow (hnodup' : order'.Nodup) (hsub : ∀ id ∈ order, id ∈ order')
    {i : EntityId} (hi : i < (x.origins order).length) : ∃! j, x.SameRow order order' i j := by
  have ho := List.getElem?_eq_getElem hi
  generalize (x.origins order)[i] = o at ho
  have hmem : o ∈ x.origins order' := by
    obtain ⟨id, hid, t, ht, hot⟩ := x.mem_origins.1 (List.mem_of_getElem? ho)
    exact x.mem_origins.2 ⟨id, hsub id hid, t, ht, hot⟩
  obtain ⟨j, hj⟩ := List.mem_iff_getElem?.1 hmem
  refine ⟨j, (sameRow_iff hs).2 ⟨o, ho, hj⟩, ?_⟩
  intro j' hsame
  obtain ⟨o', ho', hj'⟩ := (sameRow_iff hs).1 hsame
  obtain rfl : o' = o := Option.some.inj (ho'.symm.trans ho)
  exact eq_of_getElem?_origins hs hnodup' hj' hj

end Orders

/-! ### Matches

All rows that match a placeholder are of one table, and rows of one table come in the same order in both
sets. So the first match is the same row. -/

variable {order order' : List TableId}

variable (x) in
/-- The same tables are read without a failure in both of two orders. -/
structure ReadsBoth (order order' : List TableId) : Prop where
  wellFormed : x.schema.WellFormed
  nodup : order.Nodup
  nodup' : order'.Nodup
  mem_iff : ∀ id, id ∈ order ↔ id ∈ order'
  extracted : (x.extract order).failure = none
  extracted' : (x.extract order').failure = none

namespace ReadsBoth

theorem symm (h : x.ReadsBoth order order') : x.ReadsBoth order' order where
  wellFormed := h.wellFormed
  nodup := h.nodup'
  nodup' := h.nodup
  mem_iff id := (h.mem_iff id).symm
  extracted := h.extracted'
  extracted' := h.extracted

variable (h : x.ReadsBoth order order')

include h

/-- Every entity has its row in the other order, and once. -/
theorem existsUnique {i : EntityId} (hi : i < (x.extract order).state.entities.size) :
    ∃! j, x.SameRow order order' i j := by
  rw [← EntitySet.length_toList, ← (x.forall₂_extract h.extracted).length_eq] at hi
  exact existsUnique_sameRow h.wellFormed h.nodup' (fun id => (h.mem_iff id).1) hi

/-- The same row gives the same entity under its two numbers. -/
theorem entities {i j : EntityId} (hij : x.SameRow order order' i j) :
    ∃ e e', (x.extract order).state.entities.get? i = some e ∧
      (x.extract order').state.entities.get? j = some e' ∧
      ({ e with id := 0 } : Entity) = { e' with id := 0 } := by
  obtain ⟨o, hi, hj⟩ := (sameRow_iff h.wellFormed).1 hij
  obtain ⟨e, he, hentity⟩ := x.exists_get?_of_origin h.extracted hi
  obtain ⟨e', he', hentity'⟩ := x.exists_get?_of_origin h.extracted' hj
  exact ⟨e, e', he, he', Except.ok.inj (hentity.symm.trans hentity')⟩

theorem link?_eq {i j : EntityId} (hij : x.SameRow order order' i j) (slot : LinkSlot) :
    (x.extract order).state.entities.link? i slot =
      (x.extract order').state.entities.link? j slot := by
  obtain ⟨e, e', he, he', hsame⟩ := h.entities hij
  rw [EntitySet.link?, EntitySet.link?, he, he', Option.bind_some, Option.bind_some]
  have hany : ∀ e : Entity, e.link? slot = ({ e with id := 0 } : Entity).link? slot := fun _ => rfl
  rw [hany e, hsame, ← hany e']

theorem carriesAt {i j : EntityId} (hij : x.SameRow order order' i j) {p : Placeholder}
    (hcarries : (x.extract order).state.entities.CarriesAt p i) :
    (x.extract order').state.entities.CarriesAt p j := by
  obtain ⟨e, e', he, he', hsame⟩ := h.entities hij
  obtain ⟨_, heq, htable, hcarries⟩ := hcarries
  obtain rfl := Option.some.inj (he.symm.trans heq)
  have hany : ∀ e : Entity, e.carries p = ({ e with id := 0 } : Entity).carries p := fun _ => rfl
  refine ⟨e', he', ?_, ?_⟩
  · rw [← htable]
    exact (congrArg Entity.table hsame).symm
  · rw [hany, ← hsame, ← hany, hcarries]

/-- Of two entities that carry a key, the earlier one is the earlier one in the other order too. -/
theorem lt_of_carriesAt {i i' j j' : EntityId} {p : Placeholder} (hij : x.SameRow order order' i j)
    (hij' : x.SameRow order order' i' j')
    (hcarries : (x.extract order).state.entities.CarriesAt p i)
    (hcarries' : (x.extract order).state.entities.CarriesAt p i') (hlt : j' < j) : i' < i := by
  have htable : ∀ {i o}, (x.extract order).state.entities.CarriesAt p i →
      (x.origins order)[i]? = some o → o.table.id = p.table := by
    rintro i o ⟨e, he, htable, -⟩ ho
    obtain ⟨o', ho', hentity⟩ := x.exists_origin_of_get? h.extracted he
    obtain rfl := Option.some.inj (ho.symm.trans ho')
    exact (Extract.table_of_entity hentity).symm.trans htable
  obtain ⟨o, hi, hj⟩ := (sameRow_iff h.wellFormed).1 hij
  obtain ⟨o', hi', hj'⟩ := (sameRow_iff h.wellFormed).1 hij'
  have hids : o'.table.id = o.table.id := (htable hcarries' hi').trans (htable hcarries hi).symm
  have hordinal := ordinal_lt_of_lt h.wellFormed h.nodup' hj' hj hids hlt
  rcases Nat.lt_trichotomy i' i with hlt' | rfl | hlt'
  · exact hlt'
  · obtain rfl := Option.some.inj (hi'.symm.trans hi)
    exact absurd hordinal (Nat.lt_irrefl _)
  · have hordinal' := ordinal_lt_of_lt h.wellFormed h.nodup hi hi' hids.symm hlt'
    exact absurd hordinal (Nat.lt_asymm hordinal')

/-- The match in one order is, as a row, the match in the other. -/
theorem exists_match? {p : Placeholder} {i : EntityId}
    (hmatch : Resolving.match? x.schema (x.extract order).state.entities p = some i) :
    ∃ j, x.SameRow order order' i j ∧
      Resolving.match? x.schema (x.extract order').state.entities p = some j := by
  unfold Resolving.match? at hmatch ⊢
  split at hmatch
  · cases hmatch
  · next hwidth =>
    rw [if_neg hwidth]
    obtain ⟨hcarries, hfirst⟩ := EntitySet.firstMatch?_eq_some_iff.1 hmatch
    obtain ⟨e, he, -⟩ := id hcarries
    obtain ⟨j, hij, -⟩ := h.existsUnique (EntitySet.lt_size_of_get? he)
    refine ⟨j, hij, EntitySet.firstMatch?_eq_some_iff.2 ⟨h.carriesAt hij hcarries, ?_⟩⟩
    -- an earlier match would come from an earlier one
    intro j' hlt hcarries'
    obtain ⟨e', he', -⟩ := id hcarries'
    obtain ⟨i', hji', -⟩ := h.symm.existsUnique (EntitySet.lt_size_of_get? he')
    have hbefore := h.symm.carriesAt hji' hcarries'
    exact hfirst i' (h.lt_of_carriesAt hij hji'.symm hcarries hbefore hlt) hbefore

theorem rel_match? (p : Placeholder) :
    Option.Rel (x.SameRow order order')
      (Resolving.match? x.schema (x.extract order).state.entities p)
      (Resolving.match? x.schema (x.extract order').state.entities p) := by
  cases hmatch : Resolving.match? x.schema (x.extract order).state.entities p with
  | some i =>
    obtain ⟨j, hij, hmatch'⟩ := h.exists_match? hmatch
    rw [hmatch']
    exact .some hij
  | none =>
    cases hmatch' : Resolving.match? x.schema (x.extract order').state.entities p with
    | none => exact .none
    | some j =>
      obtain ⟨i, -, hsome⟩ := h.symm.exists_match? hmatch'
      rw [hmatch] at hsome
      cases hsome

/-! ### Resolution

Matches that correspond settle placeholders alike, and fail alike. -/

/-- Where a strict resolution succeeds, it does so in the other order. -/
theorem failure_resolve_fail
    (hok : ((x.extract order).state.entities.resolve x.schema .fail).failure = none) :
    ((x.extract order').state.entities.resolve x.schema .fail).failure = none := by
  rw [EntitySet.failure_resolve_eq_none_iff] at hok ⊢
  intro _ j position l p hl htarget hmissing
  obtain ⟨e', he', -⟩ := Option.bind_eq_some_iff.1 hl
  obtain ⟨i, hji, -⟩ := h.symm.existsUnique (EntitySet.lt_size_of_get? he')
  rw [h.symm.link?_eq hji] at hl
  cases hmatch : Resolving.match? x.schema (x.extract order).state.entities p with
  | none => exact hok rfl i position l p hl htarget hmatch
  | some k =>
    obtain ⟨k', -, hmatch'⟩ := h.exists_match? hmatch
    rw [hmissing] at hmatch'
    cases hmatch'

/-- Sets that are resolved correspond row by row. -/
theorem correspondBy_resolve {policy policy' : UnresolvedPolicy}
    (hok : ((x.extract order).state.entities.resolve x.schema policy).failure = none)
    (hok' : ((x.extract order').state.entities.resolve x.schema policy').failure = none) :
    ((x.extract order).state.entities.resolve x.schema policy).state.entities.CorrespondBy
      (x.SameRow order order')
      ((x.extract order').state.entities.resolve x.schema policy').state.entities := by
  rw [EntitySet.entities_resolve hok, EntitySet.entities_resolve hok']
  constructor
  · intro i hi
    rw [EntitySet.settled, EntitySet.size_map] at hi
    exact h.existsUnique hi
  · intro j hj
    rw [EntitySet.settled, EntitySet.size_map] at hj
    obtain ⟨i, hij, hunique⟩ := h.symm.existsUnique hj
    exact ⟨i, hij.symm, fun i' hij' => hunique i' hij'.symm⟩
  -- the same row at two numbers: its links settle alike, as matches correspond
  · intro i j hij
    obtain ⟨e, e', he, he', hsame⟩ := h.entities hij
    refine ⟨e.settled (Resolving.match? x.schema (x.extract order).state.entities),
      e'.settled (Resolving.match? x.schema (x.extract order').state.entities), ?_, ?_, ?_⟩
    · rw [EntitySet.settled, EntitySet.get?_map, he, Option.map_some]
    · rw [EntitySet.settled, EntitySet.get?_map, he', Option.map_some]
    · apply Entity.alike_settled hsame
      · intro slot l hl
        exact x.exists_placeholder_of_extract h.extracted (EntitySet.mem_toList_iff.2 ⟨i, he⟩)
          (Entity.mem_links_iff.2 ⟨slot, hl⟩)
      · exact h.rel_match?

end ReadsBoth

/-- The order in which the tables of a built schema are read makes no difference but to the numbers:
extraction succeeds in both orders or in neither, and so does a strict resolution of what was
extracted; and the sets resolved correspond row by row, with the same labels and values and with links
that lead to the same rows or nowhere. -/
theorem corresponds_of_perm {metadata : Source} {exclude : List Text.Pattern} {name : String}
    (hbuild : (Schema.build metadata exclude name).result = .ok x.schema)
    (hnodup : order.Nodup) (hperm : order'.Perm order) :
    ((x.extract order).failure = none ↔ (x.extract order').failure = none) ∧
    ((x.extract order).failure = none →
      (((x.extract order).state.entities.resolve x.schema .fail).failure = none ↔
        ((x.extract order').state.entities.resolve x.schema .fail).failure = none) ∧
      ∀ policy policy',
        ((x.extract order).state.entities.resolve x.schema policy).failure = none →
        ((x.extract order').state.entities.resolve x.schema policy').failure = none →
        ((x.extract order).state.entities.resolve x.schema policy).state.entities.CorrespondBy
          (x.SameRow order order')
          ((x.extract order').state.entities.resolve x.schema policy').state.entities) := by
  have hsame : ∀ id, id ∈ order ↔ id ∈ order' := fun id => hperm.mem_iff.symm
  -- an extraction fails where one of its tables does, and the tables are the same
  have hextract : (x.extract order).failure = none ↔ (x.extract order').failure = none := by
    rw [extract, extract, failure_run_extractTable_eq_none_iff, failure_run_extractTable_eq_none_iff]
    simp only [hsame]
  refine ⟨hextract, ?_⟩
  intro hok
  have hboth : x.ReadsBoth order order' :=
    { wellFormed := Schema.wellFormed_of_build hbuild
      nodup := hnodup
      nodup' := hperm.nodup_iff.2 hnodup
      mem_iff := hsame
      extracted := hok
      extracted' := hextract.1 hok }
  refine ⟨⟨hboth.failure_resolve_fail, hboth.symm.failure_resolve_fail⟩, ?_⟩
  intro policy policy' hresolve hresolve'
  exact hboth.correspondBy_resolve hresolve hresolve'

/-! ### The sample

Read after the cities, the visits of the sample have greater numbers than the city that they are to. -/

open EntitySet (sampleVisits)

/-- Cities and visits as they are extracted. -/
abbrev sampleCities : EntitySet := (sampleExtractor.extract [1, 0]).state.entities

theorem corresponds_of_perm_sample :
    (sampleVisits.resolve sampleSchema .warn).state.entities.CorrespondBy
        (sampleExtractor.SameRow [0, 1] [1, 0])
        (sampleCities.resolve sampleSchema .warn).state.entities ∧
      sampleExtractor.SameRow [0, 1] [1, 0] 2 0 ∧
      ((sampleVisits.resolve sampleSchema .warn).state.entities.link? 0 (.required 0)).map
        (·.target) = some (.resolved 2) ∧
      ((sampleCities.resolve sampleSchema .warn).state.entities.link? 1 (.required 0)).map
        (·.target) = some (.resolved 0) := by
  have hok : (sampleVisits.resolve sampleSchema .warn).failure = none :=
    EntitySet.failure_resolve_warn _ _
  have hok' : (sampleCities.resolve sampleSchema .warn).failure = none :=
    EntitySet.failure_resolve_warn _ _
  have hnodup : [0, 1].Nodup := by decide
  have hperm : [1, 0].Perm [0, 1] := .swap 0 1 []
  obtain ⟨-, hcorrespond⟩ :=
    corresponds_of_perm (x := sampleExtractor) result_build_sampleSource hnodup hperm
  refine ⟨?_, ?_, ?_, ?_⟩
  · exact (hcorrespond failure_extract_sampleExtractor).2 .warn .warn hok hok'
  · exact ⟨(1, 1), by decide, by decide⟩
  · rw [EntitySet.entities_resolve hok]
    rfl
  · rw [EntitySet.entities_resolve hok']
    rfl

end Extractor

end FixturePlan
