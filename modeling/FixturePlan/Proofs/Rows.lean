import FixturePlan.Proofs.Entity.TableOrder
import FixturePlan.Proofs.Plan.Rows
import FixturePlan.Proofs.Run
import FixturePlan.Proofs.Schema.CreationOrder
import FixturePlan.Proofs.Schema.Listing
import Mathlib.Data.List.Nodup

/-!
# The rows behind the entities of a plan

After extraction neither matching nor inclusion touches what an entity has beside its links, and the
only entities added are stand-ins (`Included.rowsKept_outcome`). The extracted entities of a plan are
therefore those that extraction numbered. How many of them a row becomes depends on the list of tables
alone: as many as its table is requested times (`Extractor.count_origins`, `Planner.count_order`).
-/

namespace FixturePlan

/-- What a list has once, it has at one place. -/
theorem existsUnique_getElem?_iff {α : Type} [DecidableEq α] {l : List α} {a : α} :
    (∃! i : Nat, l[i]? = some a) ↔ l.count a = 1 := by
  have hcount : l.count a = 1 ↔ a ∈ l ∧ ¬2 ≤ l.count a := by
    rw [← List.count_pos_iff]
    omega
  rw [hcount, ← List.duplicate_iff_two_le_count, List.duplicate_iff_exists_distinct_get]
  -- one place is the same as not two
  constructor
  · rintro ⟨i, hi, hunique⟩
    refine ⟨List.mem_of_getElem? hi, ?_⟩
    rintro ⟨j, k, hlt, hj, hk⟩
    have hat : ∀ j : Fin l.length, a = l.get j → (j : Nat) = i := fun j hj =>
      hunique j (List.getElem?_eq_some_iff.2 ⟨j.isLt, hj.symm⟩)
    rw [Fin.lt_def, hat j hj, hat k hk] at hlt
    exact Nat.lt_irrefl _ hlt
  · rintro ⟨hmem, honce⟩
    obtain ⟨i, hi⟩ := List.mem_iff_getElem?.1 hmem
    refine ⟨i, hi, ?_⟩
    intro j hj
    obtain ⟨hi, hai⟩ := List.getElem?_eq_some_iff.1 hi
    obtain ⟨hj, haj⟩ := List.getElem?_eq_some_iff.1 hj
    rcases Nat.lt_trichotomy i j with hlt | heq | hlt
    · exact absurd ⟨⟨i, hi⟩, ⟨j, hj⟩, hlt, hai.symm, haj.symm⟩ honce
    · exact heq.symm
    · exact absurd ⟨⟨j, hj⟩, ⟨i, hi⟩, hlt, haj.symm, hai.symm⟩ honce

/-! ### Rows and their entities

How often a row becomes an entity is how often its table is read. -/

namespace Extractor

variable (x : Extractor)

/-- The rows of a table, as its source gives them. -/
def rowsOf (t : Table) : List Row :=
  match x.source.scan (x.request t).schema (x.request t).table (x.request t).fetchSize with
  | .error _ => []
  | .ok scan => scan.rows

/-- An entity has been read from a row, and has its label and its values. -/
def ReadFrom (o : Origin) (e : Entity) : Prop :=
  e.kind = .extracted ∧ ∃ e₀, x.entityOf o = .ok e₀ ∧
    e₀.table = e.table ∧ e₀.label = e.label ∧ e₀.values = e.values

theorem kind_of_entityOf {o : Origin} {e : Entity} (h : x.entityOf o = .ok e) :
    e.kind = .extracted := by
  obtain ⟨name, found, plain, -, -, -, rfl⟩ := Extract.entity_eq_ok_iff.1 h
  rfl

theorem readFrom_of_bare {o : Origin} {e e' : Entity} (h : x.entityOf o = .ok { e with id := 0 })
    (hbare : e'.bare = e.bare) : x.ReadFrom o e' := by
  have hkind := x.kind_of_entityOf h
  refine ⟨(Entity.kind_of_bare hbare).trans hkind, _, h, ?_, ?_, ?_⟩
  · exact congrArg (·.table) hbare.symm
  · exact congrArg (·.label) hbare.symm
  · exact congrArg (·.values) hbare.symm

/-- Where a table can be read, each of its rows is the origin of an entity. -/
theorem map_row_originsOf {t : Table} {found : List Entity}
    (h : (x.tableEntities t).result = .ok found) : (x.originsOf t).map (·.row) = x.rowsOf t := by
  unfold tableEntities at h
  obtain ⟨scan, hscan, h⟩ := Report.result_andThen_eq_ok_iff.1 h
  obtain ⟨found', hfound, -⟩ := Report.result_andThen_eq_ok_iff.1 h
  rw [Report.result_mapError_eq_ok_iff, Report.result_ofExcept] at hscan
  rw [originsOf, rowsOf, hscan]
  show (Origin.ofRows t scan.rows).map (·.row) = scan.rows
  cases hrows : scan.rows with
  | nil => rfl
  | cons first rest =>
    rw [hrows, rowEntities] at hfound
    obtain ⟨m, hm, -⟩ := Report.result_andThen_eq_ok_iff.1 hfound
    rw [Origin.ofRows, hm]
    show ((first :: rest).zipIdx.map _).map _ = _
    rw [List.map_map]
    exact List.zipIdx_map_fst 0 (first :: rest)

theorem nodup_originsOf (t : Table) : (x.originsOf t).Nodup := by
  rw [List.nodup_iff_getElem?_ne_getElem?]
  intro i j hlt hj heq
  have hj' := List.getElem?_eq_getElem hj
  have hi := x.ordinal_of_getElem?_originsOf (heq.trans hj')
  rw [x.ordinal_of_getElem?_originsOf hj'] at hi
  exact absurd (Nat.succ.inj hi) (Nat.ne_of_gt hlt)

variable {x}

section WellFormed

variable (hs : x.schema.WellFormed) {t : Table} (ht : t ∈ x.schema.tables) {order : List TableId}

include hs ht

/-- A row is read as often as its table is listed. -/
theorem count_origins {o : Origin} (ho : o ∈ x.originsOf t) :
    (x.origins order).count o = order.count t.id := by
  -- every listing of the table gives its rows once more, and listings of others give none
  induction order with
  | nil => rfl
  | cons id rest ih =>
    have hcons : x.origins (id :: rest) =
        ((x.schema.table? id).elim [] x.originsOf) ++ x.origins rest := by
      rw [origins, List.filterMap_cons, origins]
      cases x.schema.table? id <;> rfl
    rw [hcons, List.count_append, ih, List.count_cons, Nat.add_comm]
    congr 1
    by_cases hid : id = t.id
    · subst hid
      rw [hs.table?_id ht, beq_self_eq_true, if_pos rfl]
      exact List.count_eq_one_of_mem (x.nodup_originsOf t) ho
    · rw [beq_eq_false_iff_ne.2 hid, if_neg Bool.false_ne_true, List.count_eq_zero]
      intro hmem
      cases hu : x.schema.table? id with
      | none => simp [hu] at hmem
      | some u =>
        rw [hu, Option.elim_some] at hmem
        have htable : u = t := (x.table_of_mem_originsOf hmem).symm.trans (x.table_of_mem_originsOf ho)
        exact hid (htable ▸ hs.table_id id u hu).symm

theorem mem_origins_iff_mem_order {o : Origin} (ho : o ∈ x.originsOf t) :
    o ∈ x.origins order ↔ t.id ∈ order := by
  rw [← List.count_pos_iff, count_origins hs ht ho, List.count_pos_iff]

/-- The numbers of the entities of a row are the places where the row is read. -/
theorem rowAt?_eq_some_iff {o : Origin} (ho : o ∈ x.originsOf t) {id : EntityId} :
    x.rowAt? order id = some (t.id, o.ordinal) ↔ (x.origins order)[id]? = some o := by
  have hmem : o ∈ x.origins [t.id] :=
    x.mem_origins.2 ⟨t.id, List.mem_singleton_self _, t, hs.table?_id ht, ho⟩
  rw [rowAt?, Option.map_eq_some_iff]
  constructor
  · rintro ⟨o', ho', hrow⟩
    obtain ⟨htable, hordinal⟩ := Prod.mk.inj hrow
    rw [← x.table_of_mem_originsOf ho] at htable
    rw [ho', eq_of_row_eq hs (List.mem_of_getElem? ho') hmem htable hordinal]
  · intro h
    exact ⟨o, h, by rw [x.table_of_mem_originsOf ho]⟩

end WellFormed

end Extractor

/-! ### The tables of a run

The order of extraction has each table as often as it is listed, or once where there is no list. -/

namespace Planner

variable {p : Planner} {source : Source} {decide : Decider} {plan : Plan}

variable (p) in
/-- How often a run reads a table: once if no tables are listed, else as often as the table is. -/
def timesRead (s : Schema) (t : Table) : Nat :=
  if p.settings.extract.tables.isEmpty then 1
  else (p.settings.extract.tables.map (QualifiedName.mk s.name)).count t.name

/-- Where no table is listed twice, none is read twice. -/
theorem timesRead_le_one (h : p.settings.extract.tables.Nodup) (s : Schema) (t : Table) :
    p.timesRead s t ≤ 1 := by
  unfold timesRead
  split
  · exact Nat.le_refl 1
  · refine List.nodup_iff_count_le_one.1 (h.map ?_) _
    exact fun name name' heq => congrArg QualifiedName.name heq

theorem findTables_eq_ok_iff {s : Schema} {names : List String} {ids : List TableId} :
    findTables s names = .ok ids ↔
      List.Forall₂ (fun name id => s.findByName? name = some id) names ids := by
  induction names generalizing ids with
  | nil => cases ids <;> simp [findTables]
  | cons name rest ih =>
    rw [findTables, findTable]
    cases hname : s.findByName? name with
    | none => cases ids <;> simp [hname]
    | some id =>
      cases hrest : findTables s rest with
      | error e => cases ids <;> simp [Except.map, hname, ← ih, hrest]
      | ok found => cases ids <;> simp [Except.map, hname, ← ih, hrest]

/-- The table found under a name is the one that has it. -/
theorem eq_id_iff_of_findByName? {s : Schema} (hs : s.WellFormed) {t : Table} (ht : t ∈ s.tables)
    {name : String} {id : TableId} (h : s.findByName? name = some id) :
    id = t.id ↔ QualifiedName.mk s.name name = t.name := by
  obtain ⟨u, hu, hname⟩ := hs.find?_eq_some_iff.1 h
  rw [← hname, ← hs.table_id id u hu]
  exact hs.id_eq_iff ht (Schema.mem_tables_iff.2 ⟨id, hu⟩)

/-- A table stands in the order of extraction as often as it is read. -/
theorem count_order {s : Schema} (hs : s.WellFormed) {order : List TableId}
    (horder : (p.extractionOrder s).result = .ok order) {t : Table} (ht : t ∈ s.tables) :
    order.count t.id = p.timesRead s t := by
  unfold extractionOrder at horder
  unfold timesRead
  -- all tables, each once, or the listed ones as often as they are listed
  split at horder
  · next hall =>
    obtain rfl := Except.ok.inj horder
    have hlt : t.id < s.tables.length := (List.getElem?_eq_some_iff.1 (hs.table?_id ht)).1
    rw [if_pos hall]
    refine List.count_eq_one_of_mem s.nodup_creationOrder ?_
    exact (s.perm_creationOrder.mem_iff).2 (List.mem_range.2 hlt)
  · next hlisted =>
    rw [if_neg hlisted]
    have hfound := findTables_eq_ok_iff.1 horder
    clear horder
    generalize p.settings.extract.tables = names at hfound
    induction hfound with
    | nil => rfl
    | @cons name id names ids hid _ ih =>
      have hsame := eq_id_iff_of_findByName? hs ht hid
      rw [List.map_cons, List.count_cons, List.count_cons, ih]
      simp only [beq_iff_eq, hsame]

/-! ### Runs

What is known of extraction carries over to a plan, as later stages leave the rows alone. -/

variable (p source plan) in
/-- Entity number `id` of a plan is row number `n` of a table, counted from 0: there extraction has
read it, and it has the label and the values of that row. -/
def IsRow (id : EntityId) (t : Table) (n : Nat) : Prop :=
  let x := p.extractor source plan.schema
  ∃ order o e, (p.extractionOrder plan.schema).result = .ok order ∧
    x.rowAt? order id = some (t.id, n + 1) ∧
    (x.originsOf t)[n]? = some o ∧ (x.rowsOf t)[n]? = some o.row ∧
    plan.entities.get? id = some e ∧ x.ReadFrom o e

variable (p source plan) in
/-- One entity for every row: every extracted entity is one row of the tables that are read, and every
such row is one entity. -/
def OneForEachRow : Prop :=
  (∀ id e, plan.entities.get? id = some e → e.kind = .extracted →
    ∃! row : Table × Nat, row.1 ∈ plan.schema.tables ∧ p.timesRead plan.schema row.1 ≠ 0 ∧
      p.IsRow source plan id row.1 row.2) ∧
  ∀ t ∈ plan.schema.tables, p.timesRead plan.schema t ≠ 0 →
    ∀ n < ((p.extractor source plan.schema).rowsOf t).length, ∃! id, p.IsRow source plan id t n

/-- What is known of a plan that a run has given: it has the entities of the rows that were read in the
order of extraction, and stand-ins. -/
structure ReadsRows (p : Planner) (source : Source) (order : List TableId) (plan : Plan) : Prop where
  wellFormed : plan.schema.WellFormed
  order_eq : (p.extractionOrder plan.schema).result = .ok order
  rows_eq : ∀ t ∈ plan.schema.tables, t.id ∈ order →
    ((p.extractor source plan.schema).originsOf t).map (·.row) =
      (p.extractor source plan.schema).rowsOf t
  readFrom : ∀ id o, ((p.extractor source plan.schema).origins order)[id]? = some o →
    ∃ e, plan.entities.get? id = some e ∧ (p.extractor source plan.schema).ReadFrom o e
  exists_origin : ∀ id e, plan.entities.get? id = some e → e.kind = .extracted →
    ∃ o, ((p.extractor source plan.schema).origins order)[id]? = some o

theorem exists_readsRows (h : (p.run source decide).result = .ok plan) :
    ∃ order, p.ReadsRows source order plan := by
  obtain ⟨s, joins, order, hinspect, horder, hextract, hresolve, hplan⟩ := result_run_eq_ok_iff.1 h
  obtain ⟨sorted, -, hdecide, rfl⟩ := Plan.exists_order_of_build hplan
  have hkept := Included.rowsKept_outcome hdecide
  -- `s` is a schema that was built
  obtain ⟨exclude, -, hinspect⟩ := Report.result_andThen_eq_ok_iff.1 hinspect
  obtain ⟨s', hbuild, hs'⟩ := Report.result_andThen_eq_ok_iff.1 hinspect
  obtain ⟨rfl, -⟩ := Prod.mk.inj (Except.ok.inj hs')
  rw [Report.result_mapError_eq_ok_iff] at hbuild
  rw [EntitySet.entities_resolve hresolve] at hkept ⊢
  have hsize : (((p.extractor source s').extract order).state.entities.settled (Resolving.match? s'
      ((p.extractor source s').extract order).state.entities)).size =
        ((p.extractor source s').origins order).length := by
    rw [EntitySet.settled, EntitySet.size_map, ← EntitySet.length_toList]
    exact ((p.extractor source s').forall₂_extract hextract).length_eq.symm
  have hs := Schema.wellFormed_of_build hbuild
  refine ⟨order, hs, horder, ?_, ?_, ?_⟩
  · intro t ht hid
    obtain ⟨found, hfound⟩ := ((p.extractor source s').failure_run_extractTable_eq_none_iff.1
      hextract) t.id hid t (hs.table?_id ht)
    exact (p.extractor source s').map_row_originsOf hfound
  · intro id o ho
    obtain ⟨e, he, hentity⟩ := (p.extractor source s').exists_get?_of_origin hextract ho
    have hbare := hkept.bare_eq id (hsize ▸ (List.getElem?_eq_some_iff.1 ho).1)
    rw [EntitySet.settled, EntitySet.get?_map, he, Option.map_some, Option.map_some,
      Option.map_eq_some_iff] at hbare
    obtain ⟨e', he', hbare⟩ := hbare
    exact ⟨e', he', (p.extractor source s').readFrom_of_bare hentity hbare⟩
  · intro id e he hkind
    have hlt : id < ((p.extractor source s').origins order).length := by
      rw [← hsize]
      refine Nat.lt_of_not_le fun hge => ?_
      obtain ⟨replaced, hstandIn⟩ := hkept.standIn id e hge he
      rw [hkind] at hstandIn
      cases hstandIn
    exact ⟨_, List.getElem?_eq_getElem hlt⟩

namespace ReadsRows

variable {order : List TableId} (h : p.ReadsRows source order plan)

include h

theorem mem_order_iff {t : Table} (ht : t ∈ plan.schema.tables) :
    t.id ∈ order ↔ p.timesRead plan.schema t ≠ 0 := by
  rw [← count_order h.wellFormed h.order_eq ht, ← Nat.pos_iff_ne_zero, List.count_pos_iff]

/-- The numbers of the entities of a row are the places where the row was read. -/
theorem isRow_iff {t : Table} (ht : t ∈ plan.schema.tables) {n : Nat} {o : Origin}
    (ho : ((p.extractor source plan.schema).originsOf t)[n]? = some o) {id : EntityId} :
    p.IsRow source plan id t n ↔ ((p.extractor source plan.schema).origins order)[id]? = some o := by
  have hmem := List.mem_of_getElem? ho
  have hrow : (p.extractor source plan.schema).rowAt? order id = some (t.id, n + 1) ↔
      ((p.extractor source plan.schema).origins order)[id]? = some o := by
    rw [← (p.extractor source plan.schema).ordinal_of_getElem?_originsOf ho]
    exact Extractor.rowAt?_eq_some_iff h.wellFormed ht hmem
  constructor
  · rintro ⟨order', _, _, horder', hread, -⟩
    obtain rfl := Except.ok.inj (horder'.symm.trans h.order_eq)
    exact hrow.1 hread
  · intro hread
    obtain ⟨e, he, hfrom⟩ := h.readFrom id o hread
    have hlisted : t.id ∈ order :=
      (Extractor.mem_origins_iff_mem_order h.wellFormed ht hmem).1 (List.mem_of_getElem? hread)
    refine ⟨order, o, e, h.order_eq, hrow.2 hread, ho, ?_, he, hfrom⟩
    rw [← h.rows_eq t ht hlisted, List.getElem?_map, ho, Option.map_some]

/-- An entity is not two rows. -/
theorem eq_of_isRow {id : EntityId} {t u : Table} (ht : t ∈ plan.schema.tables)
    (hu : u ∈ plan.schema.tables) {m n : Nat} (hm : p.IsRow source plan id t m)
    (hn : p.IsRow source plan id u n) : t = u ∧ m = n := by
  obtain ⟨order, _, _, horder, hat, -⟩ := hm
  obtain ⟨order', _, _, horder', hat', -⟩ := hn
  obtain rfl := Except.ok.inj (horder.symm.trans horder')
  obtain ⟨hid, hordinal⟩ := Prod.mk.inj (Option.some.inj (hat.symm.trans hat'))
  have htable := h.wellFormed.table?_id ht
  rw [hid, h.wellFormed.table?_id hu] at htable
  exact ⟨(Option.some.inj htable).symm, Nat.succ.inj hordinal⟩

/-- Every extracted entity is a row of a table that was read. -/
theorem existsUnique_row {id : EntityId} {e : Entity} (he : plan.entities.get? id = some e)
    (hkind : e.kind = .extracted) :
    ∃! row : Table × Nat, row.1 ∈ plan.schema.tables ∧ p.timesRead plan.schema row.1 ≠ 0 ∧
      p.IsRow source plan id row.1 row.2 := by
  obtain ⟨o, hread⟩ := h.exists_origin id e he hkind
  obtain ⟨id', hid', t, ht, ho⟩ :=
    (p.extractor source plan.schema).mem_origins.1 (List.mem_of_getElem? hread)
  obtain rfl := h.wellFormed.table_id id' t ht
  have htable := Schema.mem_tables_iff.2 ⟨_, ht⟩
  obtain ⟨n, hn⟩ := List.mem_iff_getElem?.1 ho
  have hrow : p.IsRow source plan id t n := (h.isRow_iff htable hn).2 hread
  refine ⟨(t, n), ⟨htable, (h.mem_order_iff htable).1 hid', hrow⟩, ?_⟩
  rintro ⟨u, m⟩ ⟨hu, -, hrow'⟩
  obtain ⟨rfl, rfl⟩ := h.eq_of_isRow hu htable hrow' hrow
  rfl

/-- A row is as many entities as its table was read times. -/
theorem existsUnique_isRow_iff {t : Table} (ht : t ∈ plan.schema.tables)
    (hread : p.timesRead plan.schema t ≠ 0) {n : Nat}
    (hn : n < ((p.extractor source plan.schema).rowsOf t).length) :
    (∃ id, p.IsRow source plan id t n) ∧
      ((∃! id, p.IsRow source plan id t n) ↔ p.timesRead plan.schema t = 1) := by
  have hlisted := (h.mem_order_iff ht).2 hread
  rw [← h.rows_eq t ht hlisted, List.length_map] at hn
  have ho := List.getElem?_eq_getElem hn
  have hmem := List.mem_of_getElem? ho
  simp only [h.isRow_iff ht ho]
  constructor
  · exact List.mem_iff_getElem?.1
      ((Extractor.mem_origins_iff_mem_order h.wellFormed ht hmem).2 hlisted)
  · rw [existsUnique_getElem?_iff, Extractor.count_origins h.wellFormed ht hmem,
      count_order h.wellFormed h.order_eq ht]

end ReadsRows

/-- Every extracted entity of a plan is one row of the tables that were to be read, and every such row
is an extracted entity. It is only one if its table was listed once, and so the rows and the entities
correspond one to one just when no table that has rows was listed twice. -/
theorem run_rows (h : (p.run source decide).result = .ok plan) :
    (∀ id e, plan.entities.get? id = some e → e.kind = .extracted →
      ∃! row : Table × Nat, row.1 ∈ plan.schema.tables ∧ p.timesRead plan.schema row.1 ≠ 0 ∧
        p.IsRow source plan id row.1 row.2) ∧
    (∀ t ∈ plan.schema.tables, p.timesRead plan.schema t ≠ 0 →
      ∀ n < ((p.extractor source plan.schema).rowsOf t).length,
        ∃ id, p.IsRow source plan id t n) ∧
    (p.OneForEachRow source plan ↔ ∀ t ∈ plan.schema.tables,
      (p.extractor source plan.schema).rowsOf t ≠ [] → p.timesRead plan.schema t ≤ 1) := by
  obtain ⟨order, hrows⟩ := exists_readsRows h
  refine ⟨fun id e he hkind => hrows.existsUnique_row he hkind,
    fun t ht hread n hn => (hrows.existsUnique_isRow_iff ht hread hn).1, ?_⟩
  -- a row of a table without entities says nothing about how often that table is read
  constructor
  · rintro ⟨-, honce⟩ t ht hne
    by_cases hread : p.timesRead plan.schema t = 0
    · exact hread ▸ Nat.zero_le 1
    · have hpos := List.length_pos_iff.2 hne
      have hone := honce t ht hread 0 hpos
      exact Nat.le_of_eq ((hrows.existsUnique_isRow_iff ht hread hpos).2.1 hone)
  · intro honce
    refine ⟨fun id e he hkind => hrows.existsUnique_row he hkind, ?_⟩
    intro t ht hread n hn
    have hne := List.ne_nil_of_length_pos (Nat.zero_lt_of_lt hn)
    have hone := Nat.le_antisymm (honce t ht hne) (Nat.pos_of_ne_zero hread)
    exact (hrows.existsUnique_isRow_iff ht hread hn).2.2 hone

open Extractor (sampleSource sampleSchema sampleExtractor)

theorem run_rows_sample :
    ∃ plan, (samplePlanner.run sampleSource sampleDecider).result = .ok plan ∧
      samplePlanner.OneForEachRow sampleSource plan := by
  obtain ⟨plan, h, -⟩ := exists_run_sample
  exact ⟨plan, h, (run_rows h).2.2.2 fun t _ _ => timesRead_le_one (by decide) plan.schema t⟩

/-- The planner of the sample, for a list with the cities twice. -/
def repeatingPlanner : Planner :=
  { samplePlanner with
    settings := { samplePlanner.settings with extract := ⟨["city", "city"], [], 100⟩ } }

/-- There is one city, and with settings that pass for valid it becomes two entities. -/
theorem exists_row_twice :
    ∃ plan, repeatingPlanner.settings.validate = .ok () ∧
      (repeatingPlanner.run sampleSource fun _ => .keep).result = .ok plan ∧
      (plan.schema.tables.map fun t =>
          (t.name.name, repeatingPlanner.timesRead plan.schema t,
            ((repeatingPlanner.extractor sampleSource plan.schema).rowsOf t).length)) =
        [("visit", 0, 2), ("city", 2, 1)] ∧
      (plan.entities.toList.map fun e => (e.kind, e.label)) =
        [(.extracted, "city[#1]"), (.extracted, "city[#1]")] ∧
      ¬repeatingPlanner.OneForEachRow sampleSource plan := by
  let joins := sampleSchema.joinShapes .verbatim
  let entities := (sampleExtractor.extract [1, 1]).state.entities
  let matched := entities.settled (Resolving.match? sampleSchema entities)
  have hinspect : (repeatingPlanner.inspect sampleSource).result = .ok (sampleSchema, joins) :=
    result_inspect_samplePlanner
  have hresolve : (entities.resolve sampleSchema .warn).failure = none :=
    EntitySet.failure_resolve_warn _ _
  have hmatched : (entities.resolve sampleSchema .warn).state.entities = matched :=
    EntitySet.entities_resolve hresolve
  have hsorted : matched.topologicalOrder = .ok [0, 1] :=
    EntitySet.topologicalOrder_eq_ok rfl rfl rfl
  have hok : (matched.applyInclusion [0, 1] fun _ => .keep).failure = none := by decide
  have hplan := (congrArg (fun s => (Plan.build sampleSchema joins s fun _ => .keep).result)
    hmatched).trans (Plan.result_build_eq_ok hsorted hok)
  have hrun := (result_run_eq_ok_iff (p := repeatingPlanner)).2
    ⟨sampleSchema, joins, [1, 1], hinspect, by decide, by decide, hresolve, hplan⟩
  refine ⟨_, rfl, hrun, by decide, by decide, ?_⟩
  rintro ⟨-, honce⟩
  obtain ⟨order, hrows⟩ := exists_readsRows hrun
  have hcity : ∃ t ∈ sampleSchema.tables, repeatingPlanner.timesRead sampleSchema t = 2 ∧
      0 < ((repeatingPlanner.extractor sampleSource sampleSchema).rowsOf t).length := by decide
  obtain ⟨t, ht, htwice, hn⟩ := hcity
  have hread : repeatingPlanner.timesRead sampleSchema t ≠ 0 := by rw [htwice]; decide
  have hone := (hrows.existsUnique_isRow_iff ht hread hn).2.1 (honce t ht hread 0 hn)
  rw [htwice] at hone
  cases hone

end Planner

end FixturePlan
