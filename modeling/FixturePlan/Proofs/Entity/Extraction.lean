import FixturePlan.Proofs.Entity.Batches
import FixturePlan.Proofs.Entity.Layout
import FixturePlan.Proofs.Entity.Set

/-!
# Where extracted entities come from

A row that extraction reads is an `Origin`: a row together with its table, the places of the columns
in it and its number. The origins of a list of tables, in order, are given by the source alone
(`Extractor.origins`). After an extraction that succeeds, the entities stand one to one with the
origins (`Extractor.forall₂_extract`).
-/

namespace FixturePlan

namespace Extract

/-! ### Lists

Extraction stops at the first error of a list; a result has an element for every element of the list. -/

section Lists

variable {α β : Type} {f : α → Except ExtractError β} {as : List α} {bs : List β}

theorem mapOk_eq_ok_iff : mapOk f as = .ok bs ↔ List.Forall₂ (fun a b => f a = .ok b) as bs := by
  induction as generalizing bs with
  | nil => cases bs <;> simp [mapOk]
  | cons a rest ih =>
    rw [mapOk, List.forall₂_cons_left_iff]
    cases ha : f a with
    | error e => simp
    | ok b =>
      cases hrest : mapOk f rest with
      | error e => simp [← ih, hrest]
      | ok others => simp [← ih, hrest, eq_comm]

theorem mem_zip_of_mapOk (h : mapOk f as = .ok bs) {a : α} {b : β} :
    (a, b) ∈ as.zip bs ↔ a ∈ as ∧ f a = .ok b := by
  induction mapOk_eq_ok_iff.1 h with
  | nil => simp
  | @cons a' b' rest others hb hrest ih =>
    rw [List.zip_cons_cons, List.mem_cons, ih (mapOk_eq_ok_iff.2 hrest), List.mem_cons]
    constructor
    · rintro (heq | ⟨ha, hb⟩)
      · obtain ⟨rfl, rfl⟩ := Prod.mk.inj heq
        exact ⟨Or.inl rfl, hb⟩
      · exact ⟨Or.inr ha, hb⟩
    · rintro ⟨rfl | ha, hb'⟩
      · exact Or.inl (by rw [Except.ok.inj (hb.symm.trans hb')])
      · exact Or.inr ⟨ha, hb'⟩

theorem exists_of_mapOk (h : mapOk f as = .ok bs) {a : α} (ha : a ∈ as) : ∃ b, f a = .ok b := by
  induction mapOk_eq_ok_iff.1 h with
  | nil => cases ha
  | @cons a' b' rest others hb hrest ih =>
    rcases List.mem_cons.1 ha with rfl | ha
    · exact ⟨b', hb⟩
    · exact ih (mapOk_eq_ok_iff.2 hrest) ha

theorem mem_of_mapOk (h : mapOk f as = .ok bs) {b : β} : b ∈ bs ↔ ∃ a ∈ as, f a = .ok b := by
  have hlength : bs.length ≤ as.length := Nat.le_of_eq (mapOk_eq_ok_iff.1 h).length_eq.symm
  rw [← List.map_snd_zip hlength, List.mem_map]
  simp [mem_zip_of_mapOk h]

end Lists

/-! ### One row

An entity has the links of its references and the values of the columns that are not left to these. -/

section Row

variable {s : Schema} {strategies : Strategies} {layout : Layout} {m : ColumnMap} {row : Row}

theorem reference_eq_ok_iff {entry : ForeignKey × String} {link : Option Link} :
    reference s strategies layout m row entry = .ok link ↔
      ∃ found, mapOk (keyValue s strategies layout m row entry.1) entry.1.pairs = .ok found ∧
        link = if entry.1.nullable && found.any (·.isNone) then none else
          some ⟨entry.2, entry.1.id,
            .placeholder ⟨entry.1.target, entry.1.id, found.filterMap id⟩⟩ := by
  obtain ⟨key, name⟩ := entry
  rw [reference]
  cases hfound : mapOk (keyValue s strategies layout m row key) key.pairs with
  | error e => simp
  | ok found =>
    simp only [Except.ok.injEq, exists_eq_left']
    split <;> rw [Except.ok.injEq, eq_comm]

/-- The link of a key, which is there unless the key is nullable and incomplete. -/
theorem reference_eq_ok_some_iff {entry : ForeignKey × String} {l : Link} :
    reference s strategies layout m row entry = .ok (some l) ↔
      ∃ found, mapOk (keyValue s strategies layout m row entry.1) entry.1.pairs = .ok found ∧
        (entry.1.nullable && found.any (·.isNone)) = false ∧
        l = ⟨entry.2, entry.1.id,
          .placeholder ⟨entry.1.target, entry.1.id, found.filterMap id⟩⟩ := by
  rw [reference_eq_ok_iff]
  refine exists_congr fun found => and_congr_right fun _ => ?_
  cases entry.1.nullable && found.any (·.isNone) with
  | true => simp
  | false => simp

theorem read_eq_ok_iff {t : Table} {column : Nat} {cell : Cell} :
    m.read t row column = .ok cell ↔ (m.positions[column]? >>= row.cell?) = some cell := by
  unfold ColumnMap.read
  cases m.positions[column]? >>= row.cell? <;> simp

theorem keyValue_eq_ok_iff {key : ForeignKey} {pair : KeyPair} {v : Option (String × Token)} :
    keyValue s strategies layout m row key pair = .ok v ↔
      ∃ cell, m.read layout.table row pair.sourceIndex = .ok cell ∧
        v = if cell.isNull then none else do
          let target ← s.table? key.target
          let column ← target.columns[pair.targetIndex]?
          return (strategies.naming.attributeName target column, strategies.render cell column) := by
  unfold keyValue
  cases m.read layout.table row pair.sourceIndex with
  | error e => simp
  | ok cell => cases cell <;> simp only [Except.ok.injEq, exists_eq_left'] <;> exact eq_comm

theorem plainValue_eq_ok_iff {attached : List Bool} {column : Column} {position : Nat}
    {v : Option Attribute} (hkept : layout.isConsumed attached position = false) :
    plainValue strategies layout m row attached (column, position) = .ok v ↔
      ∃ cell, m.read layout.table row position = .ok cell ∧
        v = if cell.isNull then none else
          some ⟨layout.attributes[position]?.getD "", strategies.render cell column,
            if layout.inForeignKey[position]?.getD false then .inside else .outside⟩ := by
  simp only [plainValue, hkept, Bool.false_eq_true, if_false]
  cases m.read layout.table row position with
  | error e => simp
  | ok cell => cases cell <;> simp only [Except.ok.injEq, exists_eq_left'] <;> exact eq_comm

/-- A value of a column, which is there unless links carry it or its cell is NULL. -/
theorem plainValue_eq_ok_some_iff {attached : List Bool} {column : Column} {position : Nat}
    {a : Attribute} :
    plainValue strategies layout m row attached (column, position) = .ok (some a) ↔
      layout.isConsumed attached position = false ∧
        ∃ cell, m.read layout.table row position = .ok cell ∧ cell.isNull = false ∧
          a = ⟨layout.attributes[position]?.getD "", strategies.render cell column,
            if layout.inForeignKey[position]?.getD false then .inside else .outside⟩ := by
  cases hkept : layout.isConsumed attached position with
  | true => simp [plainValue, hkept]
  | false =>
    rw [plainValue_eq_ok_iff hkept, and_iff_right rfl]
    refine exists_congr fun cell => and_congr_right fun _ => ?_
    cases cell.isNull <;> simp

theorem name_of_plainValue {attached : List Bool} {column : Column} {position : Nat}
    {a : Attribute}
    (h : plainValue strategies layout m row attached (column, position) = .ok (some a)) :
    a.name = layout.attributes[position]?.getD "" := by
  obtain ⟨-, cell, -, -, rfl⟩ := plainValue_eq_ok_some_iff.1 h
  rfl

theorem unknownValue_eq_some_iff {position : Nat} {a : Attribute} :
    unknownValue strategies layout row position = some a ↔
      ∃ name, row.columns[position]? = some name ∧
        ∃ cell, row.cell? position = some cell ∧ cell.isNull = false ∧
          a = ⟨strategies.naming.attributeName layout.table (undescribed name),
            strategies.render cell (undescribed name), .undescribed⟩ := by
  unfold unknownValue
  refine Option.bind_eq_some_iff.trans (exists_congr fun name => and_congr_right fun _ => ?_)
  refine Option.bind_eq_some_iff.trans (exists_congr fun cell => and_congr_right fun _ => ?_)
  refine Option.bind_eq_some_iff.trans ?_
  rw [guard]
  cases cell.isNull with
  | true => simp [failure]
  | false =>
    simp only [Bool.not_false, if_true, Option.pure_def, Option.some.injEq, exists_const, true_and]
    exact eq_comm

theorem exists_name_of_unknownValue {position : Nat} {a : Attribute}
    (h : unknownValue strategies layout row position = some a) :
    ∃ name, row.columns[position]? = some name ∧
      a.name = strategies.naming.attributeName layout.table (undescribed name) := by
  obtain ⟨name, hname, cell, -, -, rfl⟩ := unknownValue_eq_some_iff.1 h
  exact ⟨name, hname, rfl⟩

theorem entity_eq_ok_iff {ordinal : Nat} {e : Entity} :
    entity s strategies layout m row ordinal = .ok e ↔
      ∃ name found plain, label strategies layout m row ordinal = .ok name ∧
        mapOk (reference s strategies layout m row) layout.references = .ok found ∧
        mapOk (plainValue strategies layout m row (found.map (·.isSome)))
          layout.table.columns.zipIdx = .ok plain ∧
        e = { Entity.extracted layout.table.id name with
          values := plain.filterMap id ++ m.unknown.filterMap (unknownValue strategies layout row)
          required := requiredLinks (layout.references.zip found)
          optional := optionalLinks (layout.references.zip found) } := by
  unfold entity
  constructor
  · intro h
    split at h
    · cases h
    · next name hname =>
      split at h
      · cases h
      · next found hfound =>
        dsimp only at h
        split at h
        · cases h
        · next plain hplain =>
          exact ⟨name, found, plain, hname, hfound, hplain, (Except.ok.inj h).symm⟩
  · rintro ⟨name, found, plain, hname, hfound, hplain, rfl⟩
    simp only [hname, hfound, hplain]

variable {ordinal : Nat} {e : Entity}

theorem id_of_entity (h : entity s strategies layout m row ordinal = .ok e) : e.id = 0 := by
  obtain ⟨name, found, plain, -, -, -, rfl⟩ := entity_eq_ok_iff.1 h
  rfl

theorem table_of_entity (h : entity s strategies layout m row ordinal = .ok e) :
    e.table = layout.table.id := by
  obtain ⟨name, found, plain, -, -, -, rfl⟩ := entity_eq_ok_iff.1 h
  rfl

theorem exists_reference_of_entity (h : entity s strategies layout m row ordinal = .ok e)
    {entry : ForeignKey × String} (hentry : entry ∈ layout.references) :
    ∃ link, reference s strategies layout m row entry = .ok link := by
  obtain ⟨name, found, plain, -, hfound, -, -⟩ := entity_eq_ok_iff.1 h
  exact exists_of_mapOk hfound hentry

/-- The required links are those of the NOT NULL keys. -/
theorem mem_required_of_entity (h : entity s strategies layout m row ordinal = .ok e) {l : Link} :
    l ∈ e.required ↔ ∃ entry ∈ layout.references, entry.1.nullable = false ∧
      reference s strategies layout m row entry = .ok (some l) := by
  obtain ⟨name, found, plain, -, hfound, -, rfl⟩ := entity_eq_ok_iff.1 h
  simp only [requiredLinks, List.mem_filterMap]
  constructor
  · rintro ⟨⟨entry, link⟩, hmem, hl⟩
    obtain ⟨hentry, hlink⟩ := (mem_zip_of_mapOk hfound).1 hmem
    cases hnullable : entry.1.nullable with
    | true => simp [hnullable] at hl
    | false =>
      simp only [hnullable, Bool.false_eq_true, if_false] at hl
      exact ⟨entry, hentry, hnullable, hl ▸ hlink⟩
  · rintro ⟨entry, hentry, hnullable, hl⟩
    exact ⟨(entry, some l), (mem_zip_of_mapOk hfound).2 ⟨hentry, hl⟩, by simp [hnullable]⟩

/-- The optional links are those of the nullable keys, each under its own name. -/
theorem find?_optional_of_entity (hnodup : (layout.references.map (·.2)).Nodup)
    (h : entity s strategies layout m row ordinal = .ok e) {name : String} {l : Link} :
    e.optional.find? name = some l ↔ ∃ entry ∈ layout.references, entry.1.nullable = true ∧
      entry.2 = name ∧ reference s strategies layout m row entry = .ok (some l) := by
  obtain ⟨_, found, plain, -, hfound, -, rfl⟩ := entity_eq_ok_iff.1 h
  have hentry : ∀ {entry link key l}, (entry, link) ∈ layout.references.zip found →
      ((if entry.1.nullable then link.map fun l => (l.name, l) else none) = some (key, l) ↔
        entry.1.nullable = true ∧ entry.2 = key ∧ link = some l) := by
    intro entry link key l hmem
    obtain ⟨-, href⟩ := (mem_zip_of_mapOk hfound).1 hmem
    cases link with
    | none => simp
    | some l' =>
      obtain ⟨_, -, -, rfl⟩ := reference_eq_ok_some_iff.1 href
      cases entry.1.nullable with
      | false => simp
      | true =>
        simp only [if_true, Option.map_some, Option.some.injEq, Prod.mk.injEq, true_and]
  simp only [optionalLinks]
  rw [SortedMap.find?_ofList, List.mem_filterMap]
  · constructor
    · rintro ⟨⟨entry, link⟩, hmem, hl⟩
      obtain ⟨hnullable, rfl, rfl⟩ := (hentry hmem).1 hl
      obtain ⟨href, hlink⟩ := (mem_zip_of_mapOk hfound).1 hmem
      exact ⟨entry, href, hnullable, rfl, hlink⟩
    · rintro ⟨entry, href, hnullable, rfl, hlink⟩
      have hmem := (mem_zip_of_mapOk hfound).2 ⟨href, hlink⟩
      exact ⟨(entry, some l), hmem, (hentry hmem).2 ⟨hnullable, rfl, rfl⟩⟩
  · -- the names of the links are among those of the references
    have hlength : layout.references.length ≤ found.length :=
      Nat.le_of_eq (mapOk_eq_ok_iff.1 hfound).length_eq
    rw [← List.map_fst_zip hlength, List.map_map] at hnodup
    refine List.pairwise_map.2 (List.pairwise_filterMap.2 ?_)
    refine (List.pairwise_map.1 hnodup).imp_of_mem ?_
    rintro ⟨a, la⟩ ⟨b, lb⟩ ha hb hne ⟨na, l⟩ hl ⟨nb, l'⟩ hl'
    obtain ⟨-, rfl, -⟩ := (hentry ha).1 hl
    obtain ⟨-, rfl, -⟩ := (hentry hb).1 hl'
    exact hne

theorem mem_links_of_entity (hnodup : (layout.references.map (·.2)).Nodup)
    (h : entity s strategies layout m row ordinal = .ok e) {l : Link} :
    l ∈ e.links ↔
      ∃ entry ∈ layout.references, reference s strategies layout m row entry = .ok (some l) := by
  simp only [Entity.links, List.mem_append, mem_required_of_entity h, SortedMap.mem_values,
    find?_optional_of_entity hnodup h]
  constructor
  · rintro (⟨entry, hentry, -, hl⟩ | ⟨name, entry, hentry, -, -, hl⟩)
    · exact ⟨entry, hentry, hl⟩
    · exact ⟨entry, hentry, hl⟩
  · rintro ⟨entry, hentry, hl⟩
    cases hnullable : entry.1.nullable with
    | false => exact Or.inl ⟨entry, hentry, hnullable, hl⟩
    | true => exact Or.inr ⟨entry.2, entry, hentry, hnullable, rfl, hl⟩

theorem mem_values_of_entity (h : entity s strategies layout m row ordinal = .ok e) :
    ∃ attached, (∀ entry ∈ layout.table.columns.zipIdx,
        ∃ v, plainValue strategies layout m row attached entry = .ok v) ∧
      ∀ a, a ∈ e.values ↔
        (∃ entry ∈ layout.table.columns.zipIdx,
          plainValue strategies layout m row attached entry = .ok (some a)) ∨
        ∃ position ∈ m.unknown, unknownValue strategies layout row position = some a := by
  obtain ⟨name, found, plain, -, -, hplain, rfl⟩ := entity_eq_ok_iff.1 h
  refine ⟨found.map (·.isSome), fun entry hentry => exists_of_mapOk hplain hentry, ?_⟩
  intro a
  simp [mem_of_mapOk hplain]

end Row

end Extract

/-! ### The rows of a source

Every extracted entity stands for a row, and the rows are numbered as the entities are. What the scans
gave is thereby told without the passes that read it. -/

/-- A row that is extracted. -/
structure Origin where
  table : Table
  columns : ColumnMap
  row : Row
  /-- The number of the row in its table, from 1. -/
  ordinal : Nat
  deriving DecidableEq, Repr

/-- The cell of a column of the table. -/
def Origin.cell? (o : Origin) (column : Nat) : Option Cell :=
  o.columns.positions[column]? >>= o.row.cell?

/-- The origins that the rows of a table are. The names reported with the first row say where its
columns stand. -/
def Origin.ofRows (t : Table) : List Row → List Origin
  | [] => []
  | first :: rest =>
    match (ColumnMap.ofReported t first.columns).result with
    | .error _ => []
    | .ok m => (first :: rest).zipIdx.map fun (r, i) => ⟨t, m, r, i + 1⟩

namespace Extractor

variable (x : Extractor)

/-- The origins of the rows of a table. -/
def originsOf (t : Table) : List Origin :=
  match x.source.scan (x.request t).schema (x.request t).table (x.request t).fetchSize with
  | .error _ => []
  | .ok scan => Origin.ofRows t scan.rows

/-- The origins of the rows of tables, in the given order. -/
def origins (order : List TableId) : List Origin :=
  (order.filterMap x.schema.table?).flatMap x.originsOf

theorem table_of_mem_originsOf {t : Table} {o : Origin} (h : o ∈ x.originsOf t) : o.table = t := by
  unfold originsOf Origin.ofRows at h
  split at h
  · cases h
  · split at h
    · cases h
    · split at h
      · cases h
      · obtain ⟨entry, -, rfl⟩ := List.mem_map.1 h
        rfl

theorem table_mem_of_mem_origins {order : List TableId} {o : Origin} (h : o ∈ x.origins order) :
    o.table ∈ x.schema.tables := by
  obtain ⟨t, ht, ho⟩ := List.mem_flatMap.1 h
  obtain ⟨id, -, hid⟩ := List.mem_filterMap.1 ht
  rw [x.table_of_mem_originsOf ho]
  exact List.mem_of_getElem? hid

/-- The entity of an origin, without its number. -/
def entityOf (o : Origin) : Except ExtractError Entity :=
  Extract.entity x.schema x.strategies (.ofTable x.schema x.strategies.naming o.table) o.columns
    o.row o.ordinal

/-- The rows of a table give the entities of its origins. -/
theorem forall₂_tableEntities {t : Table} {found : List Entity}
    (h : (x.tableEntities t).result = .ok found) :
    List.Forall₂ (fun o e => x.entityOf o = .ok e) (x.originsOf t) found := by
  unfold tableEntities at h
  -- the scan, then the rows: an error of either would be the result
  obtain ⟨scan, hscan, h⟩ := Report.result_andThen_eq_ok_iff.1 h
  obtain ⟨found', hfound, h⟩ := Report.result_andThen_eq_ok_iff.1 h
  rw [Report.result_mapError_eq_ok_iff, Report.result_ofExcept] at hscan
  have heq : found' = found := by
    split at h
    · cases h
    · exact Except.ok.inj h
  subst heq
  rw [originsOf, hscan]
  show List.Forall₂ _ (Origin.ofRows t scan.rows) found'
  -- without a row there is no column map, and nothing to read with it
  cases hrows : scan.rows with
  | nil =>
    rw [hrows, rowEntities] at hfound
    obtain rfl := Except.ok.inj hfound
    exact List.Forall₂.nil
  | cons first rest =>
    rw [hrows, rowEntities] at hfound
    obtain ⟨m, hm, hfound⟩ := Report.result_andThen_eq_ok_iff.1 hfound
    have hrow := Extract.mapOk_eq_ok_iff.1 hfound
    rw [Origin.ofRows, hm]
    exact List.forall₂_map_left_iff.2 hrow

/-- Adding the entities of origins to a set keeps entities and origins in step. -/
theorem forall₂_foldl_push {before os : List Origin} {s : EntitySet} {found : List Entity}
    (hs : List.Forall₂ (fun o e => x.entityOf o = .ok { e with id := 0 }) before s.toList)
    (hfound : List.Forall₂ (fun o e => x.entityOf o = .ok e) os found) :
    List.Forall₂ (fun o e => x.entityOf o = .ok { e with id := 0 }) (before ++ os)
      (found.foldl EntitySet.push s).toList := by
  induction hfound generalizing before s with
  | nil => rwa [List.append_nil]
  | @cons o e os found he hrest ih =>
    rw [List.append_cons]
    apply ih
    rw [EntitySet.toList_push]
    refine List.rel_append hs (List.Forall₂.cons ?_ List.Forall₂.nil)
    have hid := Extract.id_of_entity he
    rw [he]
    show Except.ok e = Except.ok { e with id := 0 }
    rw [← hid]

/-- What a step that does not fail can do. -/
theorem extractTable_cases {done : Extraction} {id : TableId}
    (hok : (x.extractTable done id).failure = none) :
    (x.schema.table? id = none ∧ (x.extractTable done id).state = done) ∨
      ∃ t found, x.schema.table? id = some t ∧ (x.tableEntities t).result = .ok found ∧
        (x.extractTable done id).state =
          ⟨found.foldl EntitySet.push done.entities, done.requests ++ [x.request t]⟩ := by
  rw [extractTable_eq] at hok ⊢
  cases ht : x.schema.table? id with
  | none => exact Or.inl ⟨rfl, rfl⟩
  | some t =>
    right
    simp only [ht] at hok ⊢
    split at hok
    · cases hok
    · next heq => exact ⟨t, _, rfl, by rw [heq], rfl⟩

theorem forall₂_run {before : List Origin} {done : Extraction} {order : List TableId}
    (hdone : List.Forall₂ (fun o e => x.entityOf o = .ok { e with id := 0 }) before
      done.entities.toList)
    (hok : (Pass.run x.extractTable done order).failure = none) :
    List.Forall₂ (fun o e => x.entityOf o = .ok { e with id := 0 }) (before ++ x.origins order)
      (Pass.run x.extractTable done order).state.entities.toList := by
  -- on the tables; what earlier ones gave is in `before` already, and stays there
  induction order generalizing before done with
  | nil => rwa [origins, List.filterMap_nil, List.flatMap_nil, List.append_nil]
  | cons id rest ih =>
    obtain ⟨hstep, hrest⟩ := (Pass.failure_run_cons done id rest).1 hok
    rw [Pass.state_run_cons hstep]
    -- a table that the schema does not hold is passed over, and has no rows in `origins` either
    rcases x.extractTable_cases hstep with ⟨ht, hstate⟩ | ⟨t, found, ht, hfound, hstate⟩
    · have horigins : x.origins (id :: rest) = x.origins rest := by
        rw [origins, List.filterMap_cons, ht, origins]
      rw [hstate] at hrest ⊢
      rw [horigins]
      exact ih hdone hrest
    · have horigins : x.origins (id :: rest) = x.originsOf t ++ x.origins rest := by
        rw [origins, List.filterMap_cons, ht, origins, List.flatMap_cons]
      rw [hstate] at hrest ⊢
      rw [horigins, ← List.append_assoc]
      exact ih (x.forall₂_foldl_push hdone (x.forall₂_tableEntities hfound)) hrest

/-- After an extraction that succeeds, the entities are those of the origins, in order. -/
theorem forall₂_extract {order : List TableId} (hok : (x.extract order).failure = none) :
    List.Forall₂ (fun o e => x.entityOf o = .ok { e with id := 0 }) (x.origins order)
      (x.extract order).state.entities.toList := by
  have hstart : List.Forall₂ (fun o e => x.entityOf o = .ok { e with id := 0 }) []
      (∅ : EntitySet).toList := List.Forall₂.nil
  exact x.forall₂_run hstart hok

/-- Every entity is that of the origin at its number. -/
theorem exists_origin_of_get? {order : List TableId} (hok : (x.extract order).failure = none)
    {id : EntityId} {e : Entity} (he : (x.extract order).state.entities.get? id = some e) :
    ∃ o, (x.origins order)[id]? = some o ∧ x.entityOf o = .ok { e with id := 0 } := by
  rw [← EntitySet.getElem?_toList] at he
  exact exists_getElem?_of_forall₂ (x.forall₂_extract hok).flip he

/-- Every origin has its entity. -/
theorem exists_get?_of_origin {order : List TableId} (hok : (x.extract order).failure = none)
    {id : EntityId} {o : Origin} (ho : (x.origins order)[id]? = some o) :
    ∃ e, (x.extract order).state.entities.get? id = some e ∧
      x.entityOf o = .ok { e with id := 0 } := by
  simp only [← EntitySet.getElem?_toList]
  exact exists_getElem?_of_forall₂ (x.forall₂_extract hok) ho

/-- Extracted links are placeholders. -/
theorem exists_placeholder_of_extract {order : List TableId}
    (hok : (x.extract order).failure = none) {e : Entity}
    (he : e ∈ (x.extract order).state.entities.toList) {l : Link} (hl : l ∈ e.links) :
    ∃ p, l.target = .placeholder p := by
  obtain ⟨id, hid⟩ := EntitySet.mem_toList_iff.1 he
  obtain ⟨o, -, ho⟩ := x.exists_origin_of_get? hok hid
  obtain ⟨entry, -, href⟩ :=
    (Extract.mem_links_of_entity (Layout.nodup_names_references ..) ho).1 hl
  obtain ⟨_, -, -, rfl⟩ := Extract.reference_eq_ok_some_iff.1 href
  exact ⟨_, rfl⟩

end Extractor

end FixturePlan
