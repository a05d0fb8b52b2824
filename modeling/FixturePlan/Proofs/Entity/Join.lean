import FixturePlan.Proofs.Entity.Extraction
import FixturePlan.Proofs.Entity.Resolution
import FixturePlan.Proofs.Schema.Build

/-!
# Links as an equality join

A row joins another by a foreign key if its source cells and the target cells of the other, none of
them NULL, give the same tokens as values of the target columns (`Extractor.Joins`). Provided that
attribute names tell columns apart, the entities that carry what a key looks for are those of the rows
joined by it (`carries_iff_joins`), so that after extraction and a pass that succeeds the link of a row
by a key leads to the first row that it joins.
-/

namespace FixturePlan

namespace Extractor

variable (x : Extractor)

/-- Attribute names tell apart the columns of a table, those that the schema does not describe
included. -/
structure NamesApart (order : List TableId) : Prop where
  described : ∀ t ∈ x.schema.tables,
    (t.columns.map (x.strategies.naming.attributeName t)).Nodup
  undescribed : ∀ o ∈ x.origins order, ∀ position ∈ o.columns.unknown, ∀ name,
    o.row.columns[position]? = some name → ∀ c ∈ o.table.columns,
      x.strategies.naming.attributeName o.table (Extract.undescribed name) ≠
        x.strategies.naming.attributeName o.table c

/-- A row joins another by a key: the cells of the key are equal as values of the target columns, and
none is NULL. -/
structure Joins (k : ForeignKey) (o o' : Origin) : Prop where
  table_eq : o'.table.id = k.target
  pairs : ∀ p ∈ k.pairs, ∃ a b c, o.cell? p.sourceIndex = some a ∧ a.isNull = false ∧
    o'.cell? p.targetIndex = some b ∧ b.isNull = false ∧
    o'.table.columns[p.targetIndex]? = some c ∧ x.strategies.render a c = x.strategies.render b c

/-- A row joins the extracted row of a number by a key. -/
def JoinsAt (order : List TableId) (k : ForeignKey) (o : Origin) (j : EntityId) : Prop :=
  ∃ o', (x.origins order)[j]? = some o' ∧ x.Joins k o o'

/-! ### Values that are kept

A match compares values by attribute name, so that it must be known whose value stands under a name. -/

section Kept

variable {o : Origin} {e : Entity} (he : x.entityOf o = .ok e)
  (hdistinct : (o.table.columns.map (x.strategies.naming.attributeName o.table)).Nodup)
  (hunknown : ∀ position ∈ o.columns.unknown, ∀ name, o.row.columns[position]? = some name →
    ∀ c ∈ o.table.columns,
      x.strategies.naming.attributeName o.table (Extract.undescribed name) ≠
        x.strategies.naming.attributeName o.table c)
  {column : Nat} {c : Column} (hc : o.table.columns[column]? = some c)

include hdistinct hunknown hc in
/-- A value under the name of a column is the value of that column. -/
theorem plainValue_of_name_eq {attached : List Bool} {a : Attribute}
    (ha : (∃ entry ∈ o.table.columns.zipIdx,
        Extract.plainValue x.strategies (.ofTable x.schema x.strategies.naming o.table) o.columns
          o.row attached entry = .ok (some a)) ∨
      ∃ position ∈ o.columns.unknown, Extract.unknownValue x.strategies
        (.ofTable x.schema x.strategies.naming o.table) o.row position = some a)
    (hname : a.name = x.strategies.naming.attributeName o.table c) :
    Extract.plainValue x.strategies (.ofTable x.schema x.strategies.naming o.table) o.columns
      o.row attached (c, column) = .ok (some a) := by
  -- a value of the name comes from this column, as names of columns differ, and from no unknown one
  rcases ha with ⟨⟨d, i⟩, hentry, hd⟩ | ⟨position, hposition, hu⟩
  · have hdi : o.table.columns[i]? = some d := List.mem_zipIdx_iff_getElem?.1 hentry
    have hsame := (Extract.name_of_plainValue hd).symm.trans hname
    rw [Layout.getElem?_attributes, hdi] at hsame
    have hi : column = i := by
      refine (List.getElem?_inj ?_ hdistinct).1 ?_
      · rw [List.length_map]
        exact (List.getElem?_eq_some_iff.1 hc).1
      · rw [List.getElem?_map, List.getElem?_map, hc, hdi, Option.map_some, Option.map_some]
        exact congrArg some hsame.symm
    subst hi
    obtain rfl : c = d := Option.some.inj (hc.symm.trans hdi)
    exact hd
  · obtain ⟨name, hreported, hsame⟩ := Extract.exists_name_of_unknownValue hu
    exact absurd (hsame.symm.trans hname)
      (hunknown position hposition name hreported c (List.mem_of_getElem? hc))

include he hdistinct hunknown hc in
/-- A column that some link needs has its own cell as the value under its name, and no other. -/
theorem token?_of_entityOf (hkept : (o.table.inPrimaryKey column ||
      (x.schema.incoming o.table).any (·.hasTarget column)) = true) :
    e.token? (x.strategies.naming.attributeName o.table c) =
      ((o.cell? column).filter (!·.isNull)).map (x.strategies.render · c) := by
  obtain ⟨attached, hplain, hvalues⟩ := Extract.mem_values_of_entity he
  have hlt : column < o.table.columns.length := (List.getElem?_eq_some_iff.1 hc).1
  have hconsumed := Layout.isConsumed_of_keepsValue x.schema x.strategies.naming o.table hlt hkept
    attached
  have hentry : (c, column) ∈ o.table.columns.zipIdx := List.mem_zipIdx_iff_getElem?.2 hc
  obtain ⟨v, hv⟩ := hplain (c, column) hentry
  obtain ⟨cell, hcell, hv'⟩ := (Extract.plainValue_eq_ok_iff hconsumed).1 hv
  -- only one attribute has the name, so that the first of the name is the column's own
  have hunique : ∀ a, (a ∈ e.values ∧ a.name = x.strategies.naming.attributeName o.table c) ↔
      v = some a := by
    intro a
    constructor
    · rintro ⟨ha, hname⟩
      have hown := x.plainValue_of_name_eq hdistinct hunknown hc ((hvalues a).1 ha) hname
      exact Except.ok.inj (hv.symm.trans hown)
    · intro hva
      rw [hva] at hv
      refine ⟨(hvalues a).2 (Or.inl ⟨(c, column), hentry, hv⟩), ?_⟩
      rw [Extract.name_of_plainValue hv, Layout.getElem?_attributes, hc]
      rfl
  have hcell' : o.cell? column = some cell := Extract.read_eq_ok_iff.1 hcell
  rw [Entity.token?, Entity.attribute?_eq_of_unique hunique, hv', hcell', Option.filter_some]
  cases cell.isNull <;> rfl

end Kept

/-! ### What a key looks for

A placeholder has one token for each pair of columns of its key, or none where the cell is NULL. -/

section Key

variable {x} (hs : x.schema.WellFormed) {o : Origin} (ho : o.table ∈ x.schema.tables)
  {k : ForeignKey} (hk : k ∈ x.schema.foreignKeys) {u : Table}
  (hu : x.schema.table? k.target = some u)

/-- What the column pairs of a key look for in a row. -/
abbrev sought (x : Extractor) (o : Origin) (k : ForeignKey) :
    Except ExtractError (List (Option (String × Token))) :=
  Extract.mapOk (Extract.keyValue x.schema x.strategies
    (.ofTable x.schema x.strategies.naming o.table) o.columns o.row k) k.pairs

include hs hk hu in
theorem exists_column {p : KeyPair} (hp : p ∈ k.pairs) :
    ∃ c, u.columns[p.targetIndex]? = some c ∧
      (u.inPrimaryKey p.targetIndex ||
        (x.schema.incoming u).any (·.hasTarget p.targetIndex)) = true := by
  obtain ⟨source, target, hj⟩ := hs.exists_joins k hk
  obtain rfl : target = u := Option.some.inj (hj.target_eq.symm.trans hu)
  have hlt := Schema.columnIndex?_lt (hj.pairs p hp).2
  refine ⟨_, List.getElem?_eq_getElem hlt, ?_⟩
  have hincoming : k ∈ x.schema.incoming target :=
    (hs.mem_incoming_iff (List.mem_of_getElem? hu)).2 ⟨hk, (hs.table_id _ _ hu).symm⟩
  rw [Bool.or_eq_true]
  exact Or.inr (List.any_eq_true.2 ⟨k, hincoming, List.any_eq_true.2 ⟨p, hp, by simp⟩⟩)

theorem keyValue_eq_ok_iff (hu : x.schema.table? k.target = some u) {p : KeyPair} {c : Column}
    (hc : u.columns[p.targetIndex]? = some c) {v : Option (String × Token)} :
    Extract.keyValue x.schema x.strategies (.ofTable x.schema x.strategies.naming o.table) o.columns
        o.row k p = .ok v ↔
      ∃ a, o.cell? p.sourceIndex = some a ∧ v = if a.isNull then none else
        some (x.strategies.naming.attributeName u c, x.strategies.render a c) := by
  simp only [Extract.keyValue_eq_ok_iff, hu, hc, Option.bind_eq_bind, Option.bind_some,
    Option.pure_def]
  exact exists_congr fun a => and_congr_left' Extract.read_eq_ok_iff

variable {found : List (Option (String × Token))} (hfound : x.sought o k = .ok found)

include hs hk hu hfound in
theorem none_mem_sought_iff :
    none ∈ found ↔ ∃ p ∈ k.pairs, ∃ a, o.cell? p.sourceIndex = some a ∧ a.isNull = true := by
  rw [Extract.mem_of_mapOk hfound]
  refine exists_congr fun p => and_congr_right fun hp => ?_
  obtain ⟨c, hc, -⟩ := exists_column hs hk hu hp
  rw [keyValue_eq_ok_iff hu hc]
  refine exists_congr fun a => and_congr_right fun _ => ?_
  cases a.isNull <;> simp

include hs hk hu hfound in
theorem some_mem_sought_iff {kv : String × Token} :
    some kv ∈ found ↔ ∃ p ∈ k.pairs, ∃ a c, o.cell? p.sourceIndex = some a ∧ a.isNull = false ∧
      u.columns[p.targetIndex]? = some c ∧
      kv = (x.strategies.naming.attributeName u c, x.strategies.render a c) := by
  rw [Extract.mem_of_mapOk hfound]
  refine exists_congr fun p => and_congr_right fun hp => ?_
  obtain ⟨c, hc, -⟩ := exists_column hs hk hu hp
  rw [keyValue_eq_ok_iff hu hc]
  refine exists_congr fun a => ?_
  cases a.isNull <;> simp [hc]

/-- The placeholder of a key with the values found for it. -/
abbrev placeholderOf (k : ForeignKey) (found : List (Option (String × Token))) : Placeholder :=
  ⟨k.target, k.id, found.filterMap id⟩

include hs hk hu hfound in
/-- The entities that have the values looked for are those of the rows that the row joins. -/
theorem carries_iff_joins {order : List TableId} (hnames : x.NamesApart order)
    (hcomplete : none ∉ found) {o' : Origin} {e' : Entity} (ho' : o' ∈ x.origins order)
    (he' : x.entityOf o' = .ok e') :
    (e'.table = k.target ∧ e'.carries (placeholderOf k found) = true) ↔ x.Joins k o o' := by
  have htable : e'.table = o'.table.id := Extract.table_of_entity he'
  have hmem := x.table_mem_of_mem_origins ho'
  have hsame : o'.table.id = k.target → o'.table = u := fun hid =>
    Option.some.inj ((hs.table?_id hmem).symm.trans (hid ▸ hu))
  -- the values of the row of `o'` in the columns of the key
  have htoken : ∀ {p c}, p ∈ k.pairs → o'.table = u → u.columns[p.targetIndex]? = some c →
      e'.token? (x.strategies.naming.attributeName u c) =
        ((o'.cell? p.targetIndex).filter (!·.isNull)).map (x.strategies.render · c) := by
    intro p c hp heq hc
    obtain ⟨c', hc', hkept⟩ := exists_column hs hk hu hp
    subst heq
    exact x.token?_of_entityOf he' (hnames.described _ hmem) (hnames.undescribed o' ho') hc hkept
  rw [htable, Entity.carries_eq_true_iff]
  constructor
  · -- each pair of a complete key looks for a value, and the entity has it
    rintro ⟨hid, hcarries⟩
    refine ⟨hid, fun p hp => ?_⟩
    obtain ⟨c, hc, -⟩ := exists_column hs hk hu hp
    obtain ⟨v, hv⟩ := Extract.exists_of_mapOk hfound hp
    obtain ⟨a, ha, -⟩ := (keyValue_eq_ok_iff hu hc).1 hv
    have hnull : a.isNull = false := by
      refine Bool.eq_false_iff.2 fun hnull => hcomplete ?_
      exact (none_mem_sought_iff hs hk hu hfound).2 ⟨p, hp, a, ha, hnull⟩
    have hkv := (some_mem_sought_iff hs hk hu hfound).2 ⟨p, hp, a, c, ha, hnull, hc, rfl⟩
    have hvalue := hcarries _ (List.mem_filterMap.2 ⟨_, hkv, rfl⟩)
    rw [htoken hp (hsame hid) hc] at hvalue
    simp only [Option.map_eq_some_iff, Option.filter_eq_some_iff, Bool.not_eq_true'] at hvalue
    obtain ⟨b, ⟨hb, hbnull⟩, hrender⟩ := hvalue
    exact ⟨a, b, c, ha, hnull, hb, hbnull, hsame hid ▸ hc, hrender.symm⟩
  · -- what is looked for comes from some pair, whose cells are equal
    rintro ⟨hid, hpairs⟩
    refine ⟨hid, fun kv hkv => ?_⟩
    obtain ⟨_, hsome, rfl⟩ := List.mem_filterMap.1 hkv
    obtain ⟨p, hp, a, c, ha, hnull, hc, rfl⟩ := (some_mem_sought_iff hs hk hu hfound).1 hsome
    obtain ⟨a', b, c', ha', -, hb, hbnull, hc', hrender⟩ := hpairs p hp
    obtain rfl : a' = a := Option.some.inj (ha'.symm.trans ha)
    obtain rfl : c' = c := Option.some.inj (hc'.symm.trans (hsame hid ▸ hc))
    rw [htoken hp (hsame hid) hc, hb]
    simp [hbnull, hrender]

include hs hk hfound in
theorem keyWidth_eq : Resolving.keyWidth x.schema (placeholderOf k found) = found.length := by
  rw [Resolving.keyWidth, hs.foreignKey?_id hk, Option.map_some, Option.getD_some]
  exact (Extract.mapOk_eq_ok_iff.1 hfound).length_eq

include hs hk hfound in
/-- A key of which some column is NULL matches nothing. -/
theorem match?_of_incomplete (hnull : none ∈ found) (entities : EntitySet) :
    Resolving.match? x.schema entities (placeholderOf k found) = none := by
  rw [Resolving.match?, keyWidth_eq hs hk hfound, if_pos]
  exact List.length_filterMap_lt_length_iff_exists.2 ⟨none, hnull, rfl⟩

include hs hk hfound in
theorem match?_of_complete (hcomplete : none ∉ found) (entities : EntitySet) :
    Resolving.match? x.schema entities (placeholderOf k found) =
      entities.firstMatch? (placeholderOf k found) := by
  rw [Resolving.match?, keyWidth_eq hs hk hfound, if_neg]
  rintro hlt
  obtain ⟨v, hv, hnone⟩ := List.length_filterMap_lt_length_iff_exists.1 hlt
  obtain rfl : v = none := hnone
  exact hcomplete hv

/-! ### The links of a row by a key

A row can have no more than one link by a key, and where that leads is told by the tokens that the key
looks for. -/

section Links

variable {e : Entity} (he : x.entityOf o = .ok { e with id := 0 }) (hout : k ∈ x.schema.outgoing o.table)

include he hout in
theorem exists_sought : ∃ found, x.sought o k = .ok found := by
  obtain ⟨name, hmem⟩ := Layout.exists_mem_references x.schema x.strategies.naming o.table hout
  obtain ⟨link, hlink⟩ := Extract.exists_reference_of_entity he hmem
  obtain ⟨found, hfound, -⟩ := Extract.reference_eq_ok_iff.1 hlink
  exact ⟨found, hfound⟩

include hs ho hk in
/-- Keys of one number are one key. -/
theorem key_of_reference {k' : ForeignKey} {name : String} {l : Link}
    (hentry : (k', name) ∈ (Layout.ofTable x.schema x.strategies.naming o.table).references)
    (href : Extract.reference x.schema x.strategies (.ofTable x.schema x.strategies.naming o.table)
      o.columns o.row (k', name) = .ok (some l)) (hid : l.foreignKey = k.id) : k' = k := by
  have hout := Layout.mem_outgoing_of_mem_references x.schema x.strategies.naming o.table hentry
  obtain ⟨_, -, -, rfl⟩ := Extract.reference_eq_ok_some_iff.1 href
  exact hs.eq_of_id_eq ((hs.mem_outgoing_iff ho).1 hout).1 hk hid

include hs ho hk he in
/-- A link of a row by a key is the one that the key gives. -/
theorem exists_entry_of_mem_links {l : Link} (hl : l ∈ e.links) (hid : l.foreignKey = k.id) :
    ∃ name, (k, name) ∈ (Layout.ofTable x.schema x.strategies.naming o.table).references ∧
      Extract.reference x.schema x.strategies (.ofTable x.schema x.strategies.naming o.table)
        o.columns o.row (k, name) = .ok (some l) := by
  obtain ⟨⟨k', name⟩, hentry, href⟩ :=
    (Extract.mem_links_of_entity (Layout.nodup_names_references ..) he).1 hl
  obtain rfl := key_of_reference hs ho hk hentry href hid
  exact ⟨name, hentry, href⟩

include hs ho hk hfound he in
theorem target_of_mem_links {l : Link} (hl : l ∈ e.links) (hid : l.foreignKey = k.id) :
    l.target = .placeholder (placeholderOf k found) := by
  obtain ⟨name, -, href⟩ := exists_entry_of_mem_links hs ho hk he hl hid
  obtain ⟨found', hfound', -, rfl⟩ := Extract.reference_eq_ok_some_iff.1 href
  obtain rfl : found' = found := Except.ok.inj (hfound'.symm.trans hfound)
  rfl

include hs ho hk he in
/-- A link by a key is required if and only if the key is NOT NULL. -/
theorem mem_required_iff_of_mem_links {l : Link} (hl : l ∈ e.links) (hid : l.foreignKey = k.id) :
    l ∈ e.required ↔ k.nullable = false := by
  constructor
  · intro hrequired
    obtain ⟨⟨k', name⟩, hentry, hnullable, href⟩ := (Extract.mem_required_of_entity he).1 hrequired
    obtain rfl := key_of_reference hs ho hk hentry href hid
    exact hnullable
  · intro hnullable
    obtain ⟨name, hentry, href⟩ := exists_entry_of_mem_links hs ho hk he hl hid
    exact (Extract.mem_required_of_entity he).2 ⟨(k, name), hentry, hnullable, href⟩

include hfound he hout in
/-- A row has a link by a key that is complete or NOT NULL. -/
theorem exists_link (h : none ∉ found ∨ k.nullable = false) : ∃ l ∈ e.links, l.foreignKey = k.id := by
  obtain ⟨name, hmem⟩ := Layout.exists_mem_references x.schema x.strategies.naming o.table hout
  have hcond : (k.nullable && found.any (·.isNone)) = false := by
    rcases h with h | h
    · have hany : found.any (·.isNone) = false := by
        refine List.any_eq_false.2 fun v hv hnone => h ?_
        rwa [Option.isNone_iff_eq_none.1 hnone] at hv
      rw [hany, Bool.and_false]
    · rw [h, Bool.false_and]
  refine ⟨⟨name, k.id, .placeholder (placeholderOf k found)⟩, ?_, rfl⟩
  refine (Extract.mem_links_of_entity (Layout.nodup_names_references ..) he).2
    ⟨(k, name), hmem, ?_⟩
  exact Extract.reference_eq_ok_some_iff.2 ⟨found, hfound, hcond, rfl⟩

end Links

variable {order : List TableId} (hnames : x.NamesApart order)
  (hextract : (x.extract order).failure = none) (hcomplete : none ∉ found)

include hs hk hu hfound hnames hextract hcomplete

theorem carriesAt_iff_joinsAt {j : EntityId} :
    (x.extract order).state.entities.CarriesAt (placeholderOf k found) j ↔
      x.JoinsAt order k o j := by
  constructor
  · rintro ⟨e', he', hmatch⟩
    obtain ⟨o', ho', hentity⟩ := x.exists_origin_of_get? hextract he'
    exact ⟨o', ho', (carries_iff_joins hs hk hu hfound hnames hcomplete
      (List.mem_of_getElem? ho') hentity).1 hmatch⟩
  · rintro ⟨o', ho', hjoins⟩
    obtain ⟨e', he', hentity⟩ := x.exists_get?_of_origin hextract ho'
    exact ⟨e', he', (carries_iff_joins hs hk hu hfound hnames hcomplete
      (List.mem_of_getElem? ho') hentity).2 hjoins⟩

/-- The match of a complete key is the first row that the row joins. -/
theorem match?_eq_some_iff {j : EntityId} :
    Resolving.match? x.schema (x.extract order).state.entities (placeholderOf k found) = some j ↔
      x.JoinsAt order k o j ∧ ∀ i < j, ¬x.JoinsAt order k o i := by
  rw [match?_of_complete hs hk hfound hcomplete, EntitySet.firstMatch?_eq_some_iff]
  simp only [carriesAt_iff_joinsAt hs hk hu hfound hnames hextract hcomplete]

theorem match?_eq_none_iff :
    Resolving.match? x.schema (x.extract order).state.entities (placeholderOf k found) = none ↔
      ∀ j, ¬x.JoinsAt order k o j := by
  rw [match?_of_complete hs hk hfound hcomplete, EntitySet.firstMatch?_eq_none_iff]
  simp only [carriesAt_iff_joinsAt hs hk hu hfound hnames hextract hcomplete]

omit hcomplete in
/-- Complete or not: a key with a NULL has no match, and joins nothing. -/
theorem match?_eq_some_iff_joinsAt {j : EntityId} :
    Resolving.match? x.schema (x.extract order).state.entities (placeholderOf k found) = some j ↔
      x.JoinsAt order k o j ∧ ∀ i < j, ¬x.JoinsAt order k o i := by
  by_cases hnull : none ∈ found
  · rw [match?_of_incomplete hs hk hfound hnull]
    refine ⟨nofun, fun ⟨⟨o', _, hjoins⟩, _⟩ => ?_⟩
    obtain ⟨p, hp, a, ha, hanull⟩ := (none_mem_sought_iff hs hk hu hfound).1 hnull
    obtain ⟨a', _, _, ha', hanull', -⟩ := hjoins.pairs p hp
    obtain rfl : a' = a := Option.some.inj (ha'.symm.trans ha)
    rw [hanull] at hanull'
    cases hanull'
  · exact match?_eq_some_iff hs hk hu hfound hnames hextract hnull

end Key

/-! ### After matching

What is left to do is to carry this through a pass that succeeds. -/

/-- After a pass that succeeds, the link of a row by a key leads to the first row that the row joins,
and otherwise nowhere. -/
theorem linkedBy_resolved_iff {order : List TableId} {o : Origin} {e : Entity}
    (hs : x.schema.WellFormed) (hnames : x.NamesApart order)
    (hextract : (x.extract order).failure = none) (hentity : x.entityOf o = .ok { e with id := 0 })
    (ho : o.table ∈ x.schema.tables) {k : ForeignKey} (hout : k ∈ x.schema.outgoing o.table)
    {j : EntityId} :
    (e.settled (Resolving.match? x.schema (x.extract order).state.entities)).LinkedBy k.id
        (.resolved j) ↔
      x.JoinsAt order k o j ∧ ∀ i < j, ¬x.JoinsAt order k o i := by
  have hk := ((hs.mem_outgoing_iff ho).1 hout).1
  obtain ⟨_, u, hj⟩ := hs.exists_joins k hk
  obtain ⟨found, hfound⟩ := exists_sought hentity hout
  -- every link of the key waits for the same values, so that one answer settles all of them
  have htarget : ∀ l ∈ e.links, l.foreignKey = k.id →
      l.target = .placeholder (placeholderOf k found) :=
    fun l hl hid => target_of_mem_links hs ho hk hfound hentity hl hid
  rw [← match?_eq_some_iff_joinsAt hs hk hj.target_eq hfound hnames hextract]
  constructor
  · rintro ⟨⟨l, hl, hid⟩, hresolved⟩
    have hlj := hresolved l hl hid
    cases hmatch : Resolving.match? x.schema (x.extract order).state.entities
        (placeholderOf k found) with
    | none =>
      obtain ⟨hunresolved, -⟩ := Entity.unresolved_of_mem_settled htarget hmatch hl hid
      rw [hunresolved] at hlj
      cases hlj
    | some j' =>
      obtain ⟨l', hl', rfl⟩ := Entity.exists_of_mem_links_settled hl
      rw [Link.foreignKey_settled] at hid
      have hlj' := (l'.target_settled_eq_resolved_iff).2 (Or.inr ⟨_, htarget l' hl' hid, hmatch⟩)
      rw [hlj'] at hlj
      exact congrArg some (Reference.resolved.inj hlj)
  · intro hmatch
    -- with a null among the values nothing is looked for
    have hcomplete : none ∉ found := by
      intro hnull
      rw [match?_of_incomplete hs hk hfound hnull] at hmatch
      cases hmatch
    exact Entity.linkedBy_settled ⟨exists_link hfound hentity hout (Or.inl hcomplete), htarget⟩ hmatch

/-- After extraction from a built schema and a pass that succeeds, the links of a row by a key are those
of an equality join. If no cell of the key is NULL in the row, the link leads to the first row that the
row joins; where it joins none, the link is gone or, by a NOT NULL key, marked. If some cell is NULL,
no link by the key leads anywhere. -/
theorem links_join {metadata : Source} {exclude : List Text.Pattern} {name : String}
    {order : List TableId} {policy : UnresolvedPolicy}
    (hbuild : (Schema.build metadata exclude name).result = .ok x.schema)
    (hnames : x.NamesApart order) (hextract : (x.extract order).failure = none)
    (hresolve : ((x.extract order).state.entities.resolve x.schema policy).failure = none)
    {i : EntityId} {o : Origin} (ho : (x.origins order)[i]? = some o) :
    ∃ e₀ e, (x.extract order).state.entities.get? i = some e₀ ∧
      x.entityOf o = .ok { e₀ with id := 0 } ∧
      ((x.extract order).state.entities.resolve x.schema policy).state.entities.get? i = some e ∧
      ∀ k ∈ x.schema.outgoing o.table,
        ((∀ p ∈ k.pairs, ∃ a, o.cell? p.sourceIndex = some a ∧ a.isNull = false) →
          (∀ j, x.JoinsAt order k o j → (∀ j' < j, ¬x.JoinsAt order k o j') →
            e.LinkedBy k.id (.resolved j)) ∧
          ((∀ j, ¬x.JoinsAt order k o j) →
            (k.nullable = true → ∀ l ∈ e.links, l.foreignKey ≠ k.id) ∧
            (k.nullable = false → policy = .warn ∧ ∃ q, e.LinkedBy k.id (.unresolved q)))) ∧
        ((∃ p ∈ k.pairs, ∃ a, o.cell? p.sourceIndex = some a ∧ a.isNull = true) →
          ∀ l ∈ e.links, l.foreignKey = k.id → ∀ j, l.target ≠ .resolved j) := by
  have hs := Schema.wellFormed_of_build hbuild
  have htable := x.table_mem_of_mem_origins (List.mem_of_getElem? ho)
  obtain ⟨e₀, he₀, hentity⟩ := x.exists_get?_of_origin hextract ho
  refine ⟨e₀, e₀.settled (Resolving.match? x.schema (x.extract order).state.entities), he₀, hentity,
    ?_, ?_⟩
  · rw [EntitySet.entities_resolve hresolve, EntitySet.settled, EntitySet.get?_map, he₀,
      Option.map_some]
  intro k hout
  have hk := ((hs.mem_outgoing_iff htable).1 hout).1
  obtain ⟨_, u, hj⟩ := hs.exists_joins k hk
  have hu := hj.target_eq
  obtain ⟨found, hfound⟩ := exists_sought hentity hout
  have htarget : ∀ l ∈ e₀.links, l.foreignKey = k.id →
      l.target = .placeholder (placeholderOf k found) :=
    fun l hl hid => target_of_mem_links hs htable hk hfound hentity hl hid
  refine ⟨fun hcells => ?_, fun hnull l hl hid j hj => ?_⟩
  · have hcomplete : none ∉ found := by
      rw [none_mem_sought_iff hs hk hu hfound]
      rintro ⟨p, hp, a, ha, hnull⟩
      obtain ⟨a', ha', hnull'⟩ := hcells p hp
      obtain rfl : a' = a := Option.some.inj (ha'.symm.trans ha)
      simp [hnull] at hnull'
    refine ⟨fun j hjoins hfirst => ?_, fun hnone => ?_⟩
    · have hmatch := (match?_eq_some_iff hs hk hu hfound hnames hextract hcomplete).2 ⟨hjoins, hfirst⟩
      exact Entity.linkedBy_settled ⟨exists_link hfound hentity hout (Or.inl hcomplete), htarget⟩
        hmatch
    · have hmatch := (match?_eq_none_iff hs hk hu hfound hnames hextract hcomplete).2 hnone
      refine ⟨fun hnullable l hl hid => ?_, fun hnullable => ?_⟩
      · -- what is left after matching was required, which a nullable key is not
        obtain ⟨-, l', hl', hid'⟩ := Entity.unresolved_of_mem_settled htarget hmatch hl hid
        have hnot := (mem_required_iff_of_mem_links hs htable hk hentity
          (List.mem_append_left _ hl') hid').1 hl'
        simp [hnullable] at hnot
      · obtain ⟨l, hl, hid⟩ := exists_link hfound hentity hout (Or.inr hnullable)
        have hrequired := (mem_required_iff_of_mem_links hs htable hk hentity hl hid).2 hnullable
        refine ⟨?_, _, Entity.linkedBy_unresolved_settled hrequired hid htarget hmatch⟩
        cases policy with
        | warn => rfl
        | fail =>
          -- a strict pass would have stopped at this link
          exact absurd hmatch (EntitySet.match?_ne_none_of_mem_required hresolve he₀ hrequired
            (htarget l hl hid))
  · have hincomplete := (none_mem_sought_iff hs hk hu hfound).2 hnull
    obtain ⟨hunresolved, -⟩ := Entity.unresolved_of_mem_settled htarget
      (match?_of_incomplete hs hk hfound hincomplete _) hl hid
    simp [hunresolved] at hj

/-! ### A sample

Visits refer to cities by country and name. The first visit is to a city that is there, the second has
no name of a city. -/

/-- A column of text. -/
def sampleColumn (name : String) : ColumnInfo :=
  ⟨some name, 0, "text", TypeCode.other, false, false, none, none⟩

/-- The columns of visits and cities, their key, and two visits to one city. -/
def sampleSource : Source where
  listTables _ := .ok [.table "main" "visit", .table "main" "city"]
  columns info := .ok (["country", if info.name = "city" then "name" else "city"].map sampleColumn)
  primaryKey _ := .ok []
  importedKeys info := .ok (if info.name = "city" then [] else
    [⟨"at", 1, "country", "main", "city", "country", 1⟩,
      ⟨"at", 1, "city", "main", "city", "name", 2⟩])
  vendor _ := .ok ∅
  scan _ table _ := .ok (if table = "city" then
      ⟨[[⟨["country", "name"], [.text "it", .text "rome"]⟩]], none⟩
    else
      ⟨[[⟨["country", "city"], [.text "it", .text "rome"]⟩,
        ⟨["country", "city"], [.text "it", .null]⟩]], none⟩)

/-- A table of the sample without its keys. -/
def sampleTable (id : TableId) (name column : String) : Table :=
  { id, name := ⟨"main", name⟩, primaryKey := [], outgoing := [], incoming := []
    columns := ["country", column].map fun name =>
      ⟨name, ⟨"text", TypeCode.other, false, none, none⟩, false, false⟩ }

/-- The key from visits to cities. -/
def sampleKey : KeySpec :=
  ⟨"at", ⟨"main", "visit"⟩, ⟨"main", "city"⟩, [⟨1, "country", "country"⟩, ⟨2, "city", "name"⟩]⟩

/-- The schema of the sample. -/
def sampleSchema : Schema :=
  let tables := [sampleTable 0 "visit" "city", sampleTable 1 "city" "name"]
  ({ Schema.empty "main" with tables }.attach [sampleKey]).state.schema

theorem result_build_sampleSource :
    (Schema.build sampleSource [] "main").result = .ok sampleSchema := by
  have hsorted : [(⟨1, "country", "country"⟩ : PairSpec), ⟨2, "city", "name"⟩].mergeSort
      (fun a b => a.sequence ≤ b.sequence) = [⟨1, "country", "country"⟩, ⟨2, "city", "name"⟩] :=
    List.mergeSort_of_pairwise (by decide)
  have hkeys : KeySpec.aggregate (.table "main" "visit")
      [⟨"at", 1, "country", "main", "city", "country", 1⟩,
        ⟨"at", 1, "city", "main", "city", "name", 2⟩] = [sampleKey] := by
    simp [KeySpec.aggregate, KeySpec.addRow, KeySpec.nameOf, KeySpec.pairOf, KeySpec.ordered,
      hsorted, sampleKey, TableInfo.table]
  have htable : ∀ id name column, (Schema.loadColumns sampleSource (.table "main" name)).result =
        .ok (sampleTable id name column).columns →
      (Schema.loadTable sampleSource (.table "main" name, id)).result =
        .ok (sampleTable id name column) := by
    intro id name column hcolumns
    refine Schema.result_loadTable_eq_ok_iff.2 ⟨_, [], hcolumns, ?_, rfl⟩
    exact Schema.result_loadPrimaryKey_eq_ok_iff.2 ⟨[], rfl, by rw [List.mergeSort_nil]; rfl⟩
  refine Schema.result_build_eq_ok_iff.2
    ⟨_, [sampleTable 0 "visit" "city", sampleTable 1 "city" "name"], sampleSchema, ∅, rfl,
      by decide, ?_, ?_, rfl, rfl⟩
  · exact Report.result_mapList_eq_ok_iff.2
      (.cons (htable 0 _ _ rfl) (.cons (htable 1 _ _ rfl) .nil))
  · refine Report.result_andThen_eq_ok_iff.2 ⟨sampleSchema, ?_, rfl⟩
    refine Schema.result_loadKeys_eq_ok_iff.2
      ⟨[⟨"at", 1, "country", "main", "city", "country", 1⟩,
        ⟨"at", 1, "city", "main", "city", "name", 2⟩], rfl, ?_, ?_⟩
    · rw [hkeys]
      decide
    · rw [hkeys]
      rfl

/-- What extracts the sample. -/
def sampleExtractor : Extractor :=
  ⟨sampleSchema, sampleSource, ⟨.verbatim, fun _ => "", fun cell _ _ _ => ⟨cell.shown⟩⟩, 100⟩

theorem failure_extract_sampleExtractor : (sampleExtractor.extract [0, 1]).failure = none := by
  decide

theorem links_join_sample :
    ∃ e, ((sampleExtractor.extract [0, 1]).state.entities.resolve sampleSchema
        .warn).state.entities.get? 0 = some e ∧ e.LinkedBy 0 (.resolved 2) := by
  have hnames : sampleExtractor.NamesApart [0, 1] := by
    have hknown : ∀ o ∈ sampleExtractor.origins [0, 1], o.columns.unknown = [] := by decide
    refine ⟨by decide, ?_⟩
    intro o ho position hposition
    rw [hknown o ho] at hposition
    cases hposition
  have hresolve : ((sampleExtractor.extract [0, 1]).state.entities.resolve sampleSchema
      .warn).failure = none := EntitySet.failure_resolve_eq_none_iff.2 nofun
  obtain ⟨o, ho⟩ : ∃ o, (sampleExtractor.origins [0, 1])[0]? = some o := ⟨_, rfl⟩
  obtain ⟨-, e, -, -, he, hlinks⟩ := links_join sampleExtractor result_build_sampleSource hnames
    failure_extract_sampleExtractor hresolve ho
  obtain rfl := Option.some.inj ho
  refine ⟨e, he, ((hlinks _ (List.mem_of_getElem? (i := 0) rfl)).1 ?_).1 2 ?_ ?_⟩
  · exact List.forall_mem_cons.2 ⟨⟨.text "it", rfl, rfl⟩,
      List.forall_mem_cons.2 ⟨⟨.text "rome", rfl, rfl⟩, nofun⟩⟩
  · exact ⟨_, rfl, rfl, List.forall_mem_cons.2
      ⟨⟨.text "it", .text "it", _, rfl, rfl, rfl, rfl, rfl, rfl⟩, List.forall_mem_cons.2
        ⟨⟨.text "rome", .text "rome", _, rfl, rfl, rfl, rfl, rfl, rfl⟩, nofun⟩⟩⟩
  -- the first two rows are visits, and the key leads to a city
  · rintro j hj ⟨o', ho', hjoins⟩
    have htable : ∀ j < 2, (sampleExtractor.origins [0, 1])[j]?.map (·.table.id) = some 0 := by
      decide
    have hid := htable j hj
    rw [ho', Option.map_some, hjoins.table_eq] at hid
    exact absurd hid (by decide)

end Extractor

end FixturePlan
