import FixturePlan.Proofs.Report
import FixturePlan.Schema.Attach

/-!
# Tables and keys that agree

In a schema tables and keys refer to each other by positions and by names. `Schema.WellFormed` says that
these references agree: every table and every key is known by its position, every key leads from the
columns of one table to those of another, and every table lists exactly the keys that leave it and
those that lead to it. Attaching keys keeps this, also where it fails (`Schema.wellFormed_attach`).
-/

namespace FixturePlan

/-- A table that lists a key, if the table stands at one of the ends of the key. -/
def Table.listing (k : ForeignKey) (id : TableId) (t : Table) : Table :=
  { t with
    outgoing := if k.source = id then t.outgoing ++ [k.id] else t.outgoing
    incoming := if k.target = id then t.incoming ++ [k.id] else t.incoming }

namespace Schema

/-- A key leads from a table of the schema to another, and its names and positions are those of the
tables. -/
structure Joins (s : Schema) (k : ForeignKey) (source target : Table) : Prop where
  source_eq : s.table? k.source = some source
  target_eq : s.table? k.target = some target
  sourceTable_eq : k.sourceTable = source.name
  targetTable_eq : k.targetTable = target.name
  pairs : ∀ p ∈ k.pairs, source.columnIndex? p.sourceColumn = some p.sourceIndex ∧
    target.columnIndex? p.targetColumn = some p.targetIndex
  nullable_eq : k.nullable = k.pairs.any fun p => admitsNull source p.sourceIndex

/-- What refers to a table or a key finds it. -/
structure WellFormed (s : Schema) : Prop where
  table_id : ∀ id t, s.table? id = some t → t.id = id
  find?_name : ∀ t ∈ s.tables, s.find? t.name = some t.id
  primaryKey_lt : ∀ t ∈ s.tables, ∀ c ∈ t.primaryKey, c < t.columns.length
  foreignKey_id : ∀ id k, s.foreignKey? id = some k → k.id = id
  exists_joins : ∀ k ∈ s.foreignKeys, ∃ source target, s.Joins k source target
  outgoing_eq : ∀ t ∈ s.tables, t.outgoing = (s.foreignKeys.filter (·.source = t.id)).map (·.id)
  incoming_eq : ∀ t ∈ s.tables, t.incoming = (s.foreignKeys.filter (·.target = t.id)).map (·.id)

variable {s : Schema}

/-! ### Looking up

In a well-formed schema numbers are places, names are unique, and each table lists the keys that leave it
and lead to it. -/

theorem mem_tables_iff {t : Table} : t ∈ s.tables ↔ ∃ id, s.table? id = some t :=
  List.mem_iff_getElem?

theorem mem_foreignKeys_iff {k : ForeignKey} : k ∈ s.foreignKeys ↔ ∃ id, s.foreignKey? id = some k :=
  List.mem_iff_getElem?

theorem columnIndex?_lt {t : Table} {name : String} {i : Nat} (h : t.columnIndex? name = some i) :
    i < t.columns.length := (List.findIdx?_eq_some_iff_getElem.1 h).1

theorem admitsNull_eq_true_iff {t : Table} {column : Nat} :
    admitsNull t column = true ↔ ∃ c, t.columns[column]? = some c ∧ c.nullable = true := by
  rw [admitsNull]
  cases t.columns[column]? <;> simp

namespace WellFormed

variable (h : s.WellFormed)

include h

theorem find?_eq_some_iff {name : QualifiedName} {id : TableId} :
    s.find? name = some id ↔ ∃ t, s.table? id = some t ∧ t.name = name := by
  constructor
  · intro hfind
    obtain ⟨t, ht, rfl⟩ := Option.map_eq_some_iff.1 hfind
    obtain ⟨id, hid⟩ := mem_tables_iff.1 (List.mem_of_find?_eq_some ht)
    have hname : t.name = name := by simpa using List.find?_some ht
    exact ⟨t, by rwa [h.table_id id t hid], hname⟩
  · rintro ⟨t, ht, rfl⟩
    rw [h.find?_name t (mem_tables_iff.2 ⟨id, ht⟩), h.table_id id t ht]

theorem foreignKey?_id {k : ForeignKey} (hk : k ∈ s.foreignKeys) : s.foreignKey? k.id = some k := by
  obtain ⟨id, hid⟩ := mem_foreignKeys_iff.1 hk
  rwa [h.foreignKey_id id k hid]

theorem filterMap_foreignKey?_ids {ks : List ForeignKey} (hks : ∀ k ∈ ks, k ∈ s.foreignKeys) :
    (ks.map (·.id)).filterMap s.foreignKey? = ks := by
  rw [List.filterMap_map]
  refine (List.filterMap_congr fun k hk => ?_).trans List.filterMap_some
  exact h.foreignKey?_id (hks k hk)

/-- The keys that leave a table. -/
theorem outgoing {t : Table} (ht : t ∈ s.tables) :
    s.outgoing t = s.foreignKeys.filter (·.source = t.id) := by
  rw [Schema.outgoing, h.outgoing_eq t ht]
  exact h.filterMap_foreignKey?_ids fun k hk => (List.mem_filter.1 hk).1

/-- The keys that lead to a table. -/
theorem incoming {t : Table} (ht : t ∈ s.tables) :
    s.incoming t = s.foreignKeys.filter (·.target = t.id) := by
  rw [Schema.incoming, h.incoming_eq t ht]
  exact h.filterMap_foreignKey?_ids fun k hk => (List.mem_filter.1 hk).1

theorem table?_id {t : Table} (ht : t ∈ s.tables) : s.table? t.id = some t := by
  obtain ⟨id, hid⟩ := mem_tables_iff.1 ht
  rwa [h.table_id id t hid]

theorem mem_outgoing_iff {t : Table} (ht : t ∈ s.tables) {k : ForeignKey} :
    k ∈ s.outgoing t ↔ k ∈ s.foreignKeys ∧ k.source = t.id := by
  rw [h.outgoing ht, List.mem_filter, decide_eq_true_iff]

theorem mem_incoming_iff {t : Table} (ht : t ∈ s.tables) {k : ForeignKey} :
    k ∈ s.incoming t ↔ k ∈ s.foreignKeys ∧ k.target = t.id := by
  rw [h.incoming ht, List.mem_filter, decide_eq_true_iff]

theorem eq_of_id_eq {k k' : ForeignKey} (hk : k ∈ s.foreignKeys) (hk' : k' ∈ s.foreignKeys)
    (hid : k.id = k'.id) : k = k' := by
  have hfound := h.foreignKey?_id hk
  rw [hid, h.foreignKey?_id hk'] at hfound
  exact (Option.some.inj hfound).symm

end WellFormed

/-! ### Adding a key

A key with its tables and columns in place keeps a schema well-formed: it gets the next number, and its
tables list it last. -/

section AddKey

variable (s) (key : ForeignKeyId → ForeignKey)

theorem table?_addKey (id : TableId) :
    (s.addKey key).table? id =
      (s.table? id).map (Table.listing (key s.foreignKeys.length) id) := by
  simp only [addKey, modifyTable, table?, List.getElem?_modify]
  cases s.tables[id]? with
  | none => rfl
  | some t =>
    simp only [Option.map_eq_map, Option.map_some, Table.listing]
    split <;> split <;> rfl

theorem exists_of_mem_tables_addKey (h : s.WellFormed) {t : Table}
    (ht : t ∈ (s.addKey key).tables) :
    ∃ t₀ ∈ s.tables, t = t₀.listing (key s.foreignKeys.length) t₀.id := by
  obtain ⟨id, hid⟩ := mem_tables_iff.1 ht
  rw [table?_addKey] at hid
  obtain ⟨t₀, ht₀, rfl⟩ := Option.map_eq_some_iff.1 hid
  exact ⟨t₀, mem_tables_iff.2 ⟨id, ht₀⟩, by rw [h.table_id id t₀ ht₀]⟩

/-- Names and numbers of tables stay, and so does what is found. -/
theorem find?_addKey (name : QualifiedName) : (s.addKey key).find? name = s.find? name := by
  have hfind : ∀ s : Schema, s.find? name =
      ((s.tables.map fun t => (t.name, t.id)).find? (·.1 = name)).map (·.2) := by
    intro s
    rw [List.find?_map, Option.map_map]
    rfl
  rw [hfind, hfind]
  congr 2
  apply List.ext_getElem?
  intro i
  have htable := s.table?_addKey key i
  unfold table? at htable
  rw [List.getElem?_map, List.getElem?_map, htable, Option.map_map]
  rfl

theorem Joins.addKey {s : Schema} {key : ForeignKeyId → ForeignKey} {k : ForeignKey}
    {source target : Table} (h : s.Joins k source target) :
    (s.addKey key).Joins k (source.listing (key s.foreignKeys.length) k.source)
      (target.listing (key s.foreignKeys.length) k.target) where
  source_eq := by rw [table?_addKey, h.source_eq, Option.map_some]
  target_eq := by rw [table?_addKey, h.target_eq, Option.map_some]
  sourceTable_eq := h.sourceTable_eq
  targetTable_eq := h.targetTable_eq
  pairs := h.pairs
  nullable_eq := h.nullable_eq

theorem WellFormed.addKey {s : Schema} (h : s.WellFormed) {key : ForeignKeyId → ForeignKey}
    (hid : ∀ id, (key id).id = id)
    (hjoins : ∃ source target, s.Joins (key s.foreignKeys.length) source target) :
    (s.addKey key).WellFormed where
  table_id id t ht := by
    rw [table?_addKey] at ht
    obtain ⟨t₀, ht₀, rfl⟩ := Option.map_eq_some_iff.1 ht
    exact h.table_id id t₀ ht₀
  find?_name t ht := by
    obtain ⟨t₀, ht₀, rfl⟩ := exists_of_mem_tables_addKey s key h ht
    rw [find?_addKey]
    exact h.find?_name t₀ ht₀
  primaryKey_lt t ht := by
    obtain ⟨t₀, ht₀, rfl⟩ := exists_of_mem_tables_addKey s key h ht
    exact h.primaryKey_lt t₀ ht₀
  foreignKey_id id k hk := by
    -- the new key stands at the end, under the number that it was given
    unfold foreignKey? Schema.addKey at hk
    rcases Nat.lt_or_ge id s.foreignKeys.length with hlt | hge
    · rw [List.getElem?_append_left hlt] at hk
      exact h.foreignKey_id id k hk
    · rw [List.getElem?_append_right hge] at hk
      cases hpast : id - s.foreignKeys.length with
      | zero =>
        obtain rfl : key s.foreignKeys.length = k := by simpa [hpast] using hk
        exact (hid _).trans (Nat.le_antisymm hge (Nat.le_of_sub_eq_zero hpast))
      | succ n => simp [hpast] at hk
  exists_joins k hk := by
    rcases List.mem_append.1 hk with hk | hk
    · obtain ⟨source, target, hj⟩ := h.exists_joins k hk
      exact ⟨_, _, hj.addKey⟩
    · obtain rfl := List.mem_singleton.1 hk
      obtain ⟨source, target, hj⟩ := hjoins
      exact ⟨_, _, hj.addKey⟩
  outgoing_eq t ht := by
    obtain ⟨t₀, ht₀, rfl⟩ := exists_of_mem_tables_addKey s key h ht
    show (if _ then _ else _) = ((s.foreignKeys ++ [key s.foreignKeys.length]).filter _).map _
    rw [List.filter_append, List.map_append, h.outgoing_eq t₀ ht₀, List.filter_singleton]
    by_cases hk : (key s.foreignKeys.length).source = t₀.id <;> simp [Table.listing, hk]
  incoming_eq t ht := by
    obtain ⟨t₀, ht₀, rfl⟩ := exists_of_mem_tables_addKey s key h ht
    show (if _ then _ else _) = ((s.foreignKeys ++ [key s.foreignKeys.length]).filter _).map _
    rw [List.filter_append, List.map_append, h.incoming_eq t₀ ht₀, List.filter_singleton]
    by_cases hk : (key s.foreignKeys.length).target = t₀.id <;> simp [Table.listing, hk]

end AddKey

/-! ### Attaching keys

A key that is found has its tables and columns in place, and one that is not found changes nothing. -/

theorem findPair_eq_ok_iff {spec : KeySpec} {source target : Table} {pair : PairSpec} {p : KeyPair} :
    findPair spec source target pair = .ok p ↔
      p.sourceColumn = pair.sourceColumn ∧ p.targetColumn = pair.targetColumn ∧
        source.columnIndex? pair.sourceColumn = some p.sourceIndex ∧
        target.columnIndex? pair.targetColumn = some p.targetIndex := by
  unfold findPair
  obtain ⟨sourceColumn, targetColumn, sourceIndex, targetIndex⟩ := p
  cases source.columnIndex? pair.sourceColumn with
  | none => simp
  | some i =>
    cases target.columnIndex? pair.targetColumn with
    | none => simp
    | some j =>
      simp only [Except.ok.injEq, KeyPair.mk.injEq, Option.some.injEq]
      rw [eq_comm (a := pair.sourceColumn), eq_comm (a := pair.targetColumn)]

theorem columnIndex?_of_findPair {spec : KeySpec} {source target : Table} {pair : PairSpec}
    {p : KeyPair} (h : findPair spec source target pair = .ok p) :
    source.columnIndex? p.sourceColumn = some p.sourceIndex ∧
      target.columnIndex? p.targetColumn = some p.targetIndex := by
  obtain ⟨hsource, htarget, hsourceIndex, htargetIndex⟩ := findPair_eq_ok_iff.1 h
  rw [hsource, htarget]
  exact ⟨hsourceIndex, htargetIndex⟩

theorem findPairs_eq_ok_iff {spec : KeySpec} {source target : Table} {pairs : List PairSpec}
    {found : List KeyPair} :
    findPairs spec source target pairs = .ok found ↔
      List.Forall₂ (fun pair p => findPair spec source target pair = .ok p) pairs found := by
  induction pairs generalizing found with
  | nil => cases found <;> simp [findPairs]
  | cons pair rest ih =>
    rw [findPairs, List.forall₂_cons_left_iff]
    cases hpair : findPair spec source target pair with
    | error e => simp
    | ok p =>
      cases hrest : findPairs spec source target rest with
      | error e => simp [← ih, hrest]
      | ok others =>
        simp only [← ih, hrest, Except.ok.injEq, exists_and_left, exists_eq_left']
        exact eq_comm

theorem columnIndex?_of_findPairs {spec : KeySpec} {source target : Table} {pairs : List PairSpec}
    {found : List KeyPair} (h : findPairs spec source target pairs = .ok found) :
    ∀ p ∈ found, source.columnIndex? p.sourceColumn = some p.sourceIndex ∧
      target.columnIndex? p.targetColumn = some p.targetIndex := by
  induction findPairs_eq_ok_iff.1 h with
  | nil => exact nofun
  | cons hp hrest ih =>
    rw [List.forall_mem_cons]
    exact ⟨columnIndex?_of_findPair hp, ih (findPairs_eq_ok_iff.2 hrest)⟩

/-- The two tables of a key are those of its two names. -/
theorem WellFormed.endpoints?_eq_some_iff {s : Schema} (h : s.WellFormed) {spec : KeySpec}
    {source target : Table} : s.endpoints? spec = some (source, target) ↔
      (source ∈ s.tables ∧ source.name = spec.sourceTable) ∧
        target ∈ s.tables ∧ target.name = spec.targetTable := by
  -- both ends are looked up in the same way
  have hfind : ∀ name t, (s.find? name).bind s.table? = some t ↔ t ∈ s.tables ∧ t.name = name := by
    intro name t
    rw [Option.bind_eq_some_iff]
    constructor
    · rintro ⟨id, hid, ht⟩
      obtain ⟨t', ht', hname⟩ := h.find?_eq_some_iff.1 hid
      obtain rfl : t' = t := Option.some.inj (ht'.symm.trans ht)
      exact ⟨mem_tables_iff.2 ⟨id, ht⟩, hname⟩
    · rintro ⟨ht, rfl⟩
      exact ⟨t.id, h.find?_name t ht, h.table?_id ht⟩
  rw [← hfind, ← hfind]
  simp only [endpoints?, Option.bind_eq_bind, Option.pure_def]
  cases (s.find? spec.sourceTable).bind s.table? with
  | none => simp
  | some t =>
    cases (s.find? spec.targetTable).bind s.table? with
    | none => simp
    | some u => simp

theorem WellFormed.joins_keyOf {s : Schema} (h : s.WellFormed) {spec : KeySpec}
    {source target : Table} (hends : s.endpoints? spec = some (source, target))
    {found : List KeyPair} (hfound : findPairs spec source target spec.pairs = .ok found)
    (id : ForeignKeyId) : s.Joins (keyOf spec source target found id) source target := by
  obtain ⟨⟨hsource, hname⟩, htarget, hname'⟩ := h.endpoints?_eq_some_iff.1 hends
  exact ⟨h.table?_id hsource, h.table?_id htarget, hname.symm, hname'.symm,
    columnIndex?_of_findPairs hfound, rfl⟩

/-- What attaching one key can do: leave out a key whose tables are not both there, fail at a column,
or add the key. -/
theorem attachOne_cases (a : Attached) (spec : KeySpec) :
    (a.schema.endpoints? spec = none ∧
        attachOne a spec =
          .noting a (.foreignKeyDropped spec.name spec.sourceTable spec.targetTable)) ∨
      ∃ source target, a.schema.endpoints? spec = some (source, target) ∧
        ((∃ e, findPairs spec source target spec.pairs = .error e ∧
            attachOne a spec = .failing a e) ∨
          ∃ found, findPairs spec source target spec.pairs = .ok found ∧
            attachOne a spec = .done ⟨a.schema.addKey (keyOf spec source target found),
              a.keys ++ [a.schema.foreignKeys.length]⟩) := by
  unfold attachOne
  cases hends : a.schema.endpoints? spec with
  | none => exact Or.inl ⟨rfl, rfl⟩
  | some ends =>
    obtain ⟨source, target⟩ := ends
    refine Or.inr ⟨source, target, rfl, ?_⟩
    cases hfound : findPairs spec source target spec.pairs with
    | error e => exact Or.inl ⟨e, rfl, by simp only [hfound]⟩
    | ok found => exact Or.inr ⟨found, rfl, by simp only [hfound]⟩

theorem wellFormed_attachOne {a : Attached} (h : a.schema.WellFormed) (spec : KeySpec) :
    (attachOne a spec).state.schema.WellFormed := by
  rcases attachOne_cases a spec with
    ⟨-, heq⟩ | ⟨source, target, hends, ⟨e, -, heq⟩ | ⟨found, hfound, heq⟩⟩
  · rwa [heq]
  · rwa [heq]
  · rw [heq]
    exact h.addKey (fun _ => rfl) ⟨source, target, h.joins_keyOf hends hfound _⟩

/-- Attaching keys keeps a schema well-formed, whether or not it succeeds. -/
theorem wellFormed_attach {s : Schema} (h : s.WellFormed) (specs : List KeySpec) :
    (s.attach specs).state.schema.WellFormed := by
  apply Pass.state_run_of_step (P := fun a : Attached => a.schema.WellFormed) _ h
  intro a spec _ ha
  exact wellFormed_attachOne ha spec

end Schema

end FixturePlan
