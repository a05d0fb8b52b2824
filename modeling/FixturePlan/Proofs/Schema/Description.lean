import FixturePlan.Proofs.Schema.Build
import FixturePlan.Proofs.Schema.Grouping

/-!
# Schemas as they are described

A source lists tables and describes them (`Description`). A build from it succeeds if and only if the
description of the tables that are not excluded is sound (`Schema.exists_build_iff`): they have
different names, and their keys name columns that are there. The schema then has these tables in the
order of the list, and table by table the keys that lead to one of them (`Schema.built_of_build`).

A schema under construction has its tables from the first key on (`Description.Holds`), so that each
key depends on the description alone and not on the keys before it.
-/

namespace FixturePlan

/-- The keys of a table leave it. -/
theorem KeySpec.sourceTable_of_mem_aggregate {table : TableInfo} {rows : List ImportedKey}
    {spec : KeySpec} (h : spec ∈ aggregate table rows) :
    spec.sourceTable = Schema.qualified table :=
  (madeOf_of_mem h).source_eq

/-! ### Descriptions

What a source says about tables, as functions of the tables and without calls that can fail. -/

/-- What a source says about the schema of a name and about its tables. -/
structure Description where
  name : String
  columns : TableInfo → List ColumnInfo
  primaryKey : TableInfo → List KeyColumn
  importedKeys : TableInfo → List ImportedKey
  vendor : Vendor

namespace Description

variable (d : Description)

/-- The columns of a table that have a name. -/
def namedColumns (info : TableInfo) : List Column := (d.columns info).filterMap Schema.columnOf?

/-- The position of a column among those that have a name. -/
def position? (info : TableInfo) (column : String) : Option Nat :=
  (d.namedColumns info).findIdx? (·.name == column)

/-- The foreign keys of a table, each with all its pairs. -/
def keys (info : TableInfo) : List KeySpec := KeySpec.aggregate info (d.importedKeys info)

/-- A table has a column of a name. -/
def HasColumn (info : TableInfo) (column : String) : Prop :=
  ∃ c ∈ d.columns info, c.name = some column

instance (info : TableInfo) (column : String) : Decidable (d.HasColumn info column) :=
  inferInstanceAs (Decidable (∃ c ∈ d.columns info, c.name = some column))

/-- All columns of a key are there, on the side of the one table and on that of the other. -/
def HasColumns (info target : TableInfo) (spec : KeySpec) : Prop :=
  ∀ pair ∈ spec.pairs, d.HasColumn info pair.sourceColumn ∧ d.HasColumn target pair.targetColumn

instance (info target : TableInfo) (spec : KeySpec) : Decidable (d.HasColumns info target spec) :=
  inferInstanceAs (Decidable (∀ pair ∈ spec.pairs,
    d.HasColumn info pair.sourceColumn ∧ d.HasColumn target pair.targetColumn))

/-- A key of a table leads to none of some tables, or has its columns in the one it leads to. -/
def Attachable (infos : List TableInfo) (info : TableInfo) (spec : KeySpec) : Prop :=
  ∀ target ∈ infos, Schema.qualified target = spec.targetTable → d.HasColumns info target spec

instance (infos : List TableInfo) (info : TableInfo) (spec : KeySpec) :
    Decidable (d.Attachable infos info spec) :=
  inferInstanceAs (Decidable (∀ target ∈ infos,
    Schema.qualified target = spec.targetTable → d.HasColumns info target spec))

/-- Tables have different names, and their keys have the columns they name. A foreign key that leads to
none of the tables may name any columns. -/
structure Sound (infos : List TableInfo) : Prop where
  nodup : (infos.map Schema.qualified).Nodup
  primaryKey : ∀ info ∈ infos, ∀ key ∈ d.primaryKey info, d.HasColumn info key.column
  foreignKeys : ∀ info ∈ infos, ∀ spec ∈ d.keys info, d.Attachable infos info spec

/-- A table is as it is described, but for its number and its lists of keys. -/
structure TableBuilt (info : TableInfo) (t : Table) : Prop where
  name_eq : t.name = Schema.qualified info
  columns_eq : t.columns = d.namedColumns info
  primaryKey : ∃ key, SortedBy (·.sequence) (d.primaryKey info) key ∧
    List.Forall₂ (fun k position => d.position? info k.column = some position) key t.primaryKey

/-- The columns of a pair stand where its positions say. -/
structure PairBuilt (info target : TableInfo) (pair : PairSpec) (p : KeyPair) : Prop where
  sourceColumn_eq : p.sourceColumn = pair.sourceColumn
  targetColumn_eq : p.targetColumn = pair.targetColumn
  sourceIndex_eq : d.position? info pair.sourceColumn = some p.sourceIndex
  targetIndex_eq : d.position? target pair.targetColumn = some p.targetIndex

/-- A key between two tables is as it is described, but for its number and theirs. -/
structure KeyBetween (info target : TableInfo) (spec : KeySpec) (k : ForeignKey) : Prop where
  name_eq : k.name = spec.name
  sourceTable_eq : k.sourceTable = spec.sourceTable
  targetTable_eq : k.targetTable = spec.targetTable
  ascending : spec.pairs.Pairwise fun p q => p.sequence ≤ q.sequence
  pairs : List.Forall₂ (d.PairBuilt info target) spec.pairs k.pairs
  nullable_iff : k.nullable = true ↔
    ∃ p ∈ k.pairs, ∃ c, (d.namedColumns info)[p.sourceIndex]? = some c ∧ c.nullable = true

/-- A key is as it is described between the two of some tables that it names. -/
def KeyBuilt (infos : List TableInfo) (spec : KeySpec) (k : ForeignKey) : Prop :=
  ∃ info ∈ infos, ∃ target ∈ infos, Schema.qualified info = spec.sourceTable ∧
    Schema.qualified target = spec.targetTable ∧ d.KeyBetween info target spec k

/-- The keys of tables, table by table, that lead to one of some tables. -/
def keysInto (infos sources : List TableInfo) : List KeySpec :=
  (sources.flatMap d.keys).filter (·.targetTable ∈ infos.map Schema.qualified)

/-- A schema has some tables in their order, as they are described, and table by table the keys between
them. -/
structure Built (infos : List TableInfo) (s : Schema) : Prop where
  name_eq : s.name = d.name
  vendor_eq : s.vendor = d.vendor
  tables : List.Forall₂ d.TableBuilt infos s.tables
  foreignKeys : List.Forall₂ (d.KeyBuilt infos) (d.keysInto infos infos) s.foreignKeys

end Description

/-- The listed tables that no pattern excludes. -/
def Schema.kept (exclude : List Text.Pattern) (listed : List TableInfo) : List TableInfo :=
  listed.filter (!isExcluded exclude ·)

/-- A source lists tables, and describes those that are not excluded. -/
structure Source.Says (source : Source) (exclude : List Text.Pattern) (listed : List TableInfo)
    (d : Description) : Prop where
  listTables : source.listTables d.name = .ok listed
  columns : ∀ info ∈ Schema.kept exclude listed, source.columns info = .ok (d.columns info)
  primaryKey : ∀ info ∈ Schema.kept exclude listed, source.primaryKey info = .ok (d.primaryKey info)
  importedKeys : ∀ info ∈ Schema.kept exclude listed,
    source.importedKeys info = .ok (d.importedKeys info)
  vendor : source.vendor d.name = .ok d.vendor

/-- Whatever a source says, it is a description of its tables. -/
theorem Source.exists_says {source : Source} {exclude : List Text.Pattern} {name : String}
    {listed : List TableInfo} {vendor : Vendor} (hlisted : source.listTables name = .ok listed)
    (hcolumns : ∀ info ∈ Schema.kept exclude listed, ∃ columns, source.columns info = .ok columns)
    (hkey : ∀ info ∈ Schema.kept exclude listed, ∃ key, source.primaryKey info = .ok key)
    (hkeys : ∀ info ∈ Schema.kept exclude listed, ∃ keys, source.importedKeys info = .ok keys)
    (hvendor : source.vendor name = .ok vendor) :
    ∃ d : Description, d.name = name ∧ source.Says exclude listed d := by
  have hanswer : ∀ {α : Type} {r : Except SourceError (List α)}, (∃ answer, r = .ok answer) →
      r = .ok (r.toOption.getD []) := by
    rintro α r ⟨answer, rfl⟩
    rfl
  refine ⟨⟨name, fun info => (source.columns info).toOption.getD [],
    fun info => (source.primaryKey info).toOption.getD [],
    fun info => (source.importedKeys info).toOption.getD [], vendor⟩, rfl, ?_⟩
  constructor
  · exact hlisted
  · exact fun info hinfo => hanswer (hcolumns info hinfo)
  · exact fun info hinfo => hanswer (hkey info hinfo)
  · exact fun info hinfo => hanswer (hkeys info hinfo)
  · exact hvendor

/-- A table apart from its number and its lists of keys. -/
def Table.unnumbered (t : Table) : Table := { t with id := 0, outgoing := [], incoming := [] }

namespace Description

variable {d : Description} {info target : TableInfo}

/-! ### Columns

Looking up a column of a loaded table is looking it up in the description. -/

theorem exists_position?_iff {column : String} :
    (∃ i, d.position? info column = some i) ↔ d.HasColumn info column := by
  rw [← Option.isSome_iff_exists, position?, List.findIdx?_isSome, List.any_eq_true, HasColumn]
  simp only [namedColumns, List.mem_filterMap, Schema.columnOf?, Option.map_eq_some_iff, beq_iff_eq]
  constructor
  · rintro ⟨_, ⟨c, hc, name, hname, rfl⟩, rfl⟩
    exact ⟨c, hc, hname⟩
  · rintro ⟨c, hc, hname⟩
    exact ⟨_, ⟨c, hc, column, hname, rfl⟩, rfl⟩

theorem exists_pairBuilt_iff {pair : PairSpec} : (∃ p, d.PairBuilt info target pair p) ↔
    d.HasColumn info pair.sourceColumn ∧ d.HasColumn target pair.targetColumn := by
  rw [← exists_position?_iff, ← exists_position?_iff]
  constructor
  · rintro ⟨p, hp⟩
    exact ⟨⟨_, hp.sourceIndex_eq⟩, _, hp.targetIndex_eq⟩
  · rintro ⟨⟨i, hi⟩, j, hj⟩
    exact ⟨⟨pair.sourceColumn, pair.targetColumn, i, j⟩, rfl, rfl, hi, hj⟩

namespace TableBuilt

variable {t u : Table}

theorem columnIndex?_eq (h : d.TableBuilt info t) (column : String) :
    t.columnIndex? column = d.position? info column := by
  rw [Table.columnIndex?, h.columns_eq, position?]

theorem unnumbered_iff : d.TableBuilt info t.unnumbered ↔ d.TableBuilt info t := by
  constructor
  · rintro ⟨hname, hcolumns, hkey⟩
    exact ⟨hname, hcolumns, hkey⟩
  · rintro ⟨hname, hcolumns, hkey⟩
    exact ⟨hname, hcolumns, hkey⟩

theorem findPair_eq_ok_iff (h : d.TableBuilt info t) (h' : d.TableBuilt target u) {spec : KeySpec}
    {pair : PairSpec} {p : KeyPair} :
    Schema.findPair spec t u pair = .ok p ↔ d.PairBuilt info target pair p := by
  rw [Schema.findPair_eq_ok_iff, h.columnIndex?_eq, h'.columnIndex?_eq]
  constructor
  · rintro ⟨hsource, htarget, hsourceIndex, htargetIndex⟩
    exact ⟨hsource, htarget, hsourceIndex, htargetIndex⟩
  · rintro ⟨hsource, htarget, hsourceIndex, htargetIndex⟩
    exact ⟨hsource, htarget, hsourceIndex, htargetIndex⟩

theorem findPairs_eq_ok_iff (h : d.TableBuilt info t) (h' : d.TableBuilt target u) {spec : KeySpec}
    {pairs : List PairSpec} {found : List KeyPair} :
    Schema.findPairs spec t u pairs = .ok found ↔
      List.Forall₂ (d.PairBuilt info target) pairs found := by
  simp only [Schema.findPairs_eq_ok_iff, findPair_eq_ok_iff h h']

/-- The pairs of a key are found in two tables if and only if these have the columns. -/
theorem exists_findPairs_iff (h : d.TableBuilt info t) (h' : d.TableBuilt target u)
    {spec : KeySpec} :
    (∃ found, Schema.findPairs spec t u spec.pairs = .ok found) ↔ d.HasColumns info target spec := by
  simp only [findPairs_eq_ok_iff h h', exists_forall₂_iff, exists_pairBuilt_iff]
  rfl

end TableBuilt

/-! ### Loading tables

A table can be loaded if its primary key names columns that it has. -/

section Load

variable {source : Source} (hcolumns : source.columns info = .ok (d.columns info))
  (hkey : source.primaryKey info = .ok (d.primaryKey info))

include hcolumns hkey

theorem result_loadTable_eq_ok_iff {id : TableId} {t : Table} :
    (Schema.loadTable source (info, id)).result = .ok t ↔
      d.TableBuilt info t ∧ t.id = id ∧ t.outgoing = [] ∧ t.incoming = [] := by
  rw [Schema.result_loadTable_eq_ok_iff]
  simp only [Schema.result_loadColumns_eq_ok_iff, Schema.result_loadPrimaryKey_eq_ok_iff,
    Schema.keyPositions_eq_ok_iff, hcolumns, hkey, Except.ok.injEq, exists_eq_left']
  constructor
  · rintro ⟨columns, primaryKey, rfl, hpositions, rfl⟩
    exact ⟨⟨rfl, rfl, _, sortedBy_mergeSort _ _, hpositions⟩, rfl, rfl, rfl⟩
  · rintro ⟨⟨hname, hnamed, key, hsorted, hpositions⟩, rfl, hout, hin⟩
    obtain ⟨id, name, columns, primaryKey, outgoing, incoming⟩ := t
    obtain rfl := hname
    obtain rfl := hnamed
    obtain rfl := hout
    obtain rfl := hin
    obtain rfl := hsorted.eq (sortedBy_mergeSort _ _)
    exact ⟨_, _, rfl, hpositions, rfl⟩

theorem exists_loadTable_iff {id : TableId} :
    (∃ t, (Schema.loadTable source (info, id)).result = .ok t) ↔
      ∀ key ∈ d.primaryKey info, d.HasColumn info key.column := by
  have hsorted := sortedBy_mergeSort (·.sequence) (d.primaryKey info)
  simp only [result_loadTable_eq_ok_iff hcolumns hkey, ← exists_position?_iff]
  constructor
  · rintro ⟨t, ht, -⟩ key hmem
    obtain ⟨sorted, hsorted, hpositions⟩ := ht.primaryKey
    exact exists_forall₂_iff.1 ⟨_, hpositions⟩ key (hsorted.mem_iff.2 hmem)
  · intro hfound
    obtain ⟨positions, hpositions⟩ := exists_forall₂_iff.2 fun key hmem =>
      hfound key (hsorted.mem_iff.1 hmem)
    exact ⟨⟨id, Schema.qualified info, d.namedColumns info, positions, [], []⟩,
      ⟨rfl, rfl, _, hsorted, hpositions⟩, rfl, rfl, rfl⟩

end Load

/-! ### Attaching keys

While keys are attached the tables stay as they are described, so that each key can be judged by the
description. -/

/-- A schema under construction has the tables of a description. -/
structure Holds (d : Description) (infos : List TableInfo) (s : Schema) : Prop where
  wellFormed : s.WellFormed
  nodup : (infos.map Schema.qualified).Nodup
  name_eq : s.name = d.name
  tables : List.Forall₂ d.TableBuilt infos s.tables

end Description

namespace Schema

/-- Adding a key changes nothing but lists of keys. -/
theorem map_unnumbered_addKey (s : Schema) (key : ForeignKeyId → ForeignKey) :
    (s.addKey key).tables.map Table.unnumbered = s.tables.map Table.unnumbered := by
  apply List.ext_getElem?
  intro i
  have htable := s.table?_addKey key i
  unfold table? at htable
  rw [List.getElem?_map, List.getElem?_map, htable, Option.map_map]
  rfl

end Schema

namespace Description.Holds

open Schema (Attached attachOne)

variable {d : Description} {infos : List TableInfo} {info target : TableInfo} {s : Schema}

theorem addKey (h : d.Holds infos s) {key : ForeignKeyId → ForeignKey}
    (hs : (s.addKey key).WellFormed) : d.Holds infos (s.addKey key) := by
  refine ⟨hs, h.nodup, h.name_eq, ?_⟩
  have hbuilt : ∀ tables : List Table, List.Forall₂ d.TableBuilt infos tables ↔
      List.Forall₂ d.TableBuilt infos (tables.map Table.unnumbered) := by
    intro tables
    simp only [List.forall₂_map_right_iff, TableBuilt.unnumbered_iff]
  rw [hbuilt, Schema.map_unnumbered_addKey, ← hbuilt]
  exact h.tables

theorem attachOne {a : Attached} (h : d.Holds infos a.schema) (spec : KeySpec) :
    d.Holds infos (attachOne a spec).state.schema := by
  have hs := Schema.wellFormed_attachOne h.wellFormed spec
  rcases Schema.attachOne_cases a spec with
    ⟨-, heq⟩ | ⟨t, u, -, ⟨e, -, heq⟩ | ⟨found, -, heq⟩⟩
  · rwa [heq]
  · rwa [heq]
  · rw [heq] at hs ⊢
    exact h.addKey hs

theorem attach (h : d.Holds infos s) (specs : List KeySpec) :
    d.Holds infos (s.attach specs).state.schema := by
  apply Pass.state_run_of_step (P := fun a : Attached => d.Holds infos a.schema) _ h
  intro a spec _ ha
  exact ha.attachOne spec

section Tables

variable (h : d.Holds infos s)

include h

theorem exists_table (hinfo : info ∈ infos) : ∃ t ∈ s.tables, d.TableBuilt info t := by
  obtain ⟨i, hi⟩ := List.mem_iff_getElem?.1 hinfo
  obtain ⟨t, ht, hbuilt⟩ := exists_getElem?_of_forall₂ h.tables hi
  exact ⟨t, List.mem_of_getElem? ht, hbuilt⟩

theorem exists_info {t : Table} (ht : t ∈ s.tables) : ∃ info ∈ infos, d.TableBuilt info t := by
  obtain ⟨i, hi⟩ := List.mem_iff_getElem?.1 ht
  obtain ⟨info, hinfo, hbuilt⟩ := exists_getElem?_of_forall₂ h.tables.flip hi
  exact ⟨info, List.mem_of_getElem? hinfo, hbuilt⟩

/-- The table of a name is the one that is described under it. -/
theorem tableBuilt {t : Table} (ht : t ∈ s.tables) (hinfo : info ∈ infos)
    (hname : t.name = Schema.qualified info) : d.TableBuilt info t := by
  obtain ⟨info', hinfo', hbuilt⟩ := h.exists_info ht
  have hsame : Schema.qualified info' = Schema.qualified info := hbuilt.name_eq.symm.trans hname
  obtain rfl := List.inj_on_of_nodup_map h.nodup hinfo' hinfo hsame
  exact hbuilt

variable {spec : KeySpec} (hinfo : info ∈ infos) (hspec : spec.sourceTable = Schema.qualified info)

include hinfo hspec

/-- The tables of a key are there if the table that it leads to is described. -/
theorem endpoints?_eq_none_iff :
    s.endpoints? spec = none ↔ ∀ target ∈ infos, Schema.qualified target ≠ spec.targetTable := by
  constructor
  · intro hnone target htarget hname
    obtain ⟨t, ht, hbuilt⟩ := h.exists_table hinfo
    obtain ⟨u, hu, hbuilt'⟩ := h.exists_table htarget
    have hends : s.endpoints? spec = some (t, u) := by
      rw [h.wellFormed.endpoints?_eq_some_iff, hspec, ← hname]
      exact ⟨⟨ht, hbuilt.name_eq⟩, hu, hbuilt'.name_eq⟩
    rw [hnone] at hends
    cases hends
  · intro hmissing
    cases hends : s.endpoints? spec with
    | none => rfl
    | some ends =>
      obtain ⟨t, u⟩ := ends
      obtain ⟨-, hu, hname⟩ := h.wellFormed.endpoints?_eq_some_iff.1 hends
      obtain ⟨target, htarget, hbuilt⟩ := h.exists_info hu
      exact absurd (hbuilt.name_eq.symm.trans hname) (hmissing target htarget)

theorem tablesBuilt_of_endpoints? {t u : Table} (hends : s.endpoints? spec = some (t, u)) :
    d.TableBuilt info t ∧
      ∃ target ∈ infos, Schema.qualified target = spec.targetTable ∧ d.TableBuilt target u := by
  obtain ⟨⟨ht, hname⟩, hu, hname'⟩ := h.wellFormed.endpoints?_eq_some_iff.1 hends
  obtain ⟨target, htarget, hbuilt⟩ := h.exists_info hu
  exact ⟨h.tableBuilt ht hinfo (hname.trans hspec), target, htarget,
    hbuilt.name_eq.symm.trans hname', hbuilt⟩

end Tables

section Attach

variable {a : Attached} {spec : KeySpec}

/-- A key is attached without a failure if its columns are there or its target is not. -/
theorem failure_attachOne_eq_none_iff (h : d.Holds infos a.schema) (hinfo : info ∈ infos)
    (hspec : spec ∈ d.keys info) :
    (Schema.attachOne a spec).failure = none ↔ d.Attachable infos info spec := by
  have hsource := KeySpec.sourceTable_of_mem_aggregate hspec
  rcases Schema.attachOne_cases a spec with ⟨hends, heq⟩ | ⟨t, u, hends, hfound⟩
  · have hmissing := (h.endpoints?_eq_none_iff hinfo hsource).1 hends
    rw [heq, Pass.failure_noting, eq_self_iff_true, true_iff]
    intro target htarget hname
    exact absurd hname (hmissing target htarget)
  · obtain ⟨ht, target, htarget, hname, hu⟩ := h.tablesBuilt_of_endpoints? hinfo hsource hends
    have hattachable : d.Attachable infos info spec ↔ d.HasColumns info target spec := by
      constructor
      · intro hall
        exact hall target htarget hname
      · intro hcolumns target' htarget' hname'
        obtain rfl := List.inj_on_of_nodup_map h.nodup htarget htarget' (hname.trans hname'.symm)
        exact hcolumns
    rw [hattachable, ← ht.exists_findPairs_iff hu]
    rcases hfound with ⟨e, hfound, heq⟩ | ⟨found, hfound, heq⟩
    · simp [heq, hfound]
    · simp [heq, hfound]

/-- Attaching a key adds it to the schema if its target is there. -/
theorem foreignKeys_attachOne (h : d.Holds infos a.schema) (hinfo : info ∈ infos)
    (hspec : spec ∈ d.keys info) (hok : (Schema.attachOne a spec).failure = none) :
    ∃ ks, (Schema.attachOne a spec).state.schema.foreignKeys = a.schema.foreignKeys ++ ks ∧
      List.Forall₂ (d.KeyBuilt infos)
        ([spec].filter (·.targetTable ∈ infos.map Schema.qualified)) ks := by
  have hsource := KeySpec.sourceTable_of_mem_aggregate hspec
  -- a target that was not read, a column that is not there, or a new key
  rcases Schema.attachOne_cases a spec with
    ⟨hends, heq⟩ | ⟨t, u, hends, ⟨e, -, heq⟩ | ⟨found, hfound, heq⟩⟩
  · have hmissing : spec.targetTable ∉ infos.map Schema.qualified := by
      rw [List.mem_map]
      rintro ⟨target, htarget, hname⟩
      exact (h.endpoints?_eq_none_iff hinfo hsource).1 hends target htarget hname
    refine ⟨[], ?_, ?_⟩
    · rw [heq, List.append_nil]
      rfl
    · rw [List.filter_singleton, decide_eq_false hmissing]
      exact .nil
  · rw [heq] at hok
    cases hok
  · obtain ⟨ht, target, htarget, hname, hu⟩ := h.tablesBuilt_of_endpoints? hinfo hsource hends
    have hmem : spec.targetTable ∈ infos.map Schema.qualified :=
      List.mem_map.2 ⟨target, htarget, hname⟩
    refine ⟨[Schema.keyOf spec t u found a.schema.foreignKeys.length], ?_, ?_⟩
    · rw [heq]
      rfl
    · rw [List.filter_singleton, decide_eq_true hmem]
      refine .cons ⟨info, hinfo, target, htarget, hsource.symm, hname, rfl, rfl, rfl, ?_, ?_, ?_⟩ .nil
      · exact (KeySpec.madeOf_of_mem hspec).sorted.ascending
      · exact (ht.findPairs_eq_ok_iff hu).1 hfound
      · rw [← ht.columns_eq, Schema.keyOf, List.any_eq_true]
        exact exists_congr fun p => and_congr_right fun _ => Schema.admitsNull_eq_true_iff

variable {specs : List KeySpec}

theorem failure_run_eq_none_iff (h : d.Holds infos a.schema) (hinfo : info ∈ infos)
    (hspecs : ∀ spec ∈ specs, spec ∈ d.keys info) :
    (Pass.run Schema.attachOne a specs).failure = none ↔
      ∀ spec ∈ specs, d.Attachable infos info spec := by
  induction specs generalizing a with
  | nil => simp
  | cons spec rest ih =>
    obtain ⟨hspec, hrest⟩ := List.forall_mem_cons.1 hspecs
    rw [Pass.failure_run_cons, h.failure_attachOne_eq_none_iff hinfo hspec,
      ih (h.attachOne spec) hrest, List.forall_mem_cons]

theorem foreignKeys_run (h : d.Holds infos a.schema) (hinfo : info ∈ infos)
    (hspecs : ∀ spec ∈ specs, spec ∈ d.keys info)
    (hok : (Pass.run Schema.attachOne a specs).failure = none) :
    ∃ ks, (Pass.run Schema.attachOne a specs).state.schema.foreignKeys =
        a.schema.foreignKeys ++ ks ∧
      List.Forall₂ (d.KeyBuilt infos)
        (specs.filter (·.targetTable ∈ infos.map Schema.qualified)) ks := by
  induction specs generalizing a with
  | nil => exact ⟨[], (List.append_nil _).symm, .nil⟩
  | cons spec rest ih =>
    obtain ⟨hspec, hrest⟩ := List.forall_mem_cons.1 hspecs
    obtain ⟨hfirst, hothers⟩ := (Pass.failure_run_cons a spec rest).1 hok
    obtain ⟨ks, hks, hbuilt⟩ := h.foreignKeys_attachOne hinfo hspec hfirst
    obtain ⟨ks', hks', hbuilt'⟩ := ih (h.attachOne spec) hrest hothers
    refine ⟨ks ++ ks', ?_, ?_⟩
    · rw [Pass.state_run_cons hfirst, hks', hks, List.append_assoc]
    · rw [← List.singleton_append, List.filter_append]
      exact List.rel_append hbuilt hbuilt'

end Attach

/-! ### Loading keys

The keys are aggregated and attached table by table. -/

section Load

variable {source : Source} {s' : Schema}

theorem exists_loadKeys_iff (h : d.Holds infos s) (hinfo : info ∈ infos)
    (hkeys : source.importedKeys info = .ok (d.importedKeys info)) :
    (∃ s', (Schema.loadKeys source s info).result = .ok s') ↔
      ∀ spec ∈ d.keys info, d.Attachable infos info spec := by
  rw [← h.failure_run_eq_none_iff (a := ⟨s, []⟩) hinfo fun _ hspec => hspec]
  simp only [Schema.result_loadKeys_eq_ok_iff, hkeys, Except.ok.injEq, exists_eq_left']
  constructor
  · rintro ⟨s', hok, -⟩
    exact hok
  · intro hok
    exact ⟨_, hok, rfl⟩

theorem loadKeys (h : d.Holds infos s) (hinfo : info ∈ infos)
    (hkeys : source.importedKeys info = .ok (d.importedKeys info))
    (hload : (Schema.loadKeys source s info).result = .ok s') :
    d.Holds infos s' ∧ ∃ ks, s'.foreignKeys = s.foreignKeys ++ ks ∧
      List.Forall₂ (d.KeyBuilt infos)
        ((d.keys info).filter (·.targetTable ∈ infos.map Schema.qualified)) ks := by
  obtain ⟨rows, hrows, hok, rfl⟩ := Schema.result_loadKeys_eq_ok_iff.1 hload
  obtain rfl := Except.ok.inj (hkeys.symm.trans hrows)
  exact ⟨h.attach _, h.foreignKeys_run (a := ⟨s, []⟩) hinfo (fun _ hspec => hspec) hok⟩

variable {rest : List TableInfo}

/-- The keys of tables can be loaded if and only if those that lead to a table have their columns. -/
theorem exists_loadAllKeys_iff (h : d.Holds infos s) (hrest : ∀ info ∈ rest, info ∈ infos)
    (hkeys : ∀ info ∈ rest, source.importedKeys info = .ok (d.importedKeys info)) :
    (∃ s', (Schema.loadAllKeys source s rest).result = .ok s') ↔
      ∀ info ∈ rest, ∀ spec ∈ d.keys info, d.Attachable infos info spec := by
  induction rest generalizing s with
  | nil => simp [Schema.loadAllKeys]
  | cons info rest ih =>
    obtain ⟨hinfo, hrest⟩ := List.forall_mem_cons.1 hrest
    obtain ⟨hkey, hkeys⟩ := List.forall_mem_cons.1 hkeys
    rw [List.forall_mem_cons, ← h.exists_loadKeys_iff hinfo hkey]
    simp only [Schema.loadAllKeys, Report.result_andThen_eq_ok_iff]
    constructor
    · rintro ⟨s', s₁, hload, hs'⟩
      exact ⟨⟨s₁, hload⟩, (ih (h.loadKeys hinfo hkey hload).1 hrest hkeys).1 ⟨s', hs'⟩⟩
    · rintro ⟨⟨s₁, hload⟩, hall⟩
      obtain ⟨s', hs'⟩ := (ih (h.loadKeys hinfo hkey hload).1 hrest hkeys).2 hall
      exact ⟨s', s₁, hload, hs'⟩

theorem loadAllKeys (h : d.Holds infos s) (hrest : ∀ info ∈ rest, info ∈ infos)
    (hkeys : ∀ info ∈ rest, source.importedKeys info = .ok (d.importedKeys info))
    (hload : (Schema.loadAllKeys source s rest).result = .ok s') :
    d.Holds infos s' ∧ ∃ ks, s'.foreignKeys = s.foreignKeys ++ ks ∧
      List.Forall₂ (d.KeyBuilt infos) (d.keysInto infos rest) ks := by
  induction rest generalizing s with
  | nil =>
    obtain rfl := Except.ok.inj hload
    exact ⟨h, [], (List.append_nil _).symm, .nil⟩
  | cons info rest ih =>
    obtain ⟨hinfo, hrest⟩ := List.forall_mem_cons.1 hrest
    obtain ⟨hkey, hkeys⟩ := List.forall_mem_cons.1 hkeys
    obtain ⟨s₁, hone, hothers⟩ := Report.result_andThen_eq_ok_iff.1 hload
    obtain ⟨h₁, ks, hks, hbuilt⟩ := h.loadKeys hinfo hkey hone
    obtain ⟨h', ks', hks', hbuilt'⟩ := ih h₁ hrest hkeys hothers
    refine ⟨h', ks ++ ks', ?_, ?_⟩
    · rw [hks', hks, List.append_assoc]
    · rw [keysInto, List.flatMap_cons, List.filter_append]
      exact List.rel_append hbuilt hbuilt'

end Load

end Description.Holds

/-! ### Building

The stages together. -/

namespace Schema

variable {source : Source} {exclude : List Text.Pattern} {listed : List TableInfo}
  {d : Description}

theorem keptTables_eq (h : source.Says exclude listed d) :
    keptTables source exclude d.name = .ok (kept exclude listed) := by
  rw [keptTables, h.listTables]
  rfl

section Tables

variable {infos : List TableInfo} {tables : List Table}
  (hcolumns : ∀ info ∈ infos, source.columns info = .ok (d.columns info))
  (hkey : ∀ info ∈ infos, source.primaryKey info = .ok (d.primaryKey info))

include hcolumns hkey

theorem exists_loadTables_iff :
    (∃ tables, (Report.mapList (loadTable source) infos.zipIdx).result = .ok tables) ↔
      ∀ info ∈ infos, ∀ key ∈ d.primaryKey info, d.HasColumn info key.column := by
  simp only [Report.result_mapList_eq_ok_iff, exists_forall₂_iff]
  constructor
  · intro h info hinfo
    obtain ⟨id, hid⟩ := List.mem_iff_getElem?.1 hinfo
    have hentry : (info, id) ∈ infos.zipIdx := List.mem_zipIdx_iff_getElem?.2 hid
    exact (Description.exists_loadTable_iff (hcolumns info hinfo) (hkey info hinfo)).1
      (h (info, id) hentry)
  · rintro h ⟨info, id⟩ hentry
    have hinfo : info ∈ infos := List.mem_of_getElem? (List.mem_zipIdx_iff_getElem?.1 hentry)
    exact (Description.exists_loadTable_iff (hcolumns info hinfo) (hkey info hinfo)).2
      (h info hinfo)

/-- Loaded tables make a schema with the tables of the description. -/
theorem holds_of_loadTables (hnodup : (infos.map qualified).Nodup)
    (h : (Report.mapList (loadTable source) infos.zipIdx).result = .ok tables) :
    d.Holds infos { empty d.name with tables } := by
  have hloaded := Report.result_mapList_eq_ok_iff.1 h
  refine ⟨wellFormed_of_loaded (hloaded.imp fun _ _ => loaded_of_loadTable) hnodup, hnodup, rfl, ?_⟩
  show List.Forall₂ d.TableBuilt infos tables
  rw [← List.zipIdx_map_fst 0 infos, List.forall₂_map_left_iff]
  have hlisted : ∀ entry ∈ infos.zipIdx, entry.1 ∈ infos := by
    rintro ⟨info, id⟩ hentry
    exact List.mem_of_getElem? (List.mem_zipIdx_iff_getElem?.1 hentry)
  refine ((List.forall₂_and_left _ _).2 ⟨hlisted, hloaded⟩).imp ?_
  rintro ⟨info, id⟩ t ⟨hinfo, ht⟩
  exact ((Description.result_loadTable_eq_ok_iff (hcolumns info hinfo) (hkey info hinfo)).1 ht).1

end Tables

/-- A build from a source that answers succeeds if and only if the description of the tables that are
not excluded is sound. -/
theorem exists_build_iff (h : source.Says exclude listed d) :
    (∃ s, (build source exclude d.name).result = .ok s) ↔ d.Sound (kept exclude listed) := by
  simp only [result_build_eq_ok_iff, keptTables_eq h, h.vendor, Except.ok.injEq]
  constructor
  · rintro ⟨s, _, tables, s', vendor, rfl, hnodup, htables, hkeys, -, -⟩
    have hholds := holds_of_loadTables h.columns h.primaryKey hnodup htables
    refine ⟨hnodup, ?_, ?_⟩
    · exact (exists_loadTables_iff h.columns h.primaryKey).1 ⟨tables, htables⟩
    · exact (hholds.exists_loadAllKeys_iff (fun _ hinfo => hinfo) h.importedKeys).1 ⟨s', hkeys⟩
  · rintro ⟨hnodup, hkey, hkeys⟩
    obtain ⟨tables, htables⟩ := (exists_loadTables_iff h.columns h.primaryKey).2 hkey
    have hholds := holds_of_loadTables h.columns h.primaryKey hnodup htables
    obtain ⟨s', hs'⟩ := (hholds.exists_loadAllKeys_iff (fun _ hinfo => hinfo) h.importedKeys).2 hkeys
    exact ⟨_, _, tables, s', d.vendor, rfl, hnodup, htables, hs', rfl, rfl⟩

/-- A schema that is built has the tables that are not excluded and the keys between them. -/
theorem built_of_build {s : Schema} (h : source.Says exclude listed d)
    (hbuild : (build source exclude d.name).result = .ok s) : d.Built (kept exclude listed) s := by
  obtain ⟨infos, tables, s', vendor, hinfos, hnodup, htables, hkeys, hvendor, rfl⟩ :=
    result_build_eq_ok_iff.1 hbuild
  obtain rfl := Except.ok.inj ((keptTables_eq h).symm.trans hinfos)
  have hholds := holds_of_loadTables h.columns h.primaryKey hnodup htables
  obtain ⟨hs', ks, hks, hbuilt⟩ :=
    hholds.loadAllKeys (fun _ hinfo => hinfo) h.importedKeys hkeys
  refine ⟨hs'.name_eq, (Except.ok.inj (h.vendor.symm.trans hvendor)).symm, hs'.tables, ?_⟩
  show List.Forall₂ _ _ s'.foreignKeys
  rw [hks]
  exact hbuilt

end Schema

end FixturePlan
