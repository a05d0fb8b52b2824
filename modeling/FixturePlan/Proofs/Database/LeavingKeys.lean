import FixturePlan.Proofs.Database.Keys
import FixturePlan.Proofs.Order.SortedBy
import FixturePlan.Proofs.Schema.Dropping
import Mathlib

/-!
# Foreign keys that leave the inspected tables

Leave out of the declarations of a database every foreign key that leads to none of the inspected
tables. Whether such a key is declared changes nothing but names and warnings, provided that each of its
columns leads to a column of the database all the same (`Database.Resolves`). If one does not, the keys
of its table cannot be reported and no schema is built (`Database.build_withoutLeaving`). A key that
spells out its columns resolves wherever it leads (`Database.resolves_of_length_le`). One that leaves
them implicit does not resolve if there is no such table: a single key of this kind in one of the
inspected tables keeps a schema from being built (`Database.not_exists_build_of_missing`).
-/

namespace FixturePlan

/-- A declaration without the foreign keys of a kind. -/
def TableDef.withoutKeys (p : ForeignKeyDef → Bool) (t : TableDef) : TableDef :=
  { t with foreignKeys := t.foreignKeys.filter (!p ·) }

/-- A table without the foreign keys of a kind. -/
def StoredTable.withoutKeys (p : ForeignKeyDef → Bool) (t : StoredTable) : StoredTable :=
  { t with declaration := t.declaration.withoutKeys p }

namespace Database

/-- A database without the foreign keys of a kind. -/
def withoutKeys (db : Database) (p : ForeignKeyDef → Bool) : Database :=
  { db with tables := db.tables.map (StoredTable.withoutKeys p) }

variable {db : Database} {info : TableInfo} {p : ForeignKeyDef → Bool}

/-! ### Columns

Taking foreign keys away changes nothing that a source tells of columns and primary keys. -/

theorem table?_withoutKeys (db : Database) (p : ForeignKeyDef → Bool) (name : String) :
    (db.withoutKeys p).table? name = (db.table? name).map (StoredTable.withoutKeys p) := by
  rw [table?, withoutKeys, List.find?_map]
  rfl

theorem viewedTable?_withoutKeys (db : Database) (p : ForeignKeyDef → Bool) (fuel : Nat)
    (name : String) : (db.withoutKeys p).viewedTable? fuel name =
      (db.viewedTable? fuel name).map (StoredTable.withoutKeys p) := by
  induction fuel generalizing name with
  | zero => exact table?_withoutKeys db p name
  | succ fuel ih =>
    have hview : (db.withoutKeys p).view? name = db.view? name := rfl
    rw [viewedTable?, viewedTable?, hview]
    cases db.view? name with
    | none => exact table?_withoutKeys db p name
    | some v => exact ih v.table

theorem baseTable_withoutKeys (db : Database) (p : ForeignKeyDef → Bool) (v : ViewDef) :
    (db.withoutKeys p).baseTable v = (db.baseTable v).map (StoredTable.withoutKeys p) := by
  have hviews : (db.withoutKeys p).views = db.views := rfl
  rw [baseTable, viewedTable?_withoutKeys, hviews, baseTable]
  cases db.viewedTable? db.views.length v.table <;> rfl

theorem mainColumns_withoutKeys (db : Database) (p : ForeignKeyDef → Bool) (name : String) :
    (db.withoutKeys p).mainColumns name = db.mainColumns name := by
  have hview : (db.withoutKeys p).view? name = db.view? name := rfl
  rw [mainColumns, mainColumns, table?_withoutKeys, hview]
  cases db.table? name with
  | some t => rfl
  | none =>
    cases db.view? name with
    | none => rfl
    | some v =>
      simp only [Option.map_none, baseTable_withoutKeys]
      cases db.baseTable v <;> rfl

theorem catalogColumns_withoutKeys (db : Database) (p : ForeignKeyDef → Bool) :
    (db.withoutKeys p).catalogColumns = db.catalogColumns := by
  funext info
  rw [catalogColumns, mainColumns_withoutKeys, catalogColumns]

theorem columns_withoutKeys (db : Database) (p : ForeignKeyDef → Bool) :
    (db.withoutKeys p).columns = db.columns := by
  funext info
  rw [columns, catalogColumns_withoutKeys, columns]

theorem primaryKey_withoutKeys (db : Database) (p : ForeignKeyDef → Bool) :
    (db.withoutKeys p).primaryKey = db.primaryKey := by
  funext info
  rw [primaryKey, catalogColumns_withoutKeys, primaryKey]

theorem listTables_withoutKeys (db : Database) (p : ForeignKeyDef → Bool) :
    (db.withoutKeys p).listTables = db.listTables := by
  funext schema
  rw [listTables, withoutKeys, List.map_map]
  rfl

theorem exists_vendor_withoutKeys_iff (db : Database) (p : ForeignKeyDef → Bool) (schema : String) :
    (∃ v, (db.withoutKeys p).vendor schema = .ok v) ↔ ∃ v, db.vendor schema = .ok v := by
  unfold vendor inSchema
  split
  · simp [Except.map]
  · split <;> simp [Except.map]

/-! ### Foreign keys

A table without some of its keys reports the others as before, under other places and so under other
names. -/

theorem resolves_withoutKeys_iff {schema : String} {k : ForeignKeyDef} :
    (db.withoutKeys p).Resolves schema k ↔ db.Resolves schema k := by
  rw [Resolves, primaryKey_withoutKeys, Resolves]

theorem keySpec?_withoutKeys (db : Database) (p : ForeignKeyDef → Bool) :
    (db.withoutKeys p).keySpec? = db.keySpec? := by
  have htarget : (db.withoutKeys p).targetColumn = db.targetColumn := by
    funext schema k place
    rw [targetColumn, primaryKey_withoutKeys, targetColumn]
  have hspelled : (db.withoutKeys p).spelled = db.spelled := by
    funext info column
    rw [spelled, table?_withoutKeys, spelled]
    cases db.table? info.name <;> rfl
  funext info entry
  rw [keySpec?, pairs, htarget, hspelled, keySpec?, pairs]

/-- The position by which a foreign key is put in order. -/
def firstColumn (t : TableDef) (k : ForeignKeyDef) : Nat :=
  (k.columns.head?.bind t.position?).getD t.columns.length

theorem orderedKeys_withoutKeys (t : TableDef) :
    orderedKeys (t.withoutKeys p) = (orderedKeys t).filter (!p ·) := by
  have hsorted : orderedKeys (t.withoutKeys p) = (t.foreignKeys.filter (!p ·)).reverse.mergeSort
    fun a b => firstColumn t a ≤ firstColumn t b := rfl
  have hsorted' : orderedKeys t = t.foreignKeys.reverse.mergeSort
    fun a b => firstColumn t a ≤ firstColumn t b := rfl
  rw [hsorted, hsorted', ← List.filter_reverse]
  exact (sortedBy_mergeSort _ _).eq ((sortedBy_mergeSort _ _).filter _)

theorem keysOf_withoutKeys : (db.withoutKeys p).keysOf info = (db.keysOf info).filter (!p ·) := by
  rw [keysOf, table?_withoutKeys, keysOf]
  cases db.table? info.name with
  | none => rfl
  | some t => exact orderedKeys_withoutKeys t.declaration

/-! ### Leaving keys -/

/-- The tables that are inspected: those that no pattern excludes. -/
def inspected (db : Database) (exclude : List Text.Pattern) (name : String) : List TableInfo :=
  Schema.inspected db.source exclude name

/-- Whether a foreign key leads to none of the inspected tables, whose names count as they are written. -/
def leaves (db : Database) (exclude : List Text.Pattern) (name : String) (k : ForeignKeyDef) : Bool :=
  !k.columns.isEmpty && !(db.inspected exclude name).any (·.name == k.table)

/-- The foreign keys of a table that lead to none of the inspected tables, with their places among those
of the table. -/
def leaving (db : Database) (exclude : List Text.Pattern) (name : String) (info : TableInfo) :
    List (ForeignKeyDef × Nat) :=
  (db.keysOf info).zipIdx.filter (db.leaves exclude name ·.1)

/-- The database without the foreign keys that lead to none of the inspected tables. -/
def withoutLeaving (db : Database) (exclude : List Text.Pattern) (name : String) : Database :=
  db.withoutKeys (db.leaves exclude name)

/-- The warning for a foreign key that is dropped. -/
def droppedWarning (info : TableInfo) (entry : ForeignKeyDef × Nat) : Warning :=
  .foreignKeyDropped (KeySpec.syntheticName info.name (entry.2 + 1)) (Schema.qualified info)
    ⟨info.schema, entry.1.table⟩

variable {exclude : List Text.Pattern} {name : String} {keys : List ForeignKeyDef}

theorem exists_table_of_mem_inspected (h : info ∈ db.inspected exclude name) :
    sameName name "main" ∧ ∃ t ∈ db.tables, info = .table name t.declaration.name := by
  have hlisted : db.source.listTables name = db.listTables name := rfl
  rw [inspected, Schema.inspected, Schema.keptTables, hlisted, listTables, inSchema] at h
  split at h
  · next hmain =>
    obtain ⟨tableName, hnames, rfl⟩ := List.mem_map.1 (List.mem_filter.1 h).1
    obtain ⟨t, ht, rfl⟩ := List.mem_map.1 (List.mem_filter.1 hnames).1
    exact ⟨hmain, t, ht, rfl⟩
  · split at h
    · cases h
    · cases h

theorem sameName_of_mem_inspected (h : info ∈ db.inspected exclude name) :
    info.schema = name ∧ sameName info.schema "main" := by
  obtain ⟨hmain, t, -, rfl⟩ := exists_table_of_mem_inspected h
  exact ⟨rfl, hmain⟩

theorem targetTable_mem_iff (hinfo : info ∈ db.inspected exclude name) {k : ForeignKeyDef} :
    (⟨info.schema, k.table⟩ : QualifiedName) ∈ Schema.inspectedNames db.source exclude name ↔
      (db.inspected exclude name).any (·.name == k.table) := by
  rw [Schema.inspectedNames, List.mem_map, List.any_eq_true]
  constructor
  · rintro ⟨target, htarget, hname⟩
    exact ⟨target, htarget, beq_iff_eq.2 (QualifiedName.mk.inj hname).2⟩
  · rintro ⟨target, htarget, hname⟩
    have hschema : target.schema = info.schema :=
      (sameName_of_mem_inspected htarget).1.trans (sameName_of_mem_inspected hinfo).1.symm
    exact ⟨target, htarget, QualifiedName.mk.injEq .. ▸ ⟨hschema, beq_iff_eq.1 hname⟩⟩

theorem targetTable_mem_iff_of_keySpec? (hinfo : info ∈ db.inspected exclude name)
    {entry : ForeignKeyDef × Nat} {spec : KeySpec} (h : db.keySpec? info entry = some spec) :
    spec.targetTable ∈ Schema.inspectedNames db.source exclude name ↔
      db.leaves exclude name entry.1 = false := by
  obtain ⟨hcolumns, -, -, htarget⟩ := of_keySpec?_eq_some h
  rw [htarget, targetTable_mem_iff hinfo, leaves, hcolumns]
  simp

theorem map_unnamed_filterMap_keySpec? : (keys.zipIdx.filterMap (db.keySpec? info)).map
    KeySpec.unnamed = keys.filterMap fun k => (db.keySpec? info (k, 0)).map KeySpec.unnamed := by
  rw [List.map_filterMap]
  conv_rhs => rw [← List.zipIdx_map_fst 0 keys, List.filterMap_map]
  refine List.filterMap_congr ?_
  intro entry _
  rw [Function.comp_apply, keySpec?, keySpec?]
  split <;> rfl

/-- The keys that are not dropped are those of the database without the ones that leave. -/
theorem keys_withoutLeaving (hinfo : info ∈ db.inspected exclude name)
    (keys : List ForeignKeyDef) : ((keys.zipIdx.filterMap (db.keySpec? info)).filter
      (·.targetTable ∈ Schema.inspectedNames db.source exclude name)).map KeySpec.unnamed =
      ((keys.filter (!db.leaves exclude name ·)).zipIdx.filterMap (db.keySpec? info)).map
        KeySpec.unnamed := by
  -- names play no part in where a key leads
  have hunnamed : ∀ specs : List KeySpec, (specs.filter
      (·.targetTable ∈ Schema.inspectedNames db.source exclude name)).map KeySpec.unnamed =
      (specs.map KeySpec.unnamed).filter
        (·.targetTable ∈ Schema.inspectedNames db.source exclude name) := by
    intro specs
    rw [List.filter_map]
    rfl
  rw [hunnamed, map_unnamed_filterMap_keySpec?, map_unnamed_filterMap_keySpec?,
    List.filter_filterMap, List.filterMap_filter]
  refine List.filterMap_congr ?_
  intro k _
  cases hspec : db.keySpec? info (k, 0) with
  | none => simp
  | some spec =>
    have htarget := targetTable_mem_iff_of_keySpec? hinfo hspec
    have hsame : spec.unnamed.targetTable = spec.targetTable := rfl
    simp only [Option.map_some, Option.filter_some, hsame, htarget]
    cases db.leaves exclude name k <;> rfl

/-- The keys that are dropped are those that leave. -/
theorem droppedWarnings_eq (hinfo : info ∈ db.inspected exclude name) {rows : List ImportedKey}
    (h : db.importedKeys info = .ok rows) :
    Schema.droppedWarnings db.source (Schema.inspectedNames db.source exclude name) info =
      (db.leaving exclude name info).map (droppedWarning info) := by
  have hreported : Schema.reportedKeys db.source info =
      (db.keysOf info).zipIdx.filterMap (db.keySpec? info) := by
    have hrows : db.source.importedKeys info = .ok rows := h
    rw [Schema.reportedKeys, hrows]
    exact aggregate_importedKeys (sameName_of_mem_inspected hinfo).2 h
  rw [Schema.droppedWarnings, hreported, leaving, List.filter_filterMap, List.map_filterMap]
  conv_rhs => rw [← List.filterMap_eq_map, List.filterMap_filter]
  refine List.filterMap_congr ?_
  intro entry _
  cases hspec : db.keySpec? info entry with
  | none => simp [leaves, keySpec?_eq_none_iff.1 hspec]
  | some spec =>
    have htarget := targetTable_mem_iff_of_keySpec? hinfo hspec
    have hwarning : Schema.droppedWarning spec = droppedWarning info entry := by
      obtain ⟨-, hname, hsource, htarget⟩ := of_keySpec?_eq_some hspec
      rw [Schema.droppedWarning, hname, hsource, htarget, droppedWarning]
    simp only [Option.filter_some, htarget, Bool.not_eq_false]
    cases db.leaves exclude name entry.1 with
    | false => rfl
    | true => exact congrArg some hwarning

/-- The keys of a table are reported if and only if they are without those that leave and those that
leave resolve. -/
theorem exists_importedKeys_withoutLeaving_iff (hinfo : info ∈ db.inspected exclude name) :
    (∃ rows, db.importedKeys info = .ok rows) ↔
      (∃ rows, (db.withoutLeaving exclude name).importedKeys info = .ok rows) ∧
        ∀ k ∈ db.keysOf info, db.leaves exclude name k → db.Resolves info.schema k := by
  have hmain := (sameName_of_mem_inspected hinfo).2
  rw [exists_importedKeys_iff hmain, exists_importedKeys_iff hmain, withoutLeaving,
    keysOf_withoutKeys]
  simp only [resolves_withoutKeys_iff, List.mem_filter, Bool.not_eq_true', and_imp]
  constructor
  · intro h
    exact ⟨fun k hk _ => h k hk, fun k hk _ => h k hk⟩
  · rintro ⟨hstays, hleaves⟩ k hk
    cases hleave : db.leaves exclude name k with
    | false => exact hstays k hk hleave
    | true => exact hleaves k hk hleave

theorem addsLeaving (h : ∀ info ∈ db.inspected exclude name, ∀ k ∈ db.keysOf info,
      db.leaves exclude name k → db.Resolves info.schema k) :
    db.source.AddsLeaving (db.withoutLeaving exclude name).source exclude name where
  listTables_eq := (listTables_withoutKeys db _).symm
  columns_eq := (columns_withoutKeys db _).symm
  primaryKey_eq := (primaryKey_withoutKeys db _).symm
  exists_vendor_iff := (exists_vendor_withoutKeys_iff db _ name).symm
  exists_importedKeys_iff info hinfo := by
    have hiff := exists_importedKeys_withoutLeaving_iff hinfo
    rwa [and_iff_left (h info hinfo)] at hiff
  keys_eq info hinfo rows rows' hrows hrows' := by
    have hmain := (sameName_of_mem_inspected hinfo).2
    rw [aggregate_importedKeys hmain hrows, aggregate_importedKeys hmain hrows', withoutLeaving,
      keysOf_withoutKeys, keySpec?_withoutKeys]
    exact keys_withoutLeaving hinfo _

theorem name_describeColumn (entry : CatalogColumn × Nat) :
    (describeColumn entry).name = some entry.1.name := by
  unfold describeColumn
  generalize DeclaredType.arguments entry.1.type = numbers
  obtain ⟨precision, scale⟩ := numbers
  rfl

/-- All columns of a database have names. -/
theorem isSome_name_of_columns {columns : List ColumnInfo} (h : db.columns info = .ok columns) :
    ∀ c ∈ columns, c.name.isSome := by
  rw [Database.columns] at h
  cases hcatalog : db.catalogColumns info with
  | error e => rw [hcatalog] at h; cases h
  | ok cs =>
    rw [hcatalog] at h
    obtain rfl := Except.ok.inj h
    intro c hc
    obtain ⟨entry, -, rfl⟩ := List.mem_map.1 hc
    rw [name_describeColumn, Option.isSome_some]

/-- Loading the tables of a database makes no warnings. -/
theorem warnings_loadTables (db : Database) (entries : List (TableInfo × TableId)) :
    (Report.mapList (Schema.loadTable db.source) entries).warnings = [] := by
  refine Report.warnings_mapList_eq_nil ?_ entries
  rintro ⟨info, id⟩
  refine Report.warnings_andThen_eq_nil ?_ ?_
  · refine Report.warnings_andThen_eq_nil rfl ?_
    intro columns hcolumns
    have hnamed := isSome_name_of_columns
      (Report.result_mapError_eq_ok_iff.1 hcolumns : db.columns info = .ok columns)
    have hnone : columns.filter (·.name.isNone) = [] := by
      rw [List.filter_eq_nil_iff]
      intro c hc
      rw [← Option.not_isSome, hnamed c hc]
      decide
    show (columns.filter (·.name.isNone)).map _ = []
    rw [hnone, List.map_nil]
  · intro columns _
    exact Report.warnings_andThen_eq_nil (Report.warnings_andThen_eq_nil rfl fun _ _ => rfl)
      fun _ _ => rfl

/-- The keys of a table are reported, and a schema is built, if and only if they are without the foreign
keys that leave the inspected tables and each of these resolves. The schemas then differ in nothing but
the names of keys, and there is one warning for each key that leaves, table by table. -/
theorem build_withoutLeaving (db : Database) (exclude : List Text.Pattern) (name : String) :
    (∀ info ∈ db.inspected exclude name, (∃ rows, db.importedKeys info = .ok rows) ↔
      (∃ rows, (db.withoutLeaving exclude name).importedKeys info = .ok rows) ∧
        ∀ k ∈ db.keysOf info, db.leaves exclude name k → db.Resolves info.schema k) ∧
    ((∃ s, (Schema.build db.source exclude name).result = .ok s) ↔
      (∃ s, (Schema.build (db.withoutLeaving exclude name).source exclude name).result = .ok s) ∧
        ∀ info ∈ db.inspected exclude name, ∀ k ∈ db.keysOf info,
          db.leaves exclude name k → db.Resolves info.schema k) ∧
    ∀ s s', (Schema.build db.source exclude name).result = .ok s →
      (Schema.build (db.withoutLeaving exclude name).source exclude name).result = .ok s' →
      s.SameButNames s' ∧
      (Schema.build db.source exclude name).warnings =
        (db.inspected exclude name).flatMap
          (fun info => (db.leaving exclude name info).map (droppedWarning info)) ∧
      (Schema.build (db.withoutLeaving exclude name).source exclude name).warnings = [] := by
  -- a build that succeeds has read the keys of every inspected table, and so each of them resolves
  have hkeys : ∀ s, (Schema.build db.source exclude name).result = .ok s →
      ∀ info ∈ db.inspected exclude name, ∃ rows, db.importedKeys info = .ok rows :=
    fun s h => Schema.exists_importedKeys_of_build h
  have hresolve : ∀ s, (Schema.build db.source exclude name).result = .ok s →
      ∀ info ∈ db.inspected exclude name, ∀ k ∈ db.keysOf info,
        db.leaves exclude name k → db.Resolves info.schema k :=
    fun s h info hinfo => ((exists_importedKeys_withoutLeaving_iff hinfo).1 (hkeys s h info hinfo)).2
  refine ⟨fun info hinfo => exists_importedKeys_withoutLeaving_iff hinfo, ?_, ?_⟩
  · constructor
    · rintro ⟨s, hs⟩
      exact ⟨(Schema.alike_build (addsLeaving (hresolve s hs))).exists_iff.1 ⟨s, hs⟩, hresolve s hs⟩
    · rintro ⟨hbuild, hall⟩
      exact (Schema.alike_build (addsLeaving hall)).exists_iff.2 hbuild
  · intro s s' hs hs'
    have halike := Schema.alike_build (addsLeaving (hresolve s hs))
    rw [warnings_loadTables, List.nil_append] at halike
    refine ⟨halike.related s s' hs hs', ?_, halike.warnings_eq' s' hs'⟩
    rw [halike.warnings_eq s hs]
    refine List.flatMap_congr ?_
    intro info hinfo
    obtain ⟨rows, hrows⟩ := hkeys s hs info hinfo
    exact droppedWarnings_eq hinfo hrows

/-- There is no schema of a database in which an inspected table has a foreign key that leaves its
columns implicit and leads to a table that does not exist. -/
theorem not_exists_build_of_missing {k : ForeignKeyDef} (hinfo : info ∈ db.inspected exclude name)
    (hk : k ∈ db.keysOf info) (hcolumns : k.columns ≠ []) (htarget : k.target = [])
    (htable : db.table? k.table = none) (hview : db.view? k.table = none) :
    ¬∃ s, (Schema.build db.source exclude name).result = .ok s := by
  rintro ⟨s, hs⟩
  have hresolve := (exists_importedKeys_iff (sameName_of_mem_inspected hinfo).2).1
    (Schema.exists_importedKeys_of_build hs info hinfo)
  exact not_resolves_of_missing hcolumns htarget htable hview (hresolve k hk)

/-! ### A sample

People with a badge and a superior. There is no table of badges, so that the key to it has to spell out
its column. -/

/-- A table of people. The key to badges leads to some columns, the one to superiors to the primary
key. -/
def people (target : List String) : Database :=
  ⟨[.empty ⟨"person", [⟨"badge", "INTEGER", false⟩, ⟨"superior", "INTEGER", false⟩], ["badge"], [],
    [⟨["badge"], "badge", target⟩, ⟨["superior"], "person", []⟩], false⟩], [], []⟩

/-- The names of the keys between people, before the driver adds its statements. -/
def keyNames (db : Database) : Option (List String) :=
  (((Report.mapList (Schema.loadTable db.source) [(.table "main" "person", 0)]).andThen fun tables =>
    Schema.loadAllKeys db.source { Schema.empty "main" with tables }
      [.table "main" "person"]).result.toOption).map fun s => s.foreignKeys.map (·.name)

theorem exists_build_of_keyNames (db : Database) (names : List String)
    (hlisted : db.listTables "main" = .ok [.table "main" "person"])
    (hnames : keyNames db = some names) :
    ∃ s, (Schema.build db.source [] "main").result = .ok s ∧ s.foreignKeys.map (·.name) = names := by
  have hok : ∀ {r : Except SchemaError Schema} {s : Schema}, r.toOption = some s → r = .ok s := by
    intro r s h
    cases r with
    | error e => cases h
    | ok s' => exact congrArg Except.ok (Option.some.inj h)
  obtain ⟨s, hs, rfl⟩ := Option.map_eq_some_iff.1 hnames
  obtain ⟨tables, htables, hkeys⟩ := Report.result_andThen_eq_ok_iff.1 (hok hs)
  have hkept : Schema.keptTables db.source [] "main" = .ok [.table "main" "person"] := by
    have hsource : db.source.listTables "main" = .ok [.table "main" "person"] := hlisted
    rw [Schema.keptTables, hsource]
    rfl
  obtain ⟨vendor, hvendor⟩ : ∃ vendor, db.vendor "main" = .ok vendor := by
    have hmain : sameName "main" "main" := beq_self_eq_true _
    rw [Database.vendor, inSchema, if_pos hmain]
    exact ⟨_, rfl⟩
  refine ⟨{ s with vendor }, Schema.result_build_eq_ok_iff.2 ?_, rfl⟩
  exact ⟨_, tables, s, vendor, hkept, List.nodup_singleton _, htables, hkeys, hvendor, rfl⟩

theorem build_withoutLeaving_sample : ∃ s s',
    (Schema.build (people ["number"]).source [] "main").result = .ok s ∧
    (Schema.build ((people ["number"]).withoutLeaving [] "main").source [] "main").result = .ok s' ∧
    s.SameButNames s' ∧
    s.foreignKeys.map (·.name) = ["fk_person_2"] ∧ s'.foreignKeys.map (·.name) = ["fk_person_1"] ∧
    (Schema.build (people ["number"]).source [] "main").warnings =
      [.foreignKeyDropped "fk_person_1" ⟨"main", "person"⟩ ⟨"main", "badge"⟩] := by
  obtain ⟨s, hs, hname⟩ := exists_build_of_keyNames (people ["number"]) ["fk_person_2"]
    (by cbv) (by cbv)
  obtain ⟨s', hs', hname'⟩ := exists_build_of_keyNames
    ((people ["number"]).withoutLeaving [] "main") ["fk_person_1"] (by cbv) (by cbv)
  obtain ⟨hsame, hwarnings, -⟩ := (build_withoutLeaving (people ["number"]) [] "main").2.2 s s' hs hs'
  exact ⟨s, s', hs, hs', hsame, hname, hname', hwarnings.trans (by cbv)⟩

/-- A key to no table that leaves its columns implicit is not dropped: it cannot be reported, and no
schema is built. -/
theorem exists_unresolved_leaving_key :
    ⟨["badge"], "badge", []⟩ ∈ (people []).keysOf (.table "main" "person") ∧
    (people []).leaves [] "main" ⟨["badge"], "badge", []⟩ = true ∧
    (people []).importedKeys (.table "main" "person") = .error (.tableNotFound "main.badge") ∧
    (Schema.build (people []).source [] "main").result =
      .error (.source (.tableNotFound "main.badge")) ∧
    ∃ s, (Schema.build ((people []).withoutLeaving [] "main").source [] "main").result = .ok s := by
  have hfirst : ((people []).keysOf (.table "main" "person"))[0]? = some ⟨["badge"], "badge", []⟩ := by
    cbv
  obtain ⟨s, hs, -⟩ := exists_build_of_keyNames ((people []).withoutLeaving [] "main") ["fk_person_1"]
    (by cbv) (by cbv)
  exact ⟨List.mem_of_getElem? hfirst, by cbv, by cbv, by cbv, s, hs⟩

end Database

end FixturePlan
