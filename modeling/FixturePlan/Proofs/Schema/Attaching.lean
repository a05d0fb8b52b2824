import FixturePlan.Proofs.Schema.Build

/-!
# Schemas that keys are attached to

Keys may be attached to a built schema at any time, and an attempt may fail midway. Whatever the
attempts, every table and every key of the schema agrees with the others in numbers, names and lists
(`Schema.agrees_attachAll`).
-/

namespace FixturePlan

/-- A column is the first of its name. -/
def Table.FirstNamed (t : Table) (name : String) (column : Nat) : Prop :=
  (∃ c, t.columns[column]? = some c ∧ c.name = name) ∧
    ∀ earlier < column, ∀ c, t.columns[earlier]? = some c → c.name ≠ name

theorem Table.firstNamed_of_columnIndex? {t : Table} {name : String} {column : Nat}
    (h : t.columnIndex? name = some column) : t.FirstNamed name column := by
  obtain ⟨hlt, hname, hearlier⟩ := List.findIdx?_eq_some_iff_getElem.1 h
  refine ⟨⟨_, List.getElem?_eq_getElem hlt, by simpa using hname⟩, fun earlier hlt' c hc => ?_⟩
  obtain ⟨_, rfl⟩ := List.getElem?_eq_some_iff.1 hc
  simpa using hearlier earlier hlt'

namespace Schema

/-- Attach lists of keys one after the other, no matter whether earlier attempts have failed. -/
def attachAll (s : Schema) (attempts : List (List KeySpec)) : Schema :=
  attempts.foldl (fun s specs => (s.attach specs).state.schema) s

/-- The numbers of the keys of a kind, in ascending order. -/
def keyIdsWhere (s : Schema) (p : ForeignKey → Bool) : List ForeignKeyId :=
  (List.range s.foreignKeys.length).filter fun id => (s.foreignKey? id).any p

/-- A table stands at its number, is found under its name, and lists the keys that leave it and those
that lead to it. -/
structure TableAgrees (s : Schema) (id : TableId) (t : Table) : Prop where
  id_eq : t.id = id
  find?_eq : s.find? t.name = some id
  primaryKey_lt : ∀ c ∈ t.primaryKey, c < t.columns.length
  outgoing_eq : t.outgoing = s.keyIdsWhere (·.source = id)
  incoming_eq : t.incoming = s.keyIdsWhere (·.target = id)

/-- A key stands at its number and leads from columns of one table to columns of another. -/
structure KeyAgrees (s : Schema) (id : ForeignKeyId) (k : ForeignKey) (source target : Table) :
    Prop where
  id_eq : k.id = id
  source_eq : s.table? k.source = some source
  target_eq : s.table? k.target = some target
  sourceTable_eq : k.sourceTable = source.name
  targetTable_eq : k.targetTable = target.name
  sources : ∀ p ∈ k.pairs, source.FirstNamed p.sourceColumn p.sourceIndex
  targets : ∀ p ∈ k.pairs, target.FirstNamed p.targetColumn p.targetIndex
  nullable_iff : k.nullable = true ↔
    ∃ p ∈ k.pairs, ∃ c, source.columns[p.sourceIndex]? = some c ∧ c.nullable = true

variable {s : Schema}

namespace WellFormed

variable (h : s.WellFormed)

include h

theorem map_id_foreignKeys : s.foreignKeys.map (·.id) = List.range s.foreignKeys.length := by
  refine List.ext_getElem (by rw [List.length_map, List.length_range]) fun i hi _ => ?_
  rw [List.length_map] at hi
  rw [List.getElem_map, List.getElem_range, h.foreignKey_id i _ (List.getElem?_eq_getElem hi)]

theorem map_id_filter_eq_keyIdsWhere (p : ForeignKey → Bool) :
    (s.foreignKeys.filter p).map (·.id) = s.keyIdsWhere p := by
  rw [keyIdsWhere, ← h.map_id_foreignKeys, List.filter_map]
  refine congrArg _ (List.filter_congr fun k hk => ?_)
  rw [Function.comp_apply, h.foreignKey?_id hk, Option.any_some]

theorem tableAgrees {id : TableId} {t : Table} (ht : s.table? id = some t) : s.TableAgrees id t := by
  have hmem : t ∈ s.tables := mem_tables_iff.2 ⟨id, ht⟩
  obtain rfl := h.table_id id t ht
  exact ⟨rfl, h.find?_name t hmem, h.primaryKey_lt t hmem,
    (h.outgoing_eq t hmem).trans (h.map_id_filter_eq_keyIdsWhere _),
    (h.incoming_eq t hmem).trans (h.map_id_filter_eq_keyIdsWhere _)⟩

theorem exists_keyAgrees {id : ForeignKeyId} {k : ForeignKey} (hk : s.foreignKey? id = some k) :
    ∃ source target, s.KeyAgrees id k source target := by
  obtain ⟨source, target, hj⟩ := h.exists_joins k (mem_foreignKeys_iff.2 ⟨id, hk⟩)
  refine ⟨source, target, h.foreignKey_id id k hk, hj.source_eq, hj.target_eq, hj.sourceTable_eq,
    hj.targetTable_eq, ?_, ?_, ?_⟩
  · exact fun p hp => Table.firstNamed_of_columnIndex? (hj.pairs p hp).1
  · exact fun p hp => Table.firstNamed_of_columnIndex? (hj.pairs p hp).2
  · rw [hj.nullable_eq, List.any_eq_true]
    exact exists_congr fun p => and_congr_right fun _ => admitsNull_eq_true_iff

/-- Attempts to attach keys keep a schema well-formed. -/
theorem attachAll (attempts : List (List KeySpec)) : (s.attachAll attempts).WellFormed := by
  induction attempts generalizing s with
  | nil => exact h
  | cons specs rest ih => exact ih (wellFormed_attach h specs)

end WellFormed

/-- After any attempts to attach keys to a built schema, all its tables and keys agree. -/
theorem agrees_attachAll {source : Source} {exclude : List Text.Pattern} {name : String}
    (hbuild : (build source exclude name).result = .ok s) (attempts : List (List KeySpec)) :
    (∀ id t, (s.attachAll attempts).table? id = some t →
      (s.attachAll attempts).TableAgrees id t) ∧
    ∀ id k, (s.attachAll attempts).foreignKey? id = some k →
      ∃ t u, (s.attachAll attempts).KeyAgrees id k t u := by
  have hs := (wellFormed_of_build hbuild).attachAll attempts
  exact ⟨fun _ _ ht => hs.tableAgrees ht, fun _ _ hk => hs.exists_keyAgrees hk⟩

/-! ### A sample

Folders with a parent, which nothing says when they are built. The key is attached twice; the first
attempt goes on to a column that is not there. -/

/-- The columns of folders. -/
def folderSource : Source where
  listTables _ := .ok [.table "main" "folder"]
  columns _ := .ok (["id", "parent"].map fun name =>
    ⟨some name, 0, "integer", TypeCode.other, true, false, none, none⟩)
  primaryKey _ := .ok []
  importedKeys _ := .ok []
  vendor _ := .ok ∅
  scan _ _ _ := .ok ⟨[], none⟩

/-- The table of folders before keys are attached. -/
def folderTable : Table where
  id := 0
  name := ⟨"main", "folder"⟩
  columns := ["id", "parent"].map fun name =>
    ⟨name, ⟨"integer", TypeCode.other, true, none, none⟩, true, false⟩
  primaryKey := []
  outgoing := []
  incoming := []

/-- The key from a column of a folder to another folder. -/
def folderKey (column : String) : KeySpec :=
  ⟨"within", ⟨"main", "folder"⟩, ⟨"main", "folder"⟩, [⟨1, column, "id"⟩]⟩

theorem result_build_folderSource : (build folderSource [] "main").result =
    .ok { empty "main" with tables := [folderTable] } := by
  refine result_build_eq_ok_iff.2 ⟨_, [folderTable], _, ∅, rfl, by decide, ?_, rfl, rfl, rfl⟩
  refine Report.result_mapList_eq_ok_iff.2 (.cons ?_ .nil)
  refine result_loadTable_eq_ok_iff.2 ⟨_, [], rfl, ?_, rfl⟩
  exact result_loadPrimaryKey_eq_ok_iff.2 ⟨[], rfl, by rw [List.mergeSort_nil]; rfl⟩

theorem agrees_attachAll_sample :
    (attach { empty "main" with tables := [folderTable] }
        [folderKey "parent", folderKey "owner"]).failure ≠ none ∧
      ∃ t, (attachAll { empty "main" with tables := [folderTable] }
        [[folderKey "parent", folderKey "owner"], [folderKey "parent"]]).table? 0 = some t ∧
        t.outgoing = [0, 1] ∧ t.incoming = [0, 1] := by
  obtain ⟨t, ht⟩ : ∃ t, (attachAll { empty "main" with tables := [folderTable] }
      [[folderKey "parent", folderKey "owner"], [folderKey "parent"]]).table? 0 = some t := ⟨_, rfl⟩
  have hagrees := (agrees_attachAll result_build_folderSource _).1 0 t ht
  exact ⟨by decide, t, ht, hagrees.outgoing_eq.trans (by decide),
    hagrees.incoming_eq.trans (by decide)⟩

end Schema

end FixturePlan
