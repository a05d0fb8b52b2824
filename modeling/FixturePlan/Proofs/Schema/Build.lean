import FixturePlan.Proofs.Schema.Graph
import FixturePlan.Schema.Build
import Mathlib.Data.List.Nodup

/-!
# Built schemas

The tables that a build begins with have different names and no keys, so that the schema they make is
well-formed; attaching the keys keeps it so (`Schema.wellFormed_of_build`).
-/

namespace FixturePlan.Schema

variable {source : Source} {exclude : List Text.Pattern} {name : String} {s : Schema}

/-! ### Listed names

The check for a repeated name passes just when all names differ. -/

theorem go_eq_none_iff {seen : List QualifiedName} {infos : List TableInfo} :
    firstDuplicate?.go seen infos = none ↔
      (infos.map qualified).Nodup ∧ ∀ info ∈ infos, qualified info ∉ seen := by
  induction infos generalizing seen with
  | nil => simp [firstDuplicate?.go]
  | cons info rest ih =>
    rw [firstDuplicate?.go]
    by_cases hseen : qualified info ∈ seen
    · simp [hseen]
    · have hcontains : seen.contains (qualified info) = false := by simpa using hseen
      rw [hcontains, if_neg Bool.false_ne_true, ih, List.map_cons, List.nodup_cons,
        List.forall_mem_cons]
      simp only [List.mem_cons, not_or, List.mem_map, not_exists, not_and]
      constructor
      · rintro ⟨hnodup, hrest⟩
        exact ⟨⟨fun other hother => (hrest other hother).1, hnodup⟩, hseen,
          fun other hother => (hrest other hother).2⟩
      · rintro ⟨⟨hnew, hnodup⟩, -, hrest⟩
        exact ⟨hnodup, fun other hother => ⟨hnew other hother, hrest other hother⟩⟩

theorem firstDuplicate?_eq_none_iff {infos : List TableInfo} :
    firstDuplicate? infos = none ↔ (infos.map qualified).Nodup := by
  rw [firstDuplicate?, go_eq_none_iff]
  simp

/-! ### Tables

A table gets the number of its place in the list, and nothing of a table depends on the others. -/

theorem keyPositions_eq_ok_iff {info : TableInfo} {columns : List Column} {key : List KeyColumn}
    {positions : List Nat} :
    keyPositions info columns key = .ok positions ↔
      List.Forall₂ (fun k position => columns.findIdx? (·.name == k.column) = some position) key
        positions := by
  induction key generalizing positions with
  | nil => cases positions <;> simp [keyPositions]
  | cons k rest ih =>
    rw [keyPositions, List.forall₂_cons_left_iff]
    cases columns.findIdx? (·.name == k.column) with
    | none => simp
    | some position =>
      cases hrest : keyPositions info columns rest with
      | error e => simp [← ih, hrest]
      | ok others =>
        simp only [← ih, hrest, Except.ok.injEq, Option.some.injEq, exists_and_left, exists_eq_left']
        exact eq_comm

theorem keyPositions_lt {info : TableInfo} {columns : List Column} {key : List KeyColumn}
    {positions : List Nat} (h : keyPositions info columns key = .ok positions) :
    ∀ c ∈ positions, c < columns.length := by
  intro c hc
  obtain ⟨i, hi⟩ := List.mem_iff_getElem?.1 hc
  obtain ⟨k, -, hposition⟩ := exists_getElem?_of_forall₂ (keyPositions_eq_ok_iff.1 h).flip hi
  exact (List.findIdx?_eq_some_iff_getElem.1 hposition).1

/-- A table as it is loaded. -/
structure Loaded (info : TableInfo) (id : TableId) (t : Table) : Prop where
  id_eq : t.id = id
  name_eq : t.name = qualified info
  primaryKey_lt : ∀ c ∈ t.primaryKey, c < t.columns.length
  outgoing_eq : t.outgoing = []
  incoming_eq : t.incoming = []

theorem result_loadColumns_eq_ok_iff {info : TableInfo} {columns : List Column} :
    (loadColumns source info).result = .ok columns ↔
      ∃ infos, source.columns info = .ok infos ∧ columns = infos.filterMap columnOf? := by
  simp only [loadColumns, Report.result_andThen_eq_ok_iff, Report.result_mapError_eq_ok_iff,
    Report.result_ofExcept, Except.ok.injEq]
  exact exists_congr fun infos => and_congr_right' eq_comm

theorem result_loadPrimaryKey_eq_ok_iff {info : TableInfo} {columns : List Column}
    {positions : List Nat} :
    (loadPrimaryKey source info columns).result = .ok positions ↔
      ∃ key, source.primaryKey info = .ok key ∧
        keyPositions info columns (key.mergeSort fun a b => a.sequence ≤ b.sequence) =
          .ok positions := by
  simp only [loadPrimaryKey, Report.result_andThen_eq_ok_iff, Report.result_mapError_eq_ok_iff,
    Report.result_ofExcept]

theorem result_loadTable_eq_ok_iff {info : TableInfo} {id : TableId} {t : Table} :
    (loadTable source (info, id)).result = .ok t ↔ ∃ columns primaryKey,
      (loadColumns source info).result = .ok columns ∧
      (loadPrimaryKey source info columns).result = .ok primaryKey ∧
      t = { id, name := qualified info, columns, primaryKey, outgoing := [], incoming := [] } := by
  simp only [loadTable, Report.result_andThen_eq_ok_iff, Report.result_value, Except.ok.injEq]
  constructor
  · rintro ⟨columns, hcolumns, primaryKey, hkey, rfl⟩
    exact ⟨columns, primaryKey, hcolumns, hkey, rfl⟩
  · rintro ⟨columns, primaryKey, hcolumns, hkey, rfl⟩
    exact ⟨columns, hcolumns, primaryKey, hkey, rfl⟩

theorem loaded_of_loadTable {entry : TableInfo × TableId} {t : Table}
    (h : (loadTable source entry).result = .ok t) : Loaded entry.1 entry.2 t := by
  obtain ⟨columns, primaryKey, -, hkey, rfl⟩ := result_loadTable_eq_ok_iff.1 h
  obtain ⟨key, -, hkey⟩ := result_loadPrimaryKey_eq_ok_iff.1 hkey
  exact ⟨rfl, rfl, keyPositions_lt hkey, rfl, rfl⟩

section Loaded

variable {infos : List TableInfo} {tables : List Table}
  (hloaded : List.Forall₂ (fun entry t => Loaded entry.1 entry.2 t) infos.zipIdx tables)

include hloaded

theorem map_qualified_eq_of_loaded : infos.map qualified = tables.map (·.name) := by
  have heq : List.Forall₂ (· = ·) (infos.zipIdx.map fun entry => qualified entry.1)
      (tables.map (·.name)) := by
    rw [List.forall₂_map_left_iff, List.forall₂_map_right_iff]
    exact hloaded.imp fun _ _ h => h.name_eq.symm
  rw [List.forall₂_eq_eq_eq] at heq
  have hfst := congrArg (List.map qualified) (List.zipIdx_map_fst 0 infos)
  rw [List.map_map] at hfst
  exact hfst.symm.trans heq

theorem exists_loaded_of_getElem? {id : TableId} {t : Table} (ht : tables[id]? = some t) :
    ∃ info, Loaded info id t := by
  obtain ⟨entry, hentry, h⟩ := exists_getElem?_of_forall₂ hloaded.flip ht
  rw [List.getElem?_zipIdx] at hentry
  obtain ⟨info, -, rfl⟩ := Option.map_eq_some_iff.1 hentry
  exact ⟨info, by simpa using h⟩

/-- Loaded tables with different names make a well-formed schema. -/
theorem wellFormed_of_loaded (hnodup : (infos.map qualified).Nodup) :
    ({ empty name with tables } : Schema).WellFormed := by
  have hmem : ∀ t ∈ tables, ∃ info, Loaded info t.id t := by
    intro t ht
    obtain ⟨id, hid⟩ := List.mem_iff_getElem?.1 ht
    obtain ⟨info, h⟩ := exists_loaded_of_getElem? hloaded hid
    exact ⟨info, h.id_eq ▸ h⟩
  refine ⟨?_, ?_, ?_, nofun, nofun, ?_, ?_⟩
  · intro id t ht
    obtain ⟨info, h⟩ := exists_loaded_of_getElem? hloaded ht
    exact h.id_eq
  · intro t ht
    show (tables.find? fun u => u.name = t.name).map (·.id) = some t.id
    -- names are distinct, so that the first table of the name is the table itself
    cases hfind : tables.find? fun u => u.name = t.name with
    | none => simpa using List.find?_eq_none.1 hfind t ht
    | some u =>
      have hname : u.name = t.name := by simpa using List.find?_some hfind
      rw [map_qualified_eq_of_loaded hloaded] at hnodup
      obtain rfl := List.inj_on_of_nodup_map hnodup (List.mem_of_find?_eq_some hfind) ht hname
      rfl
  · intro t ht
    obtain ⟨info, h⟩ := hmem t ht
    exact h.primaryKey_lt
  · intro t ht
    obtain ⟨info, h⟩ := hmem t ht
    exact h.outgoing_eq
  · intro t ht
    obtain ⟨info, h⟩ := hmem t ht
    exact h.incoming_eq

end Loaded

/-! ### Stages

A build is a row of calls, each of which can end it. Well-formedness begins with the loaded tables, and
every key that is attached keeps it. -/

/-- A build succeeds if and only if every stage does. -/
theorem result_build_eq_ok_iff :
    (build source exclude name).result = .ok s ↔ ∃ infos tables s' vendor,
      keptTables source exclude name = .ok infos ∧ (infos.map qualified).Nodup ∧
      (Report.mapList (loadTable source) infos.zipIdx).result = .ok tables ∧
      (loadAllKeys source { empty name with tables } infos).result = .ok s' ∧
      source.vendor name = .ok vendor ∧ s = { s' with vendor } := by
  unfold build
  -- both directions run along the calls, with the check for duplicates in the middle
  simp only [Report.result_andThen_eq_ok_iff, Report.result_mapError_eq_ok_iff,
    Report.result_ofExcept]
  constructor
  · rintro ⟨infos, hinfos, h⟩
    split at h
    · cases h
    · next hnodup =>
      simp only [Report.result_andThen_eq_ok_iff, Report.result_mapError_eq_ok_iff,
        Report.result_ofExcept, Report.result_value, Except.ok.injEq] at h
      obtain ⟨tables, htables, s', hs', vendor, hvendor, rfl⟩ := h
      exact ⟨infos, tables, s', vendor, hinfos, firstDuplicate?_eq_none_iff.1 hnodup, htables, hs',
        hvendor, rfl⟩
  · rintro ⟨infos, tables, s', vendor, hinfos, hnodup, htables, hs', hvendor, rfl⟩
    refine ⟨infos, hinfos, ?_⟩
    simp only [firstDuplicate?_eq_none_iff.2 hnodup, Report.result_andThen_eq_ok_iff,
      Report.result_mapError_eq_ok_iff, Report.result_ofExcept, Report.result_value]
    exact ⟨tables, htables, s', hs', vendor, hvendor, rfl⟩

theorem result_loadKeys_eq_ok_iff {info : TableInfo} {s' : Schema} :
    (loadKeys source s info).result = .ok s' ↔ ∃ rows, source.importedKeys info = .ok rows ∧
      (s.attach (KeySpec.aggregate info rows)).failure = none ∧
      s' = (s.attach (KeySpec.aggregate info rows)).state.schema := by
  simp only [loadKeys, Report.result_andThen_eq_ok_iff, Report.result_mapError_eq_ok_iff,
    Report.result_ofExcept, Pass.result_toReport_eq_ok_iff, Report.result_value, Except.ok.injEq]
  refine exists_congr fun rows => and_congr_right' ?_
  constructor
  · rintro ⟨a, ⟨hok, rfl⟩, rfl⟩
    exact ⟨hok, rfl⟩
  · rintro ⟨hok, rfl⟩
    exact ⟨_, ⟨hok, rfl⟩, rfl⟩

theorem wellFormed_of_loadAllKeys {s' : Schema} {infos : List TableInfo} (h : s.WellFormed)
    (hkeys : (loadAllKeys source s infos).result = .ok s') : s'.WellFormed := by
  induction infos generalizing s with
  | nil =>
    obtain rfl := Except.ok.inj hkeys
    exact h
  | cons info rest ih =>
    obtain ⟨s₁, hone, hrest⟩ := Report.result_andThen_eq_ok_iff.1 hkeys
    obtain ⟨rows, -, -, rfl⟩ := result_loadKeys_eq_ok_iff.1 hone
    exact ih (wellFormed_attach h _) hrest

/-- A built schema is well-formed. -/
theorem wellFormed_of_build (h : (build source exclude name).result = .ok s) : s.WellFormed := by
  obtain ⟨infos, tables, s', vendor, -, hnodup, htables, hkeys, -, rfl⟩ :=
    result_build_eq_ok_iff.1 h
  have hloaded := (Report.result_mapList_eq_ok_iff.1 htables).imp fun _ _ => loaded_of_loadTable
  have hs' := wellFormed_of_loadAllKeys (wellFormed_of_loaded hloaded hnodup) hkeys
  refine ⟨hs'.table_id, hs'.find?_name, hs'.primaryKey_lt, hs'.foreignKey_id, ?_, hs'.outgoing_eq,
    hs'.incoming_eq⟩
  intro k hk
  obtain ⟨t, u, hj⟩ := hs'.exists_joins k hk
  exact ⟨t, u, hj.source_eq, hj.target_eq, hj.sourceTable_eq, hj.targetTable_eq, hj.pairs,
    hj.nullable_eq⟩

end FixturePlan.Schema
