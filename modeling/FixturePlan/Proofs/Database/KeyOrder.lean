import FixturePlan.Database.Catalog
import FixturePlan.Proofs.Database.StorageOrder
import FixturePlan.Proofs.Order.SortedBy
import Mathlib.Data.List.Nodup

/-!
# The order of primary keys

A table without row numbers is kept in order of its primary key. The key that the catalog reports for it
names the columns of the declared key in their order (`Database.primaryKey_eq`), so that to sort by the
reported names is to sort by the declared key. Sorting loses and repeats no row
(`StoredTable.perm_sortBy`).
-/

namespace FixturePlan

/-- Lists without repetition stay when repetitions are erased, and every other list loses them. -/
theorem nodup_eraseDups {α : Type} [DecidableEq α] (as : List α) : as.eraseDups.Nodup := by
  induction h : as.length using Nat.strong_induction_on generalizing as with
  | _ n ih =>
    cases as with
    | nil => exact List.nodup_nil
    | cons a rest =>
      rw [List.eraseDups_cons, List.nodup_cons]
      refine ⟨?_, ih _ ?_ _ rfl⟩
      · rw [List.mem_eraseDups]
        simp
      · rw [← h, List.length_cons]
        exact Nat.lt_succ_of_le (List.length_filter_le _ _)

theorem idxOf_lt_of_filter {α : Type} [DecidableEq α] {p : α → Bool} {as : List α} {a b : α}
    (ha : p a = true) (hb : p b = true) (h : (as.filter p).idxOf a < (as.filter p).idxOf b) :
    as.idxOf a < as.idxOf b := by
  induction as with
  | nil => exact absurd h (Nat.lt_irrefl _)
  | cons c as ih =>
    by_cases hca : c = a
    · subst hca
      have hne : c ≠ b := fun heq => Nat.lt_irrefl _ (heq ▸ h)
      rw [List.idxOf_cons_self, List.idxOf_cons_ne _ hne]
      exact Nat.succ_pos _
    · by_cases hcb : c = b
      · subst hcb
        rw [List.filter_cons_of_pos hb, List.idxOf_cons_self] at h
        exact absurd h (Nat.not_lt_zero _)
      · rw [List.idxOf_cons_ne _ hca, List.idxOf_cons_ne _ hcb]
        refine Nat.succ_lt_succ (ih ?_)
        by_cases hc : p c = true
        · rw [List.filter_cons_of_pos hc, List.idxOf_cons_ne _ hca, List.idxOf_cons_ne _ hcb] at h
          exact Nat.lt_of_succ_lt_succ h
        · rwa [List.filter_cons_of_neg hc] at h

/-- Without repetitions the elements of a list stand in the order of their first places. -/
theorem pairwise_idxOf_eraseDups {α : Type} [DecidableEq α] (as : List α) :
    as.eraseDups.Pairwise fun a b => as.idxOf a < as.idxOf b := by
  -- on the length, since the first element is erased from all of the rest
  induction h : as.length using Nat.strong_induction_on generalizing as with
  | _ n ih =>
    cases as with
    | nil => exact List.Pairwise.nil
    | cons c rest =>
      have hrest : ∀ a ∈ (rest.filter fun b => !b == c).eraseDups, (!a == c) = true :=
        fun a ha => (List.mem_filter.1 (List.mem_eraseDups.1 ha)).2
      have hne : ∀ {a}, (!a == c) = true → c ≠ a := by
        rintro a ha rfl
        simp at ha
      rw [List.eraseDups_cons, List.pairwise_cons]
      refine ⟨fun a ha => ?_, ?_⟩
      · rw [List.idxOf_cons_self, List.idxOf_cons_ne _ (hne (hrest a ha))]
        exact Nat.succ_pos _
      · have hlt : (rest.filter fun b => !b == c).length < n := by
          rw [← h, List.length_cons]
          exact Nat.lt_succ_of_le (List.length_filter_le _ _)
        refine (ih _ hlt _ rfl).imp_of_mem fun {a b} ha hb hab => ?_
        rw [List.idxOf_cons_ne _ (hne (hrest a ha)), List.idxOf_cons_ne _ (hne (hrest b hb))]
        exact Nat.succ_lt_succ (idxOf_lt_of_filter (hrest a ha) (hrest b hb) hab)

/-- Sorting by what elements are compared by brings these in order. -/
theorem pairwise_mergeSort_on {α β : Type} (cmp : β → β → Ordering) [Std.TransCmp cmp] (f : α → β)
    (as : List α) : (as.mergeSort fun a b => (cmp (f a) (f b)).isLE).Pairwise fun a b =>
      (cmp (f a) (f b)).isLE = true := by
  refine List.pairwise_mergeSort ?_ ?_ as
  · intro a b c hab hbc
    exact Std.TransCmp.isLE_trans hab hbc
  · intro a b
    have hswap : (cmp (f b) (f a)).isLE = (cmp (f a) (f b)).isGE :=
      Std.OrientedCmp.isGE_eq_isLE.symm
    rw [hswap]
    cases cmp (f a) (f b) <;> rfl

namespace TableDef

/-- What every database asks of the columns of a table: there is one, and no two have the same name. -/
structure Declarable (t : TableDef) : Prop where
  columns_ne_nil : t.columns ≠ []
  names_apart : t.columns.Pairwise fun c d => ¬sameName c.name d.name

/-- The name of the column at a position. -/
def columnName (t : TableDef) (position : Nat) : String :=
  ((t.columns[position]?).map (·.name)).getD ""

variable {t : TableDef} {position : Nat} {name : String}

theorem lt_length_of_position? (h : t.position? name = some position) :
    position < t.columns.length :=
  (List.findIdx?_eq_some_iff_getElem.1 h).1

theorem lt_length_of_mem_keyPositions (h : position ∈ t.keyPositions) :
    position < t.columns.length := by
  have hmem : position ∈ t.primaryKey.filterMap t.position? := by
    unfold keyPositions at h
    split at h
    · exact List.mem_eraseDups.1 h
    · exact h
  obtain ⟨name, -, hname⟩ := List.mem_filterMap.1 hmem
  exact lt_length_of_position? hname

/-- Names find the columns that they are the names of. -/
theorem Declarable.position?_columnName (ht : t.Declarable) (h : position < t.columns.length) :
    t.position? (t.columnName position) = some position := by
  have hname : t.columnName position = t.columns[position].name := by
    rw [columnName, List.getElem?_eq_getElem h]
    rfl
  rw [hname]
  refine List.findIdx?_eq_some_iff_getElem.2 ⟨h, beq_self_eq_true _, ?_⟩
  intro earlier hlt
  exact List.pairwise_iff_getElem.1 ht.names_apart earlier position _ h hlt

/-- The declared key as the catalog reports it. -/
def reportedKey (t : TableDef) : List KeyColumn :=
  t.keyPositions.zipIdx.map fun (position, place) => ⟨t.columnName position, place + 1⟩

theorem pairwise_reportedKey (t : TableDef) :
    t.reportedKey.Pairwise fun a b => a.sequence < b.sequence := by
  rw [reportedKey, List.pairwise_map]
  have hplaces : (t.keyPositions.zipIdx.map Prod.snd).Pairwise (· < ·) := by
    rw [List.zipIdx_map_snd]
    exact List.pairwise_lt_range' 1
  exact (List.pairwise_map.1 hplaces).imp fun hlt => Nat.succ_lt_succ hlt

/-- The report about the column at a position, if it belongs to the key. -/
def keyColumn? (t : TableDef) (position : Nat) : Option KeyColumn :=
  (t.keyPositions.findIdx? (· == position)).map fun place => ⟨t.columnName position, place + 1⟩

theorem reportedKey_eq_filterMap (hnodup : t.keyPositions.Nodup) :
    t.reportedKey = t.keyPositions.filterMap t.keyColumn? := by
  have hplace : ∀ entry ∈ t.keyPositions.zipIdx,
      t.keyColumn? entry.1 = some ⟨t.columnName entry.1, entry.2 + 1⟩ := by
    intro entry hentry
    obtain ⟨hlt, hget⟩ := List.getElem?_eq_some_iff.1 (List.mem_zipIdx_iff_getElem?.1 hentry)
    have hfind : t.keyPositions.findIdx? (· == entry.1) = some entry.2 := by
      refine List.findIdx?_eq_some_iff_getElem.2 ⟨hlt, by simp [hget], ?_⟩
      intro earlier hearlier heq
      have hsame : t.keyPositions[earlier] = t.keyPositions[entry.2] := by simpa [hget] using heq
      exact absurd (hnodup.getElem_inj_iff.1 hsame) (Nat.ne_of_lt hearlier)
    rw [keyColumn?, hfind]
    rfl
  calc t.reportedKey
      = t.keyPositions.zipIdx.filterMap fun entry => some ⟨t.columnName entry.1, entry.2 + 1⟩ :=
        (congrFun List.filterMap_eq_map _).symm
    _ = t.keyPositions.zipIdx.filterMap fun entry => t.keyColumn? entry.1 :=
        (List.filterMap_congr hplace).symm
    _ = (t.keyPositions.zipIdx.map Prod.fst).filterMap t.keyColumn? := by
        rw [List.filterMap_map]
        rfl
    _ = t.keyPositions.filterMap t.keyColumn? := by rw [List.zipIdx_map_fst]

/-- The columns of the key are reported in the order of the table. -/
theorem perm_keyColumns {positions : List Nat} (hnodup : positions.Nodup)
    (hkey : ∀ position, position ∈ positions ↔ position ∈ t.keyPositions) :
    ((List.range t.columns.length).filterMap t.keyColumn?).Perm
      (positions.filterMap t.keyColumn?) := by
  have hother : ∀ position ∉ positions, t.keyColumn? position = none := by
    intro position hposition
    rw [keyColumn?, List.findIdx?_eq_none_iff.2, Option.map_none]
    intro other hmem
    exact beq_eq_false_iff_ne.2 fun heq => hposition ((hkey position).2 (heq ▸ hmem))
  have hinside : ((List.range t.columns.length).filter (· ∈ positions)).Perm positions := by
    refine (List.perm_ext_iff_of_nodup (List.nodup_range.filter _) hnodup).2 ?_
    intro position
    rw [List.mem_filter, List.mem_range, decide_eq_true_iff]
    exact ⟨fun h => h.2, fun h => ⟨lt_length_of_mem_keyPositions ((hkey position).1 h), h⟩⟩
  refine List.Perm.trans (.of_eq ?_) (hinside.filterMap t.keyColumn?)
  rw [List.filterMap_filter]
  refine List.filterMap_congr ?_
  intro position _
  by_cases hposition : position ∈ positions
  · simp [hposition]
  · simp [hposition, hother position hposition]

/-- The columns of the key, in the order of the table, are those of the declared key in another
order. -/
theorem perm_reportedKey (hnodup : t.keyPositions.Nodup) :
    ((List.range t.columns.length).filterMap t.keyColumn?).Perm t.reportedKey := by
  rw [reportedKey_eq_filterMap hnodup]
  exact perm_keyColumns hnodup fun _ => Iff.rfl

theorem keyColumn?_of_mem (h : position ∈ t.keyPositions) : t.keyColumn? position =
    some ⟨t.columnName position, t.keyPositions.idxOf position + 1⟩ := by
  have hplace : t.keyPositions.findIdx? (· == position) = some (t.keyPositions.idxOf position) :=
    List.findIdx?_eq_some_iff_findIdx_eq.2 ⟨List.idxOf_lt_length_of_mem h, rfl⟩
  rw [keyColumn?, hplace]
  rfl

end TableDef

namespace Database

variable {db : Database} {schema name : String} {t : StoredTable}

/-- What is said about a table of the schema `main`. -/
theorem catalogColumns_eq (hmain : sameName schema "main") (ht : db.table? name = some t)
    (hcolumns : t.declaration.columns ≠ []) :
    db.catalogColumns (.table schema name) = .ok (db.tableColumns t.declaration) := by
  have hne : db.tableColumns t.declaration ≠ [] := by
    intro hnil
    have hzip : t.declaration.columns.zipIdx = [] := List.map_eq_nil_iff.1 hnil
    exact hcolumns (List.zipIdx_eq_nil_iff.1 hzip)
  have hanswer : inSchema schema (db.mainColumns name) [] = .ok (db.tableColumns t.declaration) := by
    rw [inSchema, if_pos hmain, mainColumns, ht]
  unfold catalogColumns
  rw [TableInfo.table, hanswer]
  cases hlist : db.tableColumns t.declaration with
  | nil => exact absurd hlist hne
  | cons c rest => rfl

theorem filterMap_tableColumns (db : Database) (t : TableDef) :
    (db.tableColumns t).filterMap (fun c => c.keySequence.map (KeyColumn.mk c.name)) =
      (List.range t.columns.length).filterMap t.keyColumn? := by
  have hpositions : t.columns.zipIdx.map Prod.snd = List.range t.columns.length := by
    rw [List.zipIdx_map_snd, List.range_eq_range']
  rw [← hpositions, List.filterMap_map, tableColumns, List.filterMap_map]
  refine List.filterMap_congr ?_
  rintro ⟨c, position⟩ hc
  have hget := List.mem_zipIdx_iff_getElem?.1 hc
  simp only [Function.comp_apply, TableDef.keyColumn?, TableDef.columnName, hget, Option.map_map,
    Option.map_some, Option.getD_some]
  rfl

/-- A key without repetitions is reported as declared. -/
theorem primaryKey_eq (hmain : sameName schema "main") (ht : db.table? name = some t)
    (hcolumns : t.declaration.columns ≠ []) (hnodup : t.declaration.keyPositions.Nodup) :
    db.primaryKey (.table schema name) = .ok t.declaration.reportedKey := by
  rw [primaryKey, catalogColumns_eq hmain ht hcolumns, Except.map, filterMap_tableColumns]
  have hascending := t.declaration.pairwise_reportedKey
  have hsorted : SortedBy KeyColumn.sequence t.declaration.reportedKey t.declaration.reportedKey :=
    ⟨hascending.imp Nat.le_of_lt, fun _ => rfl⟩
  have hdistinct : (t.declaration.reportedKey.map KeyColumn.sequence).Nodup :=
    List.pairwise_map.2 (hascending.imp Nat.ne_of_lt)
  exact congrArg Except.ok ((sortedBy_mergeSort _ _).eq
    (hsorted.of_perm (TableDef.perm_reportedKey hnodup) hdistinct))

/-- The names of any reported key lead back to the columns of the declared one, each at its first
place. -/
theorem filterMap_primaryKey (hmain : sameName schema "main") (ht : db.table? name = some t)
    (hdeclared : t.declaration.Declarable) {key : List KeyColumn}
    (hkey : db.primaryKey (.table schema name) = .ok key) :
    (key.map (·.column)).filterMap t.declaration.position? = t.declaration.keyPositions.eraseDups := by
  -- every column is reported at the first of its places in the key
  let positions := t.declaration.keyPositions
  let columnAt (position : Nat) : KeyColumn :=
    ⟨t.declaration.columnName position, positions.idxOf position + 1⟩
  have hcolumns : positions.eraseDups.filterMap t.declaration.keyColumn? =
      positions.eraseDups.map columnAt := by
    rw [← List.filterMap_eq_map]
    exact List.filterMap_congr fun position hposition =>
      TableDef.keyColumn?_of_mem (List.mem_eraseDups.1 hposition)
  have hascending : (positions.eraseDups.map columnAt).Pairwise fun a b => a.sequence < b.sequence :=
    List.pairwise_map.2 ((pairwise_idxOf_eraseDups positions).imp Nat.succ_lt_succ)
  -- the reported key is sorted, and its places are distinct, so that sorting gives just this list
  have hsorted : SortedBy KeyColumn.sequence (positions.eraseDups.map columnAt)
      (positions.eraseDups.map columnAt) :=
    ⟨hascending.imp Nat.le_of_lt, fun _ => rfl⟩
  have hdistinct : ((positions.eraseDups.map columnAt).map KeyColumn.sequence).Nodup :=
    List.pairwise_map.2 (hascending.imp Nat.ne_of_lt)
  have hperm := TableDef.perm_keyColumns (t := t.declaration) (nodup_eraseDups positions)
    fun _ => List.mem_eraseDups
  rw [hcolumns] at hperm
  rw [primaryKey, catalogColumns_eq hmain ht hdeclared.columns_ne_nil, Except.map,
    filterMap_tableColumns] at hkey
  obtain rfl := Except.ok.inj hkey
  rw [(sortedBy_mergeSort _ _).eq (hsorted.of_perm hperm hdistinct), List.map_map,
    List.filterMap_map]
  have hback : ∀ position ∈ positions.eraseDups,
      t.declaration.position? (t.declaration.columnName position) = some position :=
    fun position hposition => hdeclared.position?_columnName
      (TableDef.lt_length_of_mem_keyPositions (List.mem_eraseDups.1 hposition))
  exact (List.filterMap_congr hback).trans (List.filterMap_some)

end Database

/-! ### Sorted rows -/

namespace StoredTable

/-- The values of a row in some columns. -/
def keyOf (positions : List Nat) (r : StoredRow) : List Cell :=
  positions.map fun i => (r.cells[i]?).getD .null

/-- Whether a row comes no later than another in order of the primary key. -/
def KeyLE (t : StoredTable) (a b : StoredRow) : Prop :=
  (Cell.compareLists Cell.storageOrder (keyOf t.declaration.keyPositions a)
    (keyOf t.declaration.keyPositions b)).isLE = true

/-- A column that is compared again makes no difference. -/
theorem compareLists_keyOf_eraseDups (positions : List Nat) (a b : StoredRow) :
    Cell.compareLists Cell.storageOrder (keyOf positions.eraseDups a) (keyOf positions.eraseDups b) =
      Cell.compareLists Cell.storageOrder (keyOf positions a) (keyOf positions b) := by
  -- a column that compares equal decides nothing, and may be left out further down
  have hfilter : ∀ (i : Nat) (rest : List Nat),
      ((a.cells[i]?).getD .null).storageOrder ((b.cells[i]?).getD .null) = .eq →
      Cell.compareLists Cell.storageOrder (keyOf (rest.filter fun j => !j == i) a)
          (keyOf (rest.filter fun j => !j == i) b) =
        Cell.compareLists Cell.storageOrder (keyOf rest a) (keyOf rest b) := by
    intro i rest heq
    induction rest with
    | nil => rfl
    | cons j rest ih =>
      by_cases hj : j = i
      · subst hj
        rw [List.filter_cons_of_neg (by simp), ih]
        simp [keyOf, Cell.compareLists, heq]
      · rw [List.filter_cons_of_pos (by simpa using hj)]
        simp only [keyOf, List.map_cons, Cell.compareLists] at ih ⊢
        rw [ih]
  induction h : positions.length using Nat.strong_induction_on generalizing positions with
  | _ n ih =>
    cases positions with
    | nil => rfl
    | cons i rest =>
      have hlt : (rest.filter fun j => !j == i).length < n := by
        rw [← h, List.length_cons]
        exact Nat.lt_succ_of_le (List.length_filter_le _ _)
      have hrest := ih _ hlt _ rfl
      rw [List.eraseDups_cons]
      simp only [keyOf, List.map_cons, Cell.compareLists] at hrest hfilter ⊢
      rw [hrest]
      -- only where the first column does not decide do the others matter
      cases heq : ((a.cells[i]?).getD Cell.null).storageOrder ((b.cells[i]?).getD Cell.null) with
      | eq => exact congrArg _ (hfilter i rest heq)
      | lt => rfl
      | gt => rfl

theorem perm_sortBy (positions : List Nat) (rows : List StoredRow) :
    (sortBy positions rows).Perm rows :=
  List.mergeSort_perm rows _

theorem pairwise_sortBy (positions : List Nat) (rows : List StoredRow) :
    (sortBy positions rows).Pairwise fun a b =>
      (Cell.compareLists Cell.storageOrder (keyOf positions a) (keyOf positions b)).isLE = true :=
  pairwise_mergeSort_on (Cell.compareLists Cell.storageOrder) (keyOf positions) rows

theorem perm_ordered (t : StoredTable) : t.ordered.Perm t.rows := by
  unfold ordered
  split
  · exact perm_sortBy _ _
  · exact List.mergeSort_perm _ _

end StoredTable

end FixturePlan
