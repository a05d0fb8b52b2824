import FixturePlan.Proofs.Database.KeyOrder
import FixturePlan.Proofs.Database.Keys
import FixturePlan.Proofs.SortedMap
import Mathlib.Data.List.Induction

/-!
# Foreign keys from their listing

A database lists the column pairs of the foreign keys of a table, each with the number of its key and its
place in it (`TableDef.listing`). The pairs are put together by key, the keys in order of the positions of
their first columns, and each key is reported with its place in this order (`Database.reportListed`), which
is how the foreign keys of a table are reported (`Database.importedKeys_eq_reportListed`). Aggregation then
gives back the listed keys one to one (`Database.reportsKeys_of_listed`).
-/

namespace FixturePlan

theorem forall₂_filterMap {α β : Type} {r : α → β → Prop} {f : α → Option β} {as : List α}
    (h : ∀ a ∈ as, ∃ b, f a = some b ∧ r a b) : List.Forall₂ r as (as.filterMap f) := by
  induction as with
  | nil => exact .nil
  | cons a rest ih =>
    obtain ⟨⟨b, hb, hr⟩, hrest⟩ := List.forall_mem_cons.1 h
    rw [List.filterMap_cons_some hb]
    exact .cons hr (ih hrest)

instance : KeyOrder Int where
  irrefl := Int.lt_irrefl
  trans := Int.lt_trans
  eq_of_not_lt h h' := Int.le_antisymm (Int.not_lt.1 h') (Int.not_lt.1 h)

/-- A column pair in the list of the foreign keys of a table. -/
structure ListedPair where
  /-- The number of the key. -/
  id : Int
  /-- The place in the key, from 0. -/
  place : Nat
  table : String
  source : String
  /-- The column it leads to, if it is declared. -/
  target : Option String
  deriving DecidableEq

namespace ListedPair

/-- The pairs of a key, as listed. -/
def ofKey (rows : List ListedPair) (id : Int) : List ListedPair := rows.filter (·.id = id)

/-- The pairs by the numbers of their keys. -/
def byKey (rows : List ListedPair) : SortedMap Int (List ListedPair) :=
  rows.foldl (fun keys r => keys.insert r.id ((keys.find? r.id).getD [] ++ [r])) ∅

end ListedPair

namespace TableDef

/-- The position of the first source column of some pairs; past all columns if it is none. -/
def firstPosition (t : TableDef) (pairs : List ListedPair) : Nat :=
  (pairs.head?.bind fun r => t.columns.findIdx? (·.name = r.source)).getD t.columns.length

/-- A name of a column as the table spells it. -/
def spelling (t : TableDef) (column : String) : String :=
  ((t.position? column >>= (t.columns[·]?)).map (·.name)).getD column

/-- The column pairs of the foreign key of a number, as listed. -/
def listed (t : TableDef) (entry : ForeignKeyDef × Nat) : List ListedPair :=
  entry.1.columns.zipIdx.map fun (column, place) =>
    ⟨entry.2, place, entry.1.table, t.spelling column, entry.1.target[place]?⟩

/-- The list of the column pairs of the foreign keys of a table: the latest declaration has the number
0. -/
def listing (t : TableDef) : List ListedPair := t.foreignKeys.reverse.zipIdx.flatMap t.listed

end TableDef

namespace Database

/-- The column that a pair of a key leads to: as declared, or by the primary key of the table of the first
pair for which it is not. -/
def listedTarget (db : Database) (schema : String) (pairs : List ListedPair) (r : ListedPair) :
    Except SourceError String :=
  match r.target with
  | some column => .ok column
  | none =>
    let table := ((pairs.find? (·.target.isNone)).map (·.table)).getD r.table
    match db.primaryKey (.table schema table) with
    | .error e => .error e
    | .ok key =>
      match key[r.place]? with
      | some c => .ok c.column
      | none => .error (.tableNotFound s!"{schema}.{r.table}")

/-- A listed pair of the `ordinal`-th key as it is reported. -/
def reportPair (info : TableInfo) (ordinal : Nat) (r : ListedPair) (target : String) : ImportedKey :=
  { constraint := none
    ordinal := ordinal + 1
    sourceColumn := r.source
    targetSchema := info.schema
    targetTable := r.table
    targetColumn := target
    sequence := r.place + 1 }

/-- Report the pairs of the `ordinal`-th key. -/
def reportKey (db : Database) (info : TableInfo) (entry : List ListedPair × Nat) :
    Except SourceError (List ImportedKey) :=
  entry.1.mapM fun r => (db.listedTarget info.schema entry.1 r).map (reportPair info entry.2 r)

/-- Report listed pairs key by key, the keys in order of the positions of their first columns. -/
def reportListed (db : Database) (info : TableInfo) (t : TableDef) (rows : List ListedPair) :
    Except SourceError (List ImportedKey) :=
  let keys := (ListedPair.byKey rows).values.mergeSort fun a b => t.firstPosition a ≤ t.firstPosition b
  (keys.zipIdx.mapM (db.reportKey info)).map List.flatten

/-- What a listing has to fulfil: the places of the pairs of each key count from 0, they lead to one table,
and where columns are left implicit, its primary key is long enough. -/
structure Listed (db : Database) (schema : String) (rows : List ListedPair) : Prop where
  counted : ∀ id, (ListedPair.ofKey rows id).map (·.place) =
    List.range (ListedPair.ofKey rows id).length
  table_eq : ∀ r ∈ rows, ∀ r' ∈ rows, r.id = r'.id → r.table = r'.table
  implicit : ∀ r ∈ rows, r.target = none →
    ∃ key, db.primaryKey (.table schema r.table) = .ok key ∧ r.place < key.length

/-- A key comes before another: its first column does, or the two have one first column and it has the
lesser number. -/
def ComesBefore (t : TableDef) (rows : List ListedPair) (a b : Int) : Prop :=
  let position (id : Int) : Nat := t.firstPosition (ListedPair.ofKey rows id)
  position a < position b ∨ position a = position b ∧ a < b

/-- A column pair is what a listed one says. -/
structure SaysPair (db : Database) (schema : String) (r : ListedPair) (pair : PairSpec) : Prop where
  sequence_eq : pair.sequence = r.place + 1
  source_eq : pair.sourceColumn = r.source
  declared : ∀ column, r.target = some column → pair.targetColumn = column
  implicit : r.target = none → ∃ key c, db.primaryKey (.table schema r.table) = .ok key ∧
    key[r.place]? = some c ∧ pair.targetColumn = c.column

/-- A key is what the pairs listed under a number say, and has the name of its place. -/
structure SaysKey (db : Database) (info : TableInfo) (rows : List ListedPair) (entry : Int × Nat)
    (spec : KeySpec) : Prop where
  name_eq : spec.name = KeySpec.syntheticName info.name (entry.2 + 1)
  source_eq : spec.sourceTable = ⟨info.schema, info.name⟩
  target_eq : ∀ r ∈ ListedPair.ofKey rows entry.1, spec.targetTable = ⟨info.schema, r.table⟩
  pairs : List.Forall₂ (db.SaysPair info.schema) (ListedPair.ofKey rows entry.1) spec.pairs

/-- Reported rows make one key for each number of a listing, in order. -/
def ReportsKeys (db : Database) (info : TableInfo) (t : TableDef) (rows : List ListedPair)
    (reported : List ImportedKey) : Prop :=
  ∃ ids : List Int, (∀ id, id ∈ ids ↔ ∃ r ∈ rows, r.id = id) ∧ ids.Pairwise (ComesBefore t rows) ∧
    List.Forall₂ (db.SaysKey info rows) ids.zipIdx (KeySpec.aggregate info reported)

end Database

/-! ### The pairs of a key

The listing is gathered into a map from key numbers to pairs. Under a number the map has the pairs of that
number, in the order of the listing, and it has no others. -/

namespace ListedPair

variable {rows : List ListedPair} {id : Int}

theorem ofKey_append (rows rows' : List ListedPair) (id : Int) :
    ofKey (rows ++ rows') id = ofKey rows id ++ ofKey rows' id :=
  List.filter_append rows rows'

theorem find?_byKey (rows : List ListedPair) (id : Int) :
    (byKey rows).find? id = if ofKey rows id = [] then none else some (ofKey rows id) := by
  induction rows using List.reverseRecOn with
  | nil => rfl
  | append_singleton rest r ih =>
    have hstep : byKey (rest ++ [r]) =
        (byKey rest).insert r.id (((byKey rest).find? r.id).getD [] ++ [r]) := by
      rw [byKey, List.foldl_append]
      rfl
    have hsplit : ofKey (rest ++ [r]) id = ofKey rest id ++ if r.id = id then [r] else [] := by
      rw [ofKey_append]
      simp [ofKey, List.filter_singleton]
    rw [hstep, SortedMap.find?_insert, hsplit]
    by_cases hid : id = r.id
    · subst hid
      rw [ih]
      by_cases hnil : ofKey rest r.id = [] <;> simp [hnil]
    · rw [if_neg hid, if_neg (Ne.symm hid), List.append_nil, ih]

theorem ofKey_ne_nil_iff : ofKey rows id ≠ [] ↔ ∃ r ∈ rows, r.id = id := by
  simp [ofKey, List.filter_eq_nil_iff]

theorem mem_keys_byKey : id ∈ (byKey rows).keys ↔ ∃ r ∈ rows, r.id = id := by
  rw [SortedMap.mem_keys, ← ofKey_ne_nil_iff, find?_byKey]
  by_cases hnil : ofKey rows id = [] <;> simp [hnil]

theorem values_byKey (rows : List ListedPair) :
    (byKey rows).values = (byKey rows).keys.map (ofKey rows) := by
  rw [SortedMap.values, SortedMap.keys, List.map_map]
  refine List.map_congr_left fun e he => ?_
  have hfind := SortedMap.find?_eq_some_iff.2 he
  rw [find?_byKey] at hfind
  split at hfind
  · cases hfind
  · exact (Option.some.inj hfind).symm

end ListedPair

namespace Database

variable {db : Database} {info : TableInfo} {schema : String} {t : TableDef} {rows : List ListedPair}

/-! ### One key for each number

The keys of a listing are reported in an order that the listing determines, and their rows make one key
each: keys that are reported apart have different names, as these are made from the places. -/

/-- The numbers of the listed keys, in the order in which these are reported. -/
def reportedIds (t : TableDef) (rows : List ListedPair) : List Int :=
  (ListedPair.byKey rows).keys.mergeSort fun a b =>
    t.firstPosition (ListedPair.ofKey rows a) ≤ t.firstPosition (ListedPair.ofKey rows b)

theorem mem_reportedIds {id : Int} : id ∈ reportedIds t rows ↔ ∃ r ∈ rows, r.id = id := by
  rw [reportedIds, List.mem_mergeSort, ListedPair.mem_keys_byKey]

theorem pairwise_reportedIds (t : TableDef) (rows : List ListedPair) :
    (reportedIds t rows).Pairwise (ComesBefore t rows) := by
  have hsorted := sortedBy_mergeSort (fun id => t.firstPosition (ListedPair.ofKey rows id))
    (ListedPair.byKey rows).keys
  have hnumbers : (ListedPair.byKey rows).keys.Pairwise (· < ·) :=
    List.pairwise_map.2 (ListedPair.byKey rows).sorted
  exact hsorted.pairwise_ties hnumbers

theorem ComesBefore.asymm {a b : Int} (h : ComesBefore t rows a b) : ¬ComesBefore t rows b a := by
  simp only [ComesBefore] at h ⊢
  omega

/-- The order of the keys of a listing is determined. -/
theorem eq_of_comesBefore {ids ids' : List Int} (h : ids.Pairwise (ComesBefore t rows))
    (h' : ids'.Pairwise (ComesBefore t rows)) (hmem : ∀ id, id ∈ ids ↔ id ∈ ids') : ids = ids' := by
  have hnodup : ∀ {l : List Int}, l.Pairwise (ComesBefore t rows) → l.Nodup := fun hl =>
    hl.imp fun {a b} hbefore heq => by
      subst heq
      exact hbefore.asymm hbefore
  refine List.Perm.eq_of_pairwise (fun _ _ _ _ hab hba => absurd hba hab.asymm) h h' ?_
  exact (List.perm_ext_iff_of_nodup (hnodup h) (hnodup h')).2 hmem

theorem sortedValues_eq (t : TableDef) (rows : List ListedPair) :
    ((ListedPair.byKey rows).values.mergeSort fun a b => t.firstPosition a ≤ t.firstPosition b) =
      (reportedIds t rows).map (ListedPair.ofKey rows) := by
  rw [ListedPair.values_byKey, reportedIds, List.map_mergeSort]
  intro a _ b _
  rfl

theorem exists_listedTarget (h : db.Listed schema rows) {r : ListedPair} (hr : r ∈ rows) :
    ∃ target, db.listedTarget schema (ListedPair.ofKey rows r.id) r = .ok target ∧
      db.SaysPair schema r ⟨r.place + 1, r.source, target⟩ := by
  cases htarget : r.target with
  | some column =>
    refine ⟨column, by rw [listedTarget, htarget], rfl, rfl, ?_, ?_⟩
    · exact fun _ hcolumn => Option.some.inj (htarget.symm.trans hcolumn)
    · exact fun hnone => absurd (htarget.symm.trans hnone) nofun
  | none =>
    obtain ⟨key, hkey, hplace⟩ := h.implicit r hr htarget
    -- the table is that of the first pair without a column, and all pairs of the key name one table
    have htable : (((ListedPair.ofKey rows r.id).find? (·.target.isNone)).map (·.table)).getD r.table =
        r.table := by
      cases hfirst : (ListedPair.ofKey rows r.id).find? (·.target.isNone) with
      | none => rfl
      | some first =>
        obtain ⟨hfirst, hid⟩ := List.mem_filter.1 (List.mem_of_find?_eq_some hfirst)
        exact h.table_eq first hfirst r hr (of_decide_eq_true hid)
    refine ⟨key[r.place].column, ?_, rfl, rfl, ?_, ?_⟩
    · rw [listedTarget, htarget]
      simp only [htable, hkey, List.getElem?_eq_getElem hplace]
    · exact fun _ hcolumn => absurd (htarget.symm.trans hcolumn) nofun
    · exact fun _ => ⟨key, _, hkey, List.getElem?_eq_getElem hplace, rfl⟩

/-- The rows that are reported of a key, with the columns that a choice gives. -/
def rowsOfKey (info : TableInfo) (rows : List ListedPair) (target : ListedPair → String)
    (entry : Int × Nat) : List ImportedKey :=
  (ListedPair.ofKey rows entry.1).map fun r => reportPair info entry.2 r (target r)

/-- A listed pair with the column that a choice gives. -/
def pairOfKey (target : ListedPair → String) (r : ListedPair) : PairSpec :=
  ⟨r.place + 1, r.source, target r⟩

/-- The key that the rows of a number make. -/
def specOfKey (info : TableInfo) (rows : List ListedPair) (target : ListedPair → String)
    (entry : Int × Nat) : Option KeySpec :=
  (KeySpec.ofGroup? info (rowsOfKey info rows target entry)).map KeySpec.ordered

theorem nameOf_of_mem_rowsOfKey {target : ListedPair → String} {entry : Int × Nat} {row : ImportedKey}
    (h : row ∈ rowsOfKey info rows target entry) :
    KeySpec.nameOf info row = KeySpec.syntheticName info.name (entry.2 + 1) := by
  obtain ⟨r, -, rfl⟩ := List.mem_map.1 h
  rfl

/-- The pairs of a key stand in order. -/
theorem Listed.ordered_pairs (h : db.Listed schema rows) (target : ListedPair → String) (id : Int) :
    ((ListedPair.ofKey rows id).map (pairOfKey target)).mergeSort
        (fun a b => a.sequence ≤ b.sequence) = (ListedPair.ofKey rows id).map (pairOfKey target) := by
  have hplaces : ((ListedPair.ofKey rows id).map (·.place)).Pairwise (· < ·) := by
    rw [h.counted id]
    exact List.pairwise_lt_range
  refine List.mergeSort_of_pairwise (List.pairwise_map.2 ?_)
  exact (List.pairwise_map.1 hplaces).imp fun hlt => decide_eq_true (Nat.succ_le_succ hlt.le)

theorem saysKey_specOfKey (h : db.Listed info.schema rows) {target : ListedPair → String}
    (hsaid : ∀ r ∈ rows, db.SaysPair info.schema r (pairOfKey target r)) {entry : Int × Nat}
    (hid : ∃ r ∈ rows, r.id = entry.1) :
    ∃ spec, specOfKey info rows target entry = some spec ∧ db.SaysKey info rows entry spec := by
  have hmem : ∀ r ∈ ListedPair.ofKey rows entry.1, r ∈ rows ∧ r.id = entry.1 := fun r hr =>
    (List.mem_filter.1 hr).imp_right of_decide_eq_true
  have hordered := h.ordered_pairs target entry.1
  cases hkey : ListedPair.ofKey rows entry.1 with
  | nil => exact absurd hkey (ListedPair.ofKey_ne_nil_iff.2 hid)
  | cons first rest =>
    rw [hkey] at hmem hordered
    have hspec : specOfKey info rows target entry =
        some ⟨KeySpec.syntheticName info.name (entry.2 + 1), ⟨info.schema, info.name⟩,
          ⟨info.schema, first.table⟩, (first :: rest).map (pairOfKey target)⟩ := by
      rw [specOfKey, rowsOfKey, hkey]
      -- the pairs are in order before they are sorted
      show some (KeySpec.mk _ _ _
        ((((first :: rest).map fun r => reportPair info entry.2 r (target r)).map
          KeySpec.pairOf).mergeSort _)) = _
      rw [List.map_map]
      exact congrArg (fun pairs => some (KeySpec.mk _ _ _ pairs)) hordered
    obtain ⟨hfirst, hfirstId⟩ := hmem first List.mem_cons_self
    refine ⟨_, hspec, rfl, rfl, ?_, ?_⟩
    · intro r hr
      obtain ⟨hr, hrId⟩ := hmem r (hkey ▸ hr)
      rw [h.table_eq first hfirst r hr (hfirstId.trans hrId.symm)]
    · rw [hkey]
      exact List.forall₂_map_right_iff.2 (List.forall₂_same.2 fun r hr => hsaid r (hmem r hr).1)

/-- Every pair of a listing leads to a column. -/
theorem exists_targets (h : db.Listed schema rows) : ∃ target : ListedPair → String, ∀ r ∈ rows,
    db.listedTarget schema (ListedPair.ofKey rows r.id) r = .ok (target r) ∧
      db.SaysPair schema r (pairOfKey target r) := by
  have hchoice : ∀ r, ∃ target, r ∈ rows →
      db.listedTarget schema (ListedPair.ofKey rows r.id) r = .ok target ∧
        db.SaysPair schema r ⟨r.place + 1, r.source, target⟩ := by
    intro r
    by_cases hr : r ∈ rows
    · obtain ⟨target, htarget⟩ := exists_listedTarget h hr
      exact ⟨target, fun _ => htarget⟩
    · exact ⟨"", fun h => absurd h hr⟩
  exact Classical.skolem.1 hchoice

/-- The pairs are reported key by key. -/
theorem reportListed_eq {target : ListedPair → String} (htarget : ∀ r ∈ rows,
    db.listedTarget info.schema (ListedPair.ofKey rows r.id) r = .ok (target r)) :
    db.reportListed info t rows =
      .ok ((reportedIds t rows).zipIdx.map (rowsOfKey info rows target)).flatten := by
  have hreport : ∀ entry, db.reportKey info (ListedPair.ofKey rows entry.1, entry.2) =
      .ok (rowsOfKey info rows target entry) := by
    intro entry
    refine exceptMapM_eq_ok_iff.2 (List.forall₂_map_right_iff.2 (List.forall₂_same.2 fun r hr => ?_))
    obtain ⟨hr, hid⟩ := List.mem_filter.1 hr
    rw [← of_decide_eq_true hid, htarget r hr]
    rfl
  have hkeys : ((reportedIds t rows).map (ListedPair.ofKey rows)).zipIdx.mapM (db.reportKey info) =
      .ok ((reportedIds t rows).zipIdx.map (rowsOfKey info rows target)) := by
    rw [List.zipIdx_map]
    refine exceptMapM_eq_ok_iff.2 (List.forall₂_map_left_iff.2 (List.forall₂_map_right_iff.2 ?_))
    exact List.forall₂_same.2 fun entry _ => hreport entry
  simp only [reportListed, sortedValues_eq]
  exact congrArg (Except.map List.flatten) hkeys

/-- Reported listed pairs make the keys that are listed, one for each number. -/
theorem reportsKeys_of_listed (t : TableDef) (h : db.Listed info.schema rows) :
    ∃ reported, db.reportListed info t rows = .ok reported ∧ db.ReportsKeys info t rows reported := by
  obtain ⟨target, htarget⟩ := exists_targets h
  refine ⟨_, reportListed_eq fun r hr => (htarget r hr).1, reportedIds t rows,
    fun _ => mem_reportedIds, pairwise_reportedIds t rows, ?_⟩
  have hgrouped := KeySpec.grouped_of_places (f := rowsOfKey info rows target)
    (fun _ _ => nameOf_of_mem_rowsOfKey) (reportedIds t rows)
  rw [KeySpec.aggregate_flatten hgrouped, List.filterMap_map, List.map_filterMap]
  refine forall₂_filterMap fun entry hentry => ?_
  have hmem : entry.1 ∈ reportedIds t rows :=
    List.mem_of_getElem? (List.mem_zipIdx_iff_getElem?.1 hentry)
  exact saysKey_specOfKey h (fun r hr => (htarget r hr).2) (mem_reportedIds.1 hmem)

/-- The column that a pair leads to is the declared one, or else that of its place in the primary key. -/
theorem SaysPair.target_eq {schema : String} {r : ListedPair} {pair : PairSpec} {key : List KeyColumn}
    (h : db.SaysPair schema r pair) (hkey : db.primaryKey (.table schema r.table) = .ok key) :
    r.target.or (key[r.place]?.map (·.column)) = some pair.targetColumn := by
  cases htarget : r.target with
  | some column => rw [h.declared column htarget, Option.some_or]
  | none =>
    obtain ⟨key', c, hkey', hplace, hcolumn⟩ := h.implicit htarget
    obtain rfl := Except.ok.inj (hkey.symm.trans hkey')
    rw [hplace, hcolumn]
    rfl

end Database

/-! ### The listing of a table

What a database lists of a table is such a listing. Names are told apart without regard to case there,
while positions are found by the spelling of the table, so that the two have to be brought together. -/

namespace TableDef

variable {t : TableDef} {entry : ForeignKeyDef × Nat}

theorem mem_listed {r : ListedPair} (h : r ∈ t.listed entry) :
    r.id = entry.2 ∧ r.table = entry.1.table ∧ r.place < entry.1.columns.length ∧
      r.target = entry.1.target[r.place]? := by
  obtain ⟨⟨column, place⟩, hcolumn, rfl⟩ := List.mem_map.1 h
  exact ⟨rfl, rfl, (List.getElem?_eq_some_iff.1 (List.mem_zipIdx_iff_getElem?.1 hcolumn)).1, rfl⟩

theorem ofKey_listed (t : TableDef) (entry : ForeignKeyDef × Nat) (n : Nat) :
    ListedPair.ofKey (t.listed entry) n = if entry.2 = n then t.listed entry else [] := by
  have hid : ∀ r ∈ t.listed entry, r.id = n ↔ entry.2 = n := fun r hr => by
    rw [(mem_listed hr).1, Int.ofNat_inj]
  split
  · next heq => exact List.filter_eq_self.2 fun r hr => decide_eq_true ((hid r hr).2 heq)
  · next hne => exact List.filter_eq_nil_iff.2 fun r hr h => hne ((hid r hr).1 (of_decide_eq_true h))

/-- A listing has under the number of each key its pairs. -/
theorem ofKey_flatMap_listed {entries : List (ForeignKeyDef × Nat)}
    (hnodup : (entries.map (·.2)).Nodup) (h : entry ∈ entries) :
    ListedPair.ofKey (entries.flatMap t.listed) entry.2 = t.listed entry := by
  have hother : ∀ {es : List (ForeignKeyDef × Nat)} {n : Nat}, n ∉ es.map (·.2) →
      ListedPair.ofKey (es.flatMap t.listed) n = [] := by
    intro es n hn
    refine List.filter_eq_nil_iff.2 fun r hr hid => hn ?_
    obtain ⟨e, he, hr⟩ := List.mem_flatMap.1 hr
    have hsame := (mem_listed hr).1.symm.trans (of_decide_eq_true hid)
    exact List.mem_map.2 ⟨e, he, Int.ofNat_inj.1 hsame⟩
  induction entries with
  | nil => cases h
  | cons first rest ih =>
    obtain ⟨hfirst, hrest⟩ := List.nodup_cons.1 hnodup
    rw [List.flatMap_cons, ListedPair.ofKey_append, ofKey_listed]
    rcases List.mem_cons.1 h with rfl | h
    · rw [if_pos rfl, hother hfirst, List.append_nil]
    · have hne : first.2 ≠ entry.2 := fun heq => hfirst (List.mem_map.2 ⟨entry, h, heq.symm⟩)
      rw [if_neg hne, List.nil_append, ih hrest h]

theorem ofKey_listing (h : entry ∈ t.foreignKeys.reverse.zipIdx) :
    ListedPair.ofKey t.listing entry.2 = t.listed entry := by
  refine ofKey_flatMap_listed ?_ h
  rw [List.zipIdx_map_snd]
  exact List.nodup_range' _

/-- Where every key has a column, the keys of the listing are those of the table. -/
theorem values_byKey_listing (hcolumns : ∀ k ∈ t.foreignKeys, k.columns ≠ []) :
    (ListedPair.byKey t.listing).values = t.foreignKeys.reverse.zipIdx.map t.listed := by
  -- each key at its place in the listing, which is also its number
  let entries := t.foreignKeys.reverse.zipIdx
  have hnumbers : (entries.map fun e => ((e.2 : Int), t.listed e)).Pairwise fun a b => a.1 < b.1 := by
    have hplaces : (entries.map (·.2)).Pairwise (· < ·) := by
      rw [List.zipIdx_map_snd]
      exact List.pairwise_lt_range' _
    exact List.pairwise_map.2 ((List.pairwise_map.1 hplaces).imp fun hlt => Int.ofNat_lt.2 hlt)
  have hne : ∀ e ∈ entries, t.listed e ≠ [] := by
    intro e he hnil
    have hk : e.1 ∈ t.foreignKeys :=
      List.mem_reverse.1 (List.mem_of_getElem? (List.mem_zipIdx_iff_getElem?.1 he))
    exact hcolumns e.1 hk (List.zipIdx_eq_nil_iff.1 (List.map_eq_nil_iff.1 hnil))
  -- two sorted maps are one as soon as they answer alike
  have hmap : ListedPair.byKey t.listing = ⟨_, hnumbers⟩ := by
    refine SortedMap.ext_find? fun id => Option.ext fun pairs => ?_
    rw [SortedMap.find?_eq_some_iff (m := ⟨_, hnumbers⟩), List.mem_map, ListedPair.find?_byKey]
    constructor
    · intro h
      split at h
      · cases h
      · next hnil =>
        obtain rfl := Option.some.inj h
        obtain ⟨r, hr, rfl⟩ := ListedPair.ofKey_ne_nil_iff.1 hnil
        obtain ⟨e, he, hr⟩ := List.mem_flatMap.1 hr
        refine ⟨e, he, ?_⟩
        rw [(mem_listed hr).1, ofKey_listing he]
    · rintro ⟨e, he, heq⟩
      obtain ⟨rfl, rfl⟩ := Prod.ext_iff.1 heq
      rw [ofKey_listing he, if_neg (hne e he)]
  rw [hmap, SortedMap.values, List.map_map]
  rfl

/-- A column is found where it is by the name that the table spells. -/
theorem Declarable.findIdx?_spelling (ht : t.Declarable) (column : String) :
    t.columns.findIdx? (·.name = t.spelling column) = t.position? column := by
  cases hposition : t.position? column with
  | none =>
    -- a name that finds no column is spelled as it is, and then no column has it exactly
    have hspelling : t.spelling column = column := by
      rw [spelling, hposition]
      rfl
    rw [hspelling, List.findIdx?_eq_none_iff]
    intro c hc
    have hother := List.findIdx?_eq_none_iff.1 hposition c hc
    refine decide_eq_false fun hname => ?_
    rw [hname, sameName, beq_self_eq_true] at hother
    cases hother
  | some position =>
    have hlt := lt_length_of_position? hposition
    have hspelling : t.spelling column = t.columns[position].name := by
      rw [spelling, hposition]
      show (t.columns[position]?.map (·.name)).getD column = _
      rw [List.getElem?_eq_getElem hlt]
      rfl
    rw [hspelling, List.findIdx?_eq_some_iff_getElem]
    refine ⟨hlt, decide_eq_true rfl, fun earlier hearlier hname => ?_⟩
    -- no earlier column has the name, since column names differ in more than case
    refine List.pairwise_iff_getElem.1 ht.names_apart earlier position (hearlier.trans hlt) hlt hearlier ?_
    rw [of_decide_eq_true hname]
    exact beq_self_eq_true _

/-- The position of the first column of a key is the same by its listed name. -/
theorem Declarable.firstPosition_listed (ht : t.Declarable) :
    t.firstPosition (t.listed entry) =
      (entry.1.columns.head?.bind t.position?).getD t.columns.length := by
  rw [firstPosition, listed]
  cases entry.1.columns with
  | nil => rfl
  | cons column rest =>
    show (t.columns.findIdx? (·.name = t.spelling column)).getD _ = (t.position? column).getD _
    rw [ht.findIdx?_spelling]

end TableDef

namespace Database

variable {db : Database} {info : TableInfo} {t : StoredTable}

/-- The listing of a table whose foreign keys resolve is as a listing has to be. -/
theorem listed_listing (hresolves : ∀ k ∈ t.declaration.foreignKeys, db.Resolves info.schema k) :
    db.Listed info.schema t.declaration.listing := by
  have hmem : ∀ r ∈ t.declaration.listing, ∃ e ∈ t.declaration.foreignKeys.reverse.zipIdx,
      r ∈ t.declaration.listed e := fun r hr => List.mem_flatMap.1 hr
  constructor
  -- the places of the pairs of a key count up from zero
  · intro id
    by_cases hnil : ListedPair.ofKey t.declaration.listing id = []
    · rw [hnil]
      rfl
    · obtain ⟨r, hr, rfl⟩ := ListedPair.ofKey_ne_nil_iff.1 hnil
      obtain ⟨e, he, hr⟩ := hmem r hr
      rw [(TableDef.mem_listed hr).1, TableDef.ofKey_listing he, TableDef.listed, List.map_map,
        List.length_map, List.length_zipIdx, List.range_eq_range', ← List.zipIdx_map_snd]
      rfl
  -- pairs of one number belong to one key, and so name one table
  · intro r hr r' hr' hid
    obtain ⟨e, he, hr⟩ := hmem r hr
    obtain ⟨e', he', hr'⟩ := hmem r' hr'
    have hnumber : e.2 = e'.2 := by
      rw [(TableDef.mem_listed hr).1, (TableDef.mem_listed hr').1] at hid
      exact Int.ofNat_inj.1 hid
    have hkey : some e.1 = some e'.1 := by
      rw [← List.mem_zipIdx_iff_getElem?.1 he, hnumber, List.mem_zipIdx_iff_getElem?.1 he']
    rw [(TableDef.mem_listed hr).2.1, (TableDef.mem_listed hr').2.1, Option.some.inj hkey]
  -- a pair without a column is completed from the primary key, as the key resolves
  · intro r hr hnone
    obtain ⟨e, he, hr⟩ := hmem r hr
    obtain ⟨-, htable, hplace, htarget⟩ := TableDef.mem_listed hr
    have hk : e.1 ∈ t.declaration.foreignKeys :=
      List.mem_reverse.1 (List.mem_of_getElem? (List.mem_zipIdx_iff_getElem?.1 he))
    rw [htable]
    refine (hresolves e.1 hk r.place hplace).resolve_left fun hlt => ?_
    rw [hnone, eq_comm, List.getElem?_eq_none_iff] at htarget
    omega

theorem listedTarget_listed (t : TableDef) (entry : ForeignKeyDef × Nat) (schema column : String)
    (place : Nat) : db.listedTarget schema (t.listed entry)
      ⟨entry.2, place, entry.1.table, t.spelling column, entry.1.target[place]?⟩ =
        db.targetColumn schema entry.1 place := by
  have htable : (((t.listed entry).find? (·.target.isNone)).map (·.table)).getD entry.1.table =
      entry.1.table := by
    cases hfirst : (t.listed entry).find? (·.target.isNone) with
    | none => rfl
    | some first => exact (TableDef.mem_listed (List.mem_of_find?_eq_some hfirst)).2.1
  rw [listedTarget, targetColumn]
  cases entry.1.target[place]? with
  | some column => rfl
  | none =>
    cases hkey : db.primaryKey (.table schema entry.1.table) with
    | error e => simp only [htable, hkey]
    | ok key => cases hplace : key[place]? <;> simp only [htable, hkey, hplace]

/-- The pairs of a foreign key are reported as listed. -/
theorem reportKey_listed (t : TableDef) (entry : ForeignKeyDef × Nat) (ordinal : Nat) :
    db.reportKey info (t.listed entry, ordinal) = db.keyPairs info t (entry.1, ordinal) := by
  rw [reportKey, TableDef.listed, List.mapM_map, ← TableDef.listed, keyPairs]
  congr
  funext column
  obtain ⟨column, place⟩ := column
  rw [Function.comp_apply, listedTarget_listed]
  dsimp only
  cases db.targetColumn info.schema entry.1 place <;> rfl

/-- The foreign keys of a table are reported from their listing. -/
theorem importedKeys_eq_reportListed (hmain : sameName info.schema "main")
    (ht : db.table? info.name = some t) (hdeclared : t.declaration.Declarable)
    (hcolumns : ∀ k ∈ t.declaration.foreignKeys, k.columns ≠ []) :
    db.importedKeys info = db.reportListed info t.declaration t.declaration.listing := by
  let first (k : ForeignKeyDef) : Nat :=
    (k.columns.head?.bind t.declaration.position?).getD t.declaration.columns.length
  let sorted := t.declaration.foreignKeys.reverse.zipIdx.mergeSort fun e e' => first e.1 ≤ first e'.1
  -- both sides sort by the first column, one the keys and the other their pairs
  have hordered : orderedKeys t.declaration = sorted.map (·.1) := by
    rw [List.map_mergeSort (s := fun k k' => first k ≤ first k') fun _ _ _ _ => rfl,
      List.zipIdx_map_fst]
    rfl
  have hlisted : ((t.declaration.foreignKeys.reverse.zipIdx.map t.declaration.listed).mergeSort
      fun a b => t.declaration.firstPosition a ≤ t.declaration.firstPosition b) =
        sorted.map t.declaration.listed := by
    refine (List.map_mergeSort fun e _ e' _ => ?_).symm
    rw [hdeclared.firstPosition_listed, hdeclared.firstPosition_listed]
  rw [importedKeys, inSchema, if_pos hmain, mainKeys, ht, reportListed,
    TableDef.values_byKey_listing hcolumns, hlisted]
  show ((orderedKeys t.declaration).zipIdx.mapM (db.keyPairs info t.declaration)).map _ = _
  have hreport : db.keyPairs info t.declaration ∘ Prod.map (·.1) id =
      db.reportKey info ∘ Prod.map t.declaration.listed id :=
    funext fun entry => (reportKey_listed t.declaration entry.1 entry.2).symm
  rw [hordered, List.zipIdx_map, List.zipIdx_map, List.mapM_map, List.mapM_map, hreport]

/-- Listed keys are reported and put together again one to one: under the names of their places, in order
of the positions of their first columns and then of their numbers, each with its pairs in order and with
the columns of the primary key where it leaves its columns implicit. So are the foreign keys of a table of a
database, which are reported from their listing. -/
theorem keys_one_to_one (db : Database) (info : TableInfo) :
    (∀ t rows, db.Listed info.schema rows → ∃ reported,
      db.reportListed info t rows = .ok reported ∧ db.ReportsKeys info t rows reported) ∧
    ∀ t, sameName info.schema "main" → db.table? info.name = some t → t.declaration.Declarable →
      (∀ k ∈ t.declaration.foreignKeys, k.columns ≠ []) →
      db.importedKeys info = db.reportListed info t.declaration t.declaration.listing ∧
        ((∀ k ∈ t.declaration.foreignKeys, db.Resolves info.schema k) → ∃ reported,
          db.importedKeys info = .ok reported ∧
            db.ReportsKeys info t.declaration t.declaration.listing reported) := by
  refine ⟨fun t _ h => reportsKeys_of_listed t h, fun t hmain ht hdeclared hcolumns => ?_⟩
  have heq := importedKeys_eq_reportListed hmain ht hdeclared hcolumns
  refine ⟨heq, fun hresolves => ?_⟩
  rw [heq]
  exact reportsKeys_of_listed t.declaration (listed_listing hresolves)

/-! ### A sample

Trips have two keys to the stops of their line: where they start, by the primary key of stops, and where
they finish. Both begin with the same column. -/

/-- Stops by line and name. -/
def stopTable : StoredTable where
  declaration := ⟨"stop", [⟨"line", "TEXT", true⟩, ⟨"name", "TEXT", true⟩], ["line", "name"], [], [], false⟩
  rows := []

/-- Trips with their lines, starts and finishes. -/
def tripTable : StoredTable where
  declaration :=
    { name := "trip"
      columns := [⟨"line", "TEXT", true⟩, ⟨"start", "TEXT", true⟩, ⟨"finish", "TEXT", true⟩]
      primaryKey := []
      unique := []
      foreignKeys := [⟨["line", "start"], "stop", []⟩, ⟨["line", "finish"], "stop", ["line", "name"]⟩]
      withoutRowid := false }
  rows := []

def tripDatabase : Database := ⟨[stopTable, tripTable], [], []⟩

theorem primaryKey_stop :
    tripDatabase.primaryKey (.table "main" "stop") = .ok [⟨"line", 1⟩, ⟨"name", 2⟩] := by
  have hmain : sameName "main" "main" = true := beq_self_eq_true _
  have hstop : tripDatabase.table? "stop" = some stopTable :=
    List.find?_cons_of_pos (beq_self_eq_true _)
  have hkey : stopTable.declaration.reportedKey = [⟨"line", 1⟩, ⟨"name", 2⟩] := by decide +kernel
  rw [primaryKey_eq hmain hstop (by decide) (by decide +kernel), hkey]

theorem keys_one_to_one_sample : ∃ reported,
    tripDatabase.importedKeys (.table "main" "trip") = .ok reported ∧
      ((KeySpec.aggregate (.table "main" "trip") reported).map fun spec =>
        (spec.name, spec.pairs.map fun pair => (pair.sourceColumn, pair.targetColumn))) =
        [("fk_trip_1", [("line", "line"), ("finish", "name")]),
          ("fk_trip_2", [("line", "line"), ("start", "name")])] := by
  have hresolves : ∀ k ∈ tripTable.declaration.foreignKeys, tripDatabase.Resolves "main" k := by
    refine List.forall_mem_cons.2 ⟨fun place hplace => .inr ⟨_, primaryKey_stop, hplace⟩, ?_⟩
    exact List.forall_mem_singleton.2 (resolves_of_length_le (Nat.le_refl 2))
  have htrip : tripDatabase.table? "trip" = some tripTable := by
    rw [table?, tripDatabase, List.find?_cons_of_neg (by decide +kernel)]
    exact List.find?_cons_of_pos (beq_self_eq_true _)
  obtain ⟨-, hreport⟩ := (keys_one_to_one tripDatabase (.table "main" "trip")).2 tripTable
    (beq_self_eq_true _) htrip ⟨by decide, by decide +kernel⟩ (by decide)
  obtain ⟨reported, hreported, ids, hmem, hbefore, hsaid⟩ := hreport hresolves
  refine ⟨reported, hreported, ?_⟩
  have hlisting : tripTable.declaration.listing =
      [⟨0, 0, "stop", "line", some "line"⟩, ⟨0, 1, "stop", "finish", some "name"⟩,
        ⟨1, 0, "stop", "line", none⟩, ⟨1, 1, "stop", "start", none⟩] := by decide +kernel
  rw [hlisting] at hmem hbefore hsaid
  -- the first columns are the same, so that the numbers decide
  have hids : ids = [0, 1] := by
    refine eq_of_comesBefore hbefore ?_ fun id => (hmem id).trans ?_
    · exact List.pairwise_pair.2 (.inr ⟨by decide +kernel, by decide⟩)
    · simp [eq_comm]
  subst hids
  have hpairs : ∀ rows pairs, (∀ r ∈ rows, r.table = "stop") →
      List.Forall₂ (tripDatabase.SaysPair "main") rows pairs →
      (pairs.map fun pair => (pair.sourceColumn, pair.targetColumn)) =
        rows.map fun r => (r.source, (r.target.or ["line", "name"][r.place]?).getD "") := by
    intro rows pairs hstop h
    induction h with
    | nil => rfl
    | @cons r pair rows pairs hpair _ ih =>
      obtain ⟨htable, hstop⟩ := List.forall_mem_cons.1 hstop
      have htarget := hpair.target_eq (htable ▸ primaryKey_stop)
      rw [← List.getElem?_map] at htarget
      rw [List.map_cons, List.map_cons, ih hstop, hpair.source_eq]
      exact congrArg (fun target => (r.source, target.getD "") :: _) htarget.symm
  generalize KeySpec.aggregate (.table "main" "trip") reported = specs at hsaid
  cases hsaid with
  | cons hfinish hrest =>
    cases hrest with
    | cons hstart hrest =>
      cases hrest
      rw [List.map_cons, List.map_cons, List.map_nil, hfinish.name_eq, hstart.name_eq,
        hpairs _ _ (by decide) hfinish.pairs, hpairs _ _ (by decide) hstart.pairs]
      decide +kernel

end Database

end FixturePlan
