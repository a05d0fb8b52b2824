import FixturePlan.Database.Scan
import FixturePlan.Proofs.Report
import FixturePlan.Proofs.Schema.Aggregation
import FixturePlan.Proofs.Schema.Build

/-!
# Foreign keys of a database

The foreign keys of a table are reported if and only if each column of each of them leads to a column:
one that is declared with the key, or one of the primary key of the table that it leads to
(`Database.Resolves`, `Database.exists_importedKeys_iff`). What is reported makes one key for each
foreign key (`Database.aggregate_importedKeys`). Only the name of that key depends on the other keys of
the table.
-/

namespace FixturePlan

section Traversal

variable {ε α β γ : Type} {f : α → Except ε β} {as : List α} {bs : List β}

theorem exceptMapM_eq_ok_iff :
    as.mapM f = .ok bs ↔ List.Forall₂ (fun a b => f a = .ok b) as bs := by
  induction as generalizing bs with
  | nil => cases bs <;> simp [pure, Except.pure]
  | cons a rest ih =>
    rw [List.mapM_cons, List.forall₂_cons_left_iff]
    cases f a with
    | error e => simp [bind, Except.bind]
    | ok b =>
      cases hrest : rest.mapM f with
      | error e => simp [bind, Except.bind, ← ih, hrest]
      | ok others =>
        simp only [bind, Except.bind, pure, Except.pure, ← ih, hrest, Except.ok.injEq,
          exists_and_left, exists_eq_left']
        exact eq_comm

theorem exists_exceptMapM_iff : (∃ bs, as.mapM f = .ok bs) ↔ ∀ a ∈ as, ∃ b, f a = .ok b := by
  simp only [exceptMapM_eq_ok_iff, exists_forall₂_iff]

theorem exceptMapM_map (g : β → γ) :
    as.mapM (fun a => (f a).map g) = (as.mapM f).map (List.map g) := by
  induction as with
  | nil => rfl
  | cons a rest ih =>
    rw [List.mapM_cons, List.mapM_cons, ih]
    cases f a with
    | error e => rfl
    | ok b => cases rest.mapM f <;> rfl

end Traversal

namespace Database

variable {db : Database} {info : TableInfo} {schema : String} {k : ForeignKeyDef}
  {entry : ForeignKeyDef × Nat}

/-- Each column of a foreign key leads to a column: to one that is declared with it, or to one of the
primary key. -/
def Resolves (db : Database) (schema : String) (k : ForeignKeyDef) : Prop :=
  ∀ place < k.columns.length, place < k.target.length ∨
    ∃ key, db.primaryKey (.table schema k.table) = .ok key ∧ place < key.length

/-- The foreign keys of a table in the order in which they are reported; none where there is no such
table. -/
def keysOf (db : Database) (info : TableInfo) : List ForeignKeyDef :=
  ((db.table? info.name).map fun t => orderedKeys t.declaration).getD []

/-- The name of a column of a foreign key as the table spells it. -/
def spelled (db : Database) (info : TableInfo) (column : String) : String :=
  ((db.table? info.name).bind fun t =>
    (t.declaration.position? column >>= (t.declaration.columns[·]?)).map (·.name)).getD column

/-- The column pairs of a foreign key of a table. -/
def pairs (db : Database) (info : TableInfo) (k : ForeignKeyDef) :
    Except SourceError (List PairSpec) :=
  k.columns.zipIdx.mapM fun (column, place) =>
    (db.targetColumn info.schema k place).map fun target =>
      ⟨place + 1, db.spelled info column, target⟩

/-- A column pair as it is reported. -/
def reported (info : TableInfo) (entry : ForeignKeyDef × Nat) (pair : PairSpec) : ImportedKey :=
  { constraint := none
    ordinal := entry.2 + 1
    sourceColumn := pair.sourceColumn
    targetSchema := info.schema
    targetTable := entry.1.table
    targetColumn := pair.targetColumn
    sequence := pair.sequence }

/-- The column pairs of a foreign key as they are reported; none if they cannot be. -/
def group (db : Database) (info : TableInfo) (entry : ForeignKeyDef × Nat) : List ImportedKey :=
  ((db.pairs info entry.1).toOption.getD []).map (reported info entry)

/-- The key that a foreign key makes; none if it has no columns. -/
def keySpec? (db : Database) (info : TableInfo) (entry : ForeignKeyDef × Nat) : Option KeySpec :=
  if entry.1.columns.isEmpty then none
  else
    some
      { name := KeySpec.syntheticName info.name (entry.2 + 1)
        sourceTable := Schema.qualified info
        targetTable := ⟨info.schema, entry.1.table⟩
        pairs := ((db.pairs info entry.1).toOption.getD []).mergeSort
          fun a b => a.sequence ≤ b.sequence }

theorem keySpec?_eq_none_iff : db.keySpec? info entry = none ↔ entry.1.columns.isEmpty = true := by
  simp [keySpec?]

theorem of_keySpec?_eq_some {spec : KeySpec} (h : db.keySpec? info entry = some spec) :
    entry.1.columns.isEmpty = false ∧
      spec.name = KeySpec.syntheticName info.name (entry.2 + 1) ∧
      spec.sourceTable = Schema.qualified info ∧
      spec.targetTable = ⟨info.schema, entry.1.table⟩ := by
  rw [keySpec?] at h
  split at h
  · cases h
  · next hcolumns =>
    obtain rfl := Option.some.inj h
    exact ⟨Bool.eq_false_iff.2 hcolumns, rfl, rfl, rfl⟩

/-! ### Columns

A key whose columns are spelled out can always be reported. One that leaves them implicit needs a primary
key at its end with a column for each of its own. -/

theorem exists_targetColumn_iff {place : Nat} :
    (∃ column, db.targetColumn schema k place = .ok column) ↔ place < k.target.length ∨
      ∃ key, db.primaryKey (.table schema k.table) = .ok key ∧ place < key.length := by
  unfold targetColumn
  cases hdeclared : k.target[place]? with
  | some column =>
    have hlt := (List.getElem?_eq_some_iff.1 hdeclared).1
    simp [hlt]
  | none =>
    have hge := List.getElem?_eq_none_iff.1 hdeclared
    cases db.primaryKey (.table schema k.table) with
    | error e => simp [hge]
    | ok key =>
      cases hplace : key[place]? with
      | some c =>
        have hlt := (List.getElem?_eq_some_iff.1 hplace).1
        simp [hlt]
      | none =>
        have hge' := List.getElem?_eq_none_iff.1 hplace
        simp [hge, hge']

/-- A foreign key that spells out its columns resolves, whether or not there is a table at its end. -/
theorem resolves_of_length_le (h : k.columns.length ≤ k.target.length) : db.Resolves schema k :=
  fun _ hplace => Or.inl (Nat.lt_of_lt_of_le hplace h)

theorem exists_catalogColumns_eq_error (htable : db.table? info.name = none)
    (hview : db.view? info.name = none) : ∃ e, db.catalogColumns info = .error e := by
  rw [catalogColumns, mainColumns, htable, hview]
  unfold inSchema
  cases sameName info.schema "main" with
  | true => exact ⟨_, rfl⟩
  | false => cases sameName info.schema "temp" <;> exact ⟨_, rfl⟩

/-- A foreign key that leaves its columns implicit does not resolve where it leads to no table. -/
theorem not_resolves_of_missing (hcolumns : k.columns ≠ []) (htarget : k.target = [])
    (htable : db.table? k.table = none) (hview : db.view? k.table = none) :
    ¬db.Resolves schema k := by
  intro h
  rcases h 0 (List.length_pos_iff.2 hcolumns) with hlt | ⟨key, hkey, -⟩
  · rw [htarget] at hlt
    exact Nat.not_lt_zero _ hlt
  · have hunknown : ∃ e, db.catalogColumns (.table schema k.table) = .error e :=
      exists_catalogColumns_eq_error htable hview
    obtain ⟨e, he⟩ := hunknown
    rw [primaryKey, he] at hkey
    cases hkey

theorem exists_pairs_iff : (∃ pairs, db.pairs info k = .ok pairs) ↔ db.Resolves info.schema k := by
  have hmap : ∀ {column : String} {place : Nat}, (∃ pair,
      (db.targetColumn info.schema k place).map (PairSpec.mk (place + 1) (db.spelled info column)) =
        .ok pair) ↔ ∃ target, db.targetColumn info.schema k place = .ok target := by
    intro column place
    cases db.targetColumn info.schema k place <;> simp [Except.map]
  rw [pairs, exists_exceptMapM_iff]
  simp only [Prod.forall, hmap, exists_targetColumn_iff, List.mem_zipIdx_iff_getElem?]
  constructor
  · intro h place hplace
    exact h _ place (List.getElem?_eq_getElem hplace)
  · intro h column place hcolumn
    exact h place (List.getElem?_eq_some_iff.1 hcolumn).1

section Table

variable {t : StoredTable} (ht : db.table? info.name = some t)

include ht

theorem keyPairs_eq : db.keyPairs info t.declaration entry =
    (db.pairs info entry.1).map (List.map (reported info entry)) := by
  rw [pairs, ← exceptMapM_map, keyPairs]
  congr
  funext ⟨column, place⟩
  simp only [spelled, ht]
  cases db.targetColumn info.schema entry.1 place <;> rfl

theorem keyPairs_eq_ok_iff {rows : List ImportedKey} :
    db.keyPairs info t.declaration entry = .ok rows ↔
      db.Resolves info.schema entry.1 ∧ rows = db.group info entry := by
  rw [keyPairs_eq ht, ← exists_pairs_iff, group]
  cases db.pairs info entry.1 with
  | error e => simp [Except.map]
  | ok pairs => simp [Except.map, Except.toOption, eq_comm]

/-- The foreign keys of a table are reported one after the other, if all of them can be. -/
theorem mainKeys_eq_ok_iff {rows : List ImportedKey} : db.mainKeys info = .ok rows ↔
    (∀ k ∈ orderedKeys t.declaration, db.Resolves info.schema k) ∧
      rows = ((orderedKeys t.declaration).zipIdx.map (db.group info)).flatten := by
  -- the statement speaks of keys, the listing of keys with their places
  have hresolve : (∀ entry ∈ (orderedKeys t.declaration).zipIdx, db.Resolves info.schema entry.1) ↔
      ∀ k ∈ orderedKeys t.declaration, db.Resolves info.schema k := by
    rw [← List.forall_mem_map, List.zipIdx_map_fst]
  have hgroups : ∀ groups, (orderedKeys t.declaration).zipIdx.mapM (db.keyPairs info t.declaration) =
      .ok groups ↔ (∀ k ∈ orderedKeys t.declaration, db.Resolves info.schema k) ∧
        (orderedKeys t.declaration).zipIdx.map (db.group info) = groups := by
    intro groups
    rw [exceptMapM_eq_ok_iff, ← hresolve, ← List.forall₂_eq_eq_eq, List.forall₂_map_left_iff,
      ← List.forall₂_and_left]
    simp only [keyPairs_eq_ok_iff ht, eq_comm]
  rw [mainKeys, ht]
  simp only
  -- an error on the left would contradict the keys that resolve on the right
  cases hall : (orderedKeys t.declaration).zipIdx.mapM (db.keyPairs info t.declaration) with
  | error e =>
    simp only [Except.map, reduceCtorEq, false_iff, not_and]
    intro hkeys
    have hok := (hgroups _).2 ⟨hkeys, rfl⟩
    rw [hall] at hok
    cases hok
  | ok groups =>
    obtain ⟨hkeys, rfl⟩ := (hgroups groups).1 hall
    simp only [Except.map, Except.ok.injEq, eq_comm (b := rows), and_iff_right hkeys]

end Table

theorem importedKeys_eq_ok_iff (hmain : sameName info.schema "main") {rows : List ImportedKey} :
    db.importedKeys info = .ok rows ↔ (∀ k ∈ db.keysOf info, db.Resolves info.schema k) ∧
      rows = ((db.keysOf info).zipIdx.map (db.group info)).flatten := by
  rw [importedKeys, inSchema, if_pos hmain, keysOf]
  cases ht : db.table? info.name with
  | some t => exact mainKeys_eq_ok_iff ht
  | none => simp [mainKeys, ht, eq_comm]

theorem exists_importedKeys_iff (hmain : sameName info.schema "main") :
    (∃ rows, db.importedKeys info = .ok rows) ↔ ∀ k ∈ db.keysOf info, db.Resolves info.schema k := by
  simp only [importedKeys_eq_ok_iff hmain, exists_and_left, exists_eq, and_true]

/-! ### Keys

Each reported row bears the place of its key. So the rows of different keys never share a name, and
aggregating them gives the keys back. -/

theorem nameOf_of_mem_group {row : ImportedKey} (h : row ∈ db.group info entry) :
    KeySpec.nameOf info row = KeySpec.syntheticName info.name (entry.2 + 1) := by
  obtain ⟨pair, -, rfl⟩ := List.mem_map.1 h
  rfl

/-- Pairs of different foreign keys belong to different constraints. -/
theorem grouped_zipIdx (keys : List ForeignKeyDef) :
    KeySpec.Grouped info (keys.zipIdx.map (db.group info)) :=
  KeySpec.grouped_of_places (fun _ _ => nameOf_of_mem_group) keys

theorem length_pairs {pairs : List PairSpec} (h : db.pairs info k = .ok pairs) :
    k.columns.length = pairs.length := by
  rw [← (exceptMapM_eq_ok_iff.1 h).length_eq, List.length_zipIdx]

theorem ofGroup?_group (hresolves : db.Resolves info.schema entry.1) :
    (KeySpec.ofGroup? info (db.group info entry)).map KeySpec.ordered = db.keySpec? info entry := by
  obtain ⟨pairs, hpairs⟩ := exists_pairs_iff.2 hresolves
  have hlength := length_pairs hpairs
  rw [group, keySpec?, hpairs]
  cases pairs with
  | nil =>
    rw [List.length_nil, List.length_eq_zero_iff] at hlength
    rw [hlength]
    rfl
  | cons pair rest =>
    have hcolumns : ¬entry.1.columns.isEmpty := by
      rw [List.isEmpty_iff_length_eq_zero, hlength]
      exact Nat.succ_ne_zero _
    -- to report a pair and to read the report gives the pair back
    have hkept : ((pair :: rest).map (reported info entry)).map KeySpec.pairOf = pair :: rest := by
      rw [List.map_map]
      exact List.map_id _
    rw [if_neg hcolumns]
    show some (KeySpec.mk _ _ _
      ((((pair :: rest).map (reported info entry)).map KeySpec.pairOf).mergeSort _)) = _
    rw [hkept]
    rfl

/-- What is reported of a table makes one key for each of its foreign keys. -/
theorem aggregate_importedKeys (hmain : sameName info.schema "main") {rows : List ImportedKey}
    (h : db.importedKeys info = .ok rows) :
    KeySpec.aggregate info rows = (db.keysOf info).zipIdx.filterMap (db.keySpec? info) := by
  obtain ⟨hkeys, rfl⟩ := (importedKeys_eq_ok_iff hmain).1 h
  rw [KeySpec.aggregate_flatten (grouped_zipIdx _), List.filterMap_map, List.map_filterMap]
  refine List.filterMap_congr ?_
  intro entry hentry
  have hmem : entry.1 ∈ db.keysOf info :=
    List.mem_of_getElem? (List.mem_zipIdx_iff_getElem?.1 hentry)
  exact ofGroup?_group (hkeys entry.1 hmem)

end Database

end FixturePlan
