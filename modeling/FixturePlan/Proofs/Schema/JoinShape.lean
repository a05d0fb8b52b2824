import FixturePlan.Proofs.Schema.Attaching
import FixturePlan.Proofs.SortedMap
import FixturePlan.Schema.JoinShape

/-!
# The constructors of join rows

What is recorded first under two tables stays (`JoinShapes.shape?_record`), so that a constructor is found
if and only if a join table leads to the table it starts from, and is the one that the first of the keys
to that table gives (`Schema.shape?_joinShapes_eq_some_iff`). In a built schema this is the constructor
with one argument for each key of the join table, of which `this` stands at that first key
(`Schema.shape_of_build`).
-/

namespace FixturePlan

/-! ### Recording

Constructors are recorded table by table and key by key, and what is there already stays. -/

namespace JoinShapes

variable {anchor join : TableId} {args : List ConstructorArg}

@[simp] theorem shape?_empty (anchor join : TableId) : (∅ : JoinShapes).shape? anchor join = none := rfl

/-- To record a constructor changes nothing but the place for its two tables, and that only if it is
free. -/
theorem shape?_record (shapes : JoinShapes) (anchor join : TableId) (args : List ConstructorArg)
    (a j : TableId) :
    (shapes.record anchor join args).shape? a j =
      (shapes.shape? a j).or (if a = anchor ∧ j = join then some args else none) := by
  unfold shape? record
  rw [SortedMap.find?_insert]
  -- only the shapes of the one anchor can change, and of those only an entry that was free
  by_cases ha : a = anchor
  · subst ha
    have hnow : ((shapes.find? a).getD ∅).find? j = (shapes.find? a).bind (·.find? j) := by
      cases shapes.find? a <;> rfl
    rw [if_pos rfl, Option.bind_some, ← hnow, SortedMap.insertIfNew]
    split
    · next hfull =>
      by_cases hj : j = join
      · obtain ⟨old, hold⟩ := SortedMap.contains_eq_true_iff.1 hfull
        rw [hj, hold, Option.some_or]
      · simp [hj]
    · next hfree =>
      rw [SortedMap.find?_insert]
      by_cases hj : j = join
      · have hnone := SortedMap.find?_eq_none_iff.2 (Bool.not_eq_true _ ▸ hfree)
        simp [hj, hnone]
      · simp [hj]
  · simp [ha]

/-- Of the keys of a join table the first one to a table decides what is recorded for it. -/
theorem shape?_foldl_record (keys : List ForeignKey) (shapes : JoinShapes) (join : TableId)
    (argsOf : ForeignKey → List ConstructorArg) (a j : TableId) :
    (keys.foldl (fun acc key => acc.record key.target join (argsOf key)) shapes).shape? a j =
      (shapes.shape? a j).or
        (if j = join then (keys.find? (·.target = a)).map argsOf else none) := by
  induction keys generalizing shapes with
  | nil => simp
  | cons key rest ih =>
    rw [List.foldl_cons, ih, shape?_record, Option.or_assoc, List.find?_cons]
    by_cases hj : j = join
    · by_cases ha : a = key.target
      · simp [hj, ha]
      · simp [hj, ha, Ne.symm ha]
    · simp [hj]

end JoinShapes

namespace Schema

variable {s : Schema} {naming : Naming} {anchor join : TableId} {args : List ConstructorArg}

/-- The constructor that a join table records for a table: that of the first key which leads there. -/
def shapeFrom? (s : Schema) (naming : Naming) (join : Table) (anchor : TableId) :
    Option (List ConstructorArg) :=
  ((s.outgoing join).find? (·.target = anchor)).map fun key =>
    (s.outgoing join).map (s.argument naming key)

theorem shape?_recordJoin (shapes : JoinShapes) (t : Table) (a j : TableId) :
    (s.recordJoin naming shapes t).shape? a j =
      (shapes.shape? a j).or (if j = t.id then s.shapeFrom? naming t a else none) :=
  JoinShapes.shape?_foldl_record (s.outgoing t) shapes t.id _ a j

theorem shape?_foldl_recordJoin (shapes : JoinShapes) (ts : List Table) (a j : TableId) :
    (ts.foldl (s.recordJoin naming) shapes).shape? a j =
      (shapes.shape? a j).or
        (ts.findSome? fun t => if j = t.id then s.shapeFrom? naming t a else none) := by
  induction ts generalizing shapes with
  | nil => simp
  | cons t rest ih =>
    rw [List.foldl_cons, ih, shape?_recordJoin, Option.or_assoc, List.findSome?_cons]
    cases if j = t.id then s.shapeFrom? naming t a else none <;> rfl

theorem shape?_joinShapes_eq_some_iff (hs : s.WellFormed) :
    (s.joinShapes naming).shape? anchor join = some args ↔
      ∃ t, s.table? join = some t ∧ s.isJoinTable t = true ∧
        s.shapeFrom? naming t anchor = some args := by
  rw [joinShapes, shape?_foldl_recordJoin, JoinShapes.shape?_empty, Option.none_or]
  -- tables have numbers of their own, so that at most one of them has recorded the constructor
  have hfound : ∀ {found}, (s.joinTables.findSome? fun t =>
      if join = t.id then s.shapeFrom? naming t anchor else none) = some found →
      ∃ t, s.table? join = some t ∧ s.isJoinTable t = true ∧
        s.shapeFrom? naming t anchor = some found := by
    intro found h
    obtain ⟨t, ht, hshape⟩ := List.exists_of_findSome?_eq_some h
    obtain ⟨hmem, hjoin⟩ := List.mem_filter.1 ht
    split at hshape
    · next hid => exact ⟨t, hid ▸ hs.table?_id hmem, hjoin, hshape⟩
    · cases hshape
  refine ⟨hfound, ?_⟩
  rintro ⟨t, ht, hjoin, hshape⟩
  have hid := hs.table_id join t ht
  have hmem : t ∈ s.joinTables := List.mem_filter.2 ⟨mem_tables_iff.2 ⟨join, ht⟩, hjoin⟩
  cases h : s.joinTables.findSome? fun t =>
      if join = t.id then s.shapeFrom? naming t anchor else none with
  | none =>
    have hnone := List.findSome?_eq_none_iff.1 h t hmem
    rw [if_pos hid.symm, hshape] at hnone
    cases hnone
  | some found =>
    obtain ⟨t', ht', -, hshape'⟩ := hfound h
    obtain rfl := Option.some.inj (ht.symm.trans ht')
    exact hshape'.symm.trans hshape

/-! ### Join tables and constructors, as described

What makes a join table, and what its constructors are to look like, in terms of keys between tables. -/

/-- The keys that leave a table, in the order in which they were attached. -/
def keysFrom (s : Schema) (id : TableId) : List ForeignKey := s.foreignKeys.filter (·.source = id)

/-- Some key leaves a table by a column. -/
def LeavesBy (s : Schema) (id : TableId) (column : Nat) : Prop :=
  ∃ k ∈ s.keysFrom id, ∃ p ∈ k.pairs, p.sourceIndex = column

/-- A table that has nothing but its primary key and its foreign keys. -/
structure IsJoin (s : Schema) (t : Table) : Prop where
  primaryKey_ne_nil : t.primaryKey ≠ []
  keysFrom_ne_nil : s.keysFrom t.id ≠ []
  composite : 1 < t.primaryKey.length →
    ∀ column < t.columns.length, column ∈ t.primaryKey ∧ s.LeavesBy t.id column
  single : t.primaryKey.length = 1 →
    ∀ column < t.columns.length, column ∈ t.primaryKey ∨ s.LeavesBy t.id column

/-- The arguments with which a row of a join table is constructed from a table that it leads to. -/
structure IsShape (s : Schema) (naming : Naming) (anchor join : TableId)
    (args : List ConstructorArg) : Prop where
  /-- There is one argument for each key. -/
  length_eq : args.length = (s.keysFrom join).length
  /-- The first key that leads to the table gives the only `this`, and every other key a parameter. -/
  exists_first : ∃ (i : Nat) (key : ForeignKey), (s.keysFrom join)[i]? = some key ∧ key.target = anchor ∧
    (∀ j < i, ∀ k, (s.keysFrom join)[j]? = some k → k.target ≠ anchor) ∧
    (∀ j, args[j]? = some .this ↔ j = i) ∧
    ∀ j k, (s.keysFrom join)[j]? = some k → j ≠ i →
      args[j]? = some (.param (naming.parameterName s k) k.target k.id)

namespace WellFormed

variable (hs : s.WellFormed)

include hs

theorem isJoinTable_eq_true_iff {t : Table} (ht : t ∈ s.tables) :
    s.isJoinTable t = true ↔ s.IsJoin t := by
  have hkeys : s.outgoing t = s.keysFrom t.id := hs.outgoing ht
  have hleaves : ∀ column, (s.keysFrom t.id).any (·.hasSource column) = true ↔
      s.LeavesBy t.id column := by
    intro column
    simp [LeavesBy, ForeignKey.hasSource]
  have houtgoing : t.outgoing ≠ [] ↔ s.keysFrom t.id ≠ [] := by
    rw [hs.outgoing_eq t ht, Ne, List.map_eq_nil_iff]
    rfl
  simp only [isJoinTable, hkeys, Bool.and_eq_true, Bool.not_eq_true', List.isEmpty_eq_false_iff,
    houtgoing, List.all_eq_true, List.mem_range]
  -- the two conditions on columns are asked by the number of columns in the key
  constructor
  · rintro ⟨⟨hprimary, hforeign⟩, hcolumns⟩
    refine ⟨hprimary, hforeign, ?_, ?_⟩
    · intro hcomposite column hcolumn
      have h := hcolumns column hcolumn
      rw [if_pos hcomposite, Bool.and_eq_true, hleaves] at h
      exact ⟨List.contains_iff_mem.1 h.1, h.2⟩
    · intro hsingle column hcolumn
      have h := hcolumns column hcolumn
      rw [if_neg (Nat.not_lt_of_le (Nat.le_of_eq hsingle)), Bool.or_eq_true, hleaves] at h
      exact h.imp_left List.contains_iff_mem.1
  · rintro ⟨hprimary, hforeign, hcomposite, hsingle⟩
    refine ⟨⟨hprimary, hforeign⟩, ?_⟩
    intro column hcolumn
    split
    · next hlength =>
      obtain ⟨hkey, hleave⟩ := hcomposite hlength column hcolumn
      rw [Bool.and_eq_true, hleaves]
      exact ⟨List.contains_iff_mem.2 hkey, hleave⟩
    · next hlength =>
      have hone : t.primaryKey.length = 1 :=
        Nat.le_antisymm (Nat.le_of_not_lt hlength) (List.length_pos_iff.2 hprimary)
      rw [Bool.or_eq_true, hleaves]
      exact (hsingle hone column hcolumn).imp_left List.contains_iff_mem.2

/-- No key leaves a table twice. -/
theorem nodup_keysFrom (id : TableId) : (s.keysFrom id).Nodup := by
  have hids : (s.foreignKeys.map (·.id)).Nodup := hs.map_id_foreignKeys ▸ List.nodup_range
  exact hids.of_map.filter _

/-- The first key to a table gives its constructor. -/
theorem isShape_of_find? {key : ForeignKey}
    (hkey : (s.keysFrom join).find? (·.target = anchor) = some key) :
    s.IsShape naming anchor join ((s.keysFrom join).map (s.argument naming key)) := by
  refine ⟨List.length_map .., ?_⟩
  obtain ⟨htarget, i, hi, hat, hfirst⟩ := List.find?_eq_some_iff_getElem.1 hkey
  rw [decide_eq_true_iff] at htarget
  have hget : (s.keysFrom join)[i]? = some key := hat ▸ List.getElem?_eq_getElem hi
  -- a key is known by its number, and stands at one place only
  have hsame : ∀ j k, (s.keysFrom join)[j]? = some k → (k.id = key.id ↔ j = i) := by
    intro j k hj
    constructor
    · intro hid
      have hmem := (List.mem_filter.1 (List.mem_of_getElem? hj)).1
      have hmem' := (List.mem_filter.1 (List.mem_of_getElem? hget)).1
      have heq : k = key := hs.eq_of_id_eq hmem hmem' hid
      have hlt : j < (s.keysFrom join).length := (List.getElem?_eq_some_iff.1 hj).1
      exact (List.getElem?_inj hlt (hs.nodup_keysFrom join)).1 (by rw [hj, hget, heq])
    · rintro rfl
      rw [Option.some.inj (hj.symm.trans hget)]
  refine ⟨i, key, hget, htarget, ?_, ?_, ?_⟩
  · intro j hj k hk
    obtain ⟨hlt, rfl⟩ := List.getElem?_eq_some_iff.1 hk
    simpa using hfirst j hj
  · intro j
    rw [List.getElem?_map]
    cases hk : (s.keysFrom join)[j]? with
    | none =>
      refine iff_of_false nofun ?_
      rintro rfl
      cases hk.symm.trans hget
    | some k =>
      rw [Option.map_some, Option.some.injEq, argument, ← hsame j k hk]
      split <;> simp_all
  · intro j k hk hne
    rw [List.getElem?_map, hk, Option.map_some, argument, if_neg fun hid => hne ((hsame j k hk).1 hid)]

end WellFormed

/-- In a built schema a constructor is recorded for a table and a join table if and only if a key of the
join table leads there. It has an argument for every key of the join table: `this` for the first key that
leads there, and parameters for the others. -/
theorem shape_of_build {source : Source} {exclude : List Text.Pattern} {name : String}
    (hbuild : (build source exclude name).result = .ok s) (naming : Naming)
    (anchor join : TableId) :
    (((s.joinShapes naming).shape? anchor join).isSome = true ↔
      ∃ t, s.table? join = some t ∧ s.IsJoin t ∧ ∃ k ∈ s.keysFrom join, k.target = anchor) ∧
    ∀ args, (s.joinShapes naming).shape? anchor join = some args →
      s.IsShape naming anchor join args := by
  have hs := wellFormed_of_build hbuild
  have hfrom : ∀ t, s.table? join = some t → s.outgoing t = s.keysFrom join := by
    intro t ht
    rw [hs.outgoing (mem_tables_iff.2 ⟨join, ht⟩), hs.table_id join t ht, keysFrom]
  constructor
  · rw [Option.isSome_iff_exists]
    simp only [shape?_joinShapes_eq_some_iff hs]
    constructor
    · rintro ⟨args, t, ht, hjoin, hshape⟩
      obtain ⟨key, hkey, -⟩ := Option.map_eq_some_iff.1 hshape
      rw [hfrom t ht] at hkey
      refine ⟨t, ht, (hs.isJoinTable_eq_true_iff (mem_tables_iff.2 ⟨join, ht⟩)).1 hjoin, key, ?_, ?_⟩
      · exact List.mem_of_find?_eq_some hkey
      · simpa using List.find?_some hkey
    -- the first key that leads to the anchor becomes `this`
    · rintro ⟨t, ht, hjoin, k, hk, htarget⟩
      obtain ⟨key, hkey⟩ : ∃ key, (s.keysFrom join).find? (·.target = anchor) = some key := by
        rw [← Option.isSome_iff_exists, List.find?_isSome]
        exact ⟨k, hk, decide_eq_true htarget⟩
      refine ⟨(s.keysFrom join).map (s.argument naming key), t, ht,
        (hs.isJoinTable_eq_true_iff (mem_tables_iff.2 ⟨join, ht⟩)).2 hjoin, ?_⟩
      rw [shapeFrom?, hfrom t ht, hkey, Option.map_some]
  · intro args hargs
    obtain ⟨t, ht, -, hshape⟩ := (shape?_joinShapes_eq_some_iff hs).1 hargs
    obtain ⟨key, hkey, rfl⟩ := Option.map_eq_some_iff.1 hshape
    rw [hfrom t ht] at hkey ⊢
    exact hs.isShape_of_find? hkey

/-! ### A sample

A tie holds between two persons at a place. Seen from a person it is the left one who is `this`. -/

/-- Ties, persons and places. -/
def tieSource : Source where
  listTables _ := .ok (["tie", "person", "place"].map (.table "main"))
  columns info := .ok ((if info.name = "tie" then ["left", "right", "at"] else ["id"]).map fun c =>
    ⟨some c, 0, "integer", TypeCode.other, false, false, none, none⟩)
  primaryKey info := .ok (if info.name = "tie" then [⟨"left", 1⟩, ⟨"right", 2⟩, ⟨"at", 3⟩] else [])
  importedKeys info := .ok (if info.name = "tie" then
      [("left", "person"), ("right", "person"), ("at", "place")].map fun c =>
        ⟨some c.1, 1, c.1, "main", c.2, "id", 1⟩
    else [])
  vendor _ := .ok ∅
  scan _ _ _ := .error (.engine "")

/-- A table of the sample without its keys. -/
def tieTable (id : TableId) (name : String) (columns : List String) (primaryKey : List Nat) : Table where
  id
  name := ⟨"main", name⟩
  columns := columns.map fun c => ⟨c, ⟨"integer", TypeCode.other, false, none, none⟩, false, false⟩
  primaryKey
  outgoing := []
  incoming := []

/-- The key of ties by a column. -/
def tieKey (column target : String) : KeySpec :=
  ⟨column, ⟨"main", "tie"⟩, ⟨"main", target⟩, [⟨1, column, "id"⟩]⟩

/-- The tables of the sample with the keys of ties. -/
def tieSchema : Schema :=
  ({ empty "main" with
    tables := [tieTable 0 "tie" ["left", "right", "at"] [0, 1, 2], tieTable 1 "person" ["id"] [],
      tieTable 2 "place" ["id"] []] }.attach
    [tieKey "left" "person", tieKey "right" "person", tieKey "at" "place"]).state.schema

theorem result_build_tieSource : (build tieSource [] "main").result = .ok tieSchema := by
  have hkeys : ∀ rows, tieSource.importedKeys (.table "main" "tie") = .ok rows →
      KeySpec.aggregate (.table "main" "tie") rows =
        [tieKey "left" "person", tieKey "right" "person", tieKey "at" "place"] := by
    rintro _ ⟨⟩
    simp [KeySpec.aggregate, KeySpec.addRow, KeySpec.nameOf, KeySpec.pairOf, KeySpec.ordered,
      TableInfo.table, tieKey]
  have hsorted : [(⟨"left", 1⟩ : KeyColumn), ⟨"right", 2⟩, ⟨"at", 3⟩].mergeSort
      (fun a b => a.sequence ≤ b.sequence) = [⟨"left", 1⟩, ⟨"right", 2⟩, ⟨"at", 3⟩] :=
    List.mergeSort_of_pairwise (by decide)
  refine result_build_eq_ok_iff.2 ⟨_, [tieTable 0 "tie" ["left", "right", "at"] [0, 1, 2],
    tieTable 1 "person" ["id"] [], tieTable 2 "place" ["id"] []], tieSchema, ∅, rfl, by decide, ?_, ?_,
    rfl, rfl⟩
  · refine Report.result_mapList_eq_ok_iff.2 (.cons ?_ (.cons ?_ (.cons ?_ .nil)))
    · refine result_loadTable_eq_ok_iff.2 ⟨_, [0, 1, 2], rfl, ?_, rfl⟩
      exact result_loadPrimaryKey_eq_ok_iff.2
        ⟨[⟨"left", 1⟩, ⟨"right", 2⟩, ⟨"at", 3⟩], rfl, by rw [hsorted]; rfl⟩
    · refine result_loadTable_eq_ok_iff.2 ⟨_, [], rfl, ?_, rfl⟩
      exact result_loadPrimaryKey_eq_ok_iff.2 ⟨[], rfl, by rw [List.mergeSort_nil]; rfl⟩
    · refine result_loadTable_eq_ok_iff.2 ⟨_, [], rfl, ?_, rfl⟩
      exact result_loadPrimaryKey_eq_ok_iff.2 ⟨[], rfl, by rw [List.mergeSort_nil]; rfl⟩
  · refine Report.result_andThen_eq_ok_iff.2 ⟨tieSchema, ?_, rfl⟩
    exact result_loadKeys_eq_ok_iff.2 ⟨_, rfl, by rw [hkeys _ rfl]; rfl, by rw [hkeys _ rfl]; rfl⟩

theorem shape_of_build_sample :
    tieSchema.IsShape .verbatim 1 0 [.this, .param "right" 1 1, .param "at" 2 2] ∧
      (∃ t, tieSchema.table? 0 = some t ∧ tieSchema.IsJoin t ∧
        ∃ k ∈ tieSchema.keysFrom 0, k.target = 1) := by
  obtain ⟨hrecorded, hshape⟩ := shape_of_build result_build_tieSource .verbatim 1 0
  have hargs : (tieSchema.joinShapes .verbatim).shape? 1 0 =
      some [.this, .param "right" 1 1, .param "at" 2 2] := by decide
  exact ⟨hshape _ hargs, hrecorded.1 (Option.isSome_iff_exists.2 ⟨_, hargs⟩)⟩

end Schema

end FixturePlan
