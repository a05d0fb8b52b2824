import FixturePlan.Proofs.Schema.JoinShape
import FixturePlan.Proofs.Text.Casing

/-!
# The parameters of constructors

A constructor of join rows has a parameter for each key of the join table but the first that leads to the
table it starts from. A parameter is named by the source columns of its key, in camel case, and nothing
tells apart what camel case makes the same: two keys by the same columns always give one name twice, and so
may columns that differ in case or separators alone (`Schema.exists_equal_parameters`). What differs in its
letters or digits beyond case stays apart (`Schema.callable_iff_of_build`).
-/

namespace FixturePlan

namespace ConstructorArg

/-- The name of a parameter. -/
def parameter? : ConstructorArg → Option String
  | .this => none
  | .param name _ _ => some name

/-- The names of the parameters of a constructor, in their order. -/
def parameterNames (args : List ConstructorArg) : List String := args.filterMap parameter?

/-- A constructor whose parameters can be told apart: each has a name, and no two have the same. -/
structure Callable (args : List ConstructorArg) : Prop where
  ne_empty : ∀ name ∈ parameterNames args, name ≠ ""
  nodup : (parameterNames args).Nodup

end ConstructorArg

namespace ForeignKey

/-- The names of the source columns in camel case, joined and put in camel case again. -/
def camelName (k : ForeignKey) : String :=
  Text.camelCase ("_".intercalate (k.pairs.map fun p => Text.camelCase p.sourceColumn))

/-- The letters and digits of the source columns. -/
def sourceLetters (k : ForeignKey) : List Char := k.pairs.flatMap fun p => Text.letters p.sourceColumn

theorem letters_camelName (k : ForeignKey) : Text.letters k.camelName = k.sourceLetters := by
  rw [camelName, Text.letters_camelCase, Text.letters_intercalate, List.flatMap_map, sourceLetters]
  exact congrArg (List.flatMap · k.pairs) (funext fun p => Text.letters_camelCase p.sourceColumn)

theorem camelName_eq_empty_iff (k : ForeignKey) : k.camelName = "" ↔ k.sourceLetters = [] := by
  rw [camelName, Text.camelCase_eq_empty_iff, ← Text.letters_camelCase]
  exact k.letters_camelName ▸ Iff.rfl

theorem camelName_congr {k k' : ForeignKey}
    (h : k.pairs.map (·.sourceColumn) = k'.pairs.map (·.sourceColumn)) :
    k.camelName = k'.camelName := by
  have hnames : ∀ q : ForeignKey, (q.pairs.map fun p => Text.camelCase p.sourceColumn) =
      (q.pairs.map (·.sourceColumn)).map Text.camelCase := fun q => by
    rw [List.map_map]
    rfl
  rw [camelName, camelName, hnames, hnames, h]

end ForeignKey

namespace Schema

open ConstructorArg

variable {s : Schema} {singularize : Bool} {anchor join : TableId} {args : List ConstructorArg}

/-- The keys of a join table that give parameters when a row is constructed from a table: all but the first
that leads there. -/
def parameterKeys (s : Schema) (anchor join : TableId) : List ForeignKey :=
  (s.keysFrom join).eraseP (·.target = anchor)

/-- The columns of a key are those of its table, so that its parameter name is made of their names. -/
theorem Joins.parameterName_eq {k : ForeignKey} {t u : Table} (h : s.Joins k t u) :
    (Naming.inflected singularize).parameterName s k = k.camelName := by
  have hcolumns : (k.pairs.filterMap fun p => t.columns[p.sourceIndex]?).map
      (fun c => Text.camelCase c.name) = k.pairs.map fun p => Text.camelCase p.sourceColumn := by
    rw [List.map_filterMap, ← List.filterMap_eq_map]
    refine List.filterMap_congr fun p hp => ?_
    have hindex := (h.pairs p hp).1
    obtain ⟨hlt, hname, -⟩ := List.findIdx?_eq_some_iff_getElem.1 hindex
    rw [List.getElem?_eq_getElem hlt, Option.map_some, beq_iff_eq.1 hname]
    rfl
  show Naming.joinedParameter _ s k = _
  rw [Naming.joinedParameter, h.source_eq]
  exact congrArg (fun names => Text.camelCase ("_".intercalate names)) hcolumns

/-- Keys are known by their numbers, so that all but one number are all but one key. -/
theorem WellFormed.filter_id_ne (hs : s.WellFormed) {key : ForeignKey}
    (hkey : (s.keysFrom join).find? (·.target = anchor) = some key) :
    (s.keysFrom join).filter (·.id ≠ key.id) = s.parameterKeys anchor join := by
  obtain ⟨htarget, before, after, hsplit, hbefore⟩ := List.find?_eq_some_iff_append.1 hkey
  -- ids tell the keys of the table apart, so that leaving out by id leaves out one key
  have hne : ∀ k ∈ s.keysFrom join, k ≠ key → decide (k.id ≠ key.id) = true := by
    intro k hk hne
    refine decide_eq_true fun hid => hne (hs.eq_of_id_eq ?_ ?_ hid)
    · exact List.mem_of_mem_filter hk
    · exact List.mem_of_mem_filter (List.mem_of_find?_eq_some hkey)
  have hnodup := hs.nodup_keysFrom join
  rw [hsplit, List.nodup_middle, List.nodup_cons] at hnodup
  have hfilter : ∀ {part : List ForeignKey}, (∀ k ∈ part, k ∈ s.keysFrom join ∧ k ∈ before ++ after) →
      part.filter (·.id ≠ key.id) = part := by
    intro part hpart
    refine List.filter_eq_self.2 fun k hk => hne k (hpart k hk).1 ?_
    rintro rfl
    exact hnodup.1 (hpart k hk).2
  have herase : (key :: after).eraseP (·.target = anchor) = after := List.eraseP_cons_of_pos htarget
  rw [parameterKeys, hsplit, List.eraseP_append_right _ fun k hk => by simpa using hbefore k hk, herase,
    List.filter_append, List.filter_cons_of_neg (by simp), hfilter, hfilter]
  · intro k hk
    exact ⟨by simp [hsplit, hk], List.mem_append_right _ hk⟩
  · intro k hk
    exact ⟨by simp [hsplit, hk], List.mem_append_left _ hk⟩

theorem parameterNames_of_shape? (hs : s.WellFormed)
    (hargs : (s.joinShapes (.inflected singularize)).shape? anchor join = some args) :
    parameterNames args = (s.parameterKeys anchor join).map (·.camelName) := by
  obtain ⟨t, ht, -, hshape⟩ := (shape?_joinShapes_eq_some_iff hs).1 hargs
  have hkeys : s.outgoing t = s.keysFrom join := by
    rw [hs.outgoing (mem_tables_iff.2 ⟨join, ht⟩), hs.table_id join t ht, keysFrom]
  rw [shapeFrom?, hkeys] at hshape
  obtain ⟨key, hkey, rfl⟩ := Option.map_eq_some_iff.1 hshape
  rw [← hs.filter_id_ne hkey, parameterNames, List.filterMap_map, ← List.filterMap_eq_map,
    List.filterMap_filter]
  refine List.filterMap_congr fun k hk => ?_
  obtain ⟨t', u, hjoins⟩ := hs.exists_joins k (List.mem_of_mem_filter hk)
  rw [Function.comp_apply, argument]
  by_cases hid : k.id = key.id
  · simp [hid, parameter?]
  · simp [hid, parameter?, hjoins.parameterName_eq]

/-- **A constructor has a parameter for each key of the join table but the first that leads to its table,
named by the source columns of the key.** The names can be told apart if and only if each key has a letter
or digit in its source columns and no two keys have the same name in camel case. To differ in letters or
digits beyond case is enough for that, to have other source columns is necessary. -/
theorem callable_iff_of_build {source : Source} {exclude : List Text.Pattern} {name : String}
    (hbuild : (build source exclude name).result = .ok s)
    (hargs : (s.joinShapes (.inflected singularize)).shape? anchor join = some args) :
    parameterNames args = (s.parameterKeys anchor join).map (·.camelName) ∧
    (Callable args ↔ (∀ k ∈ s.parameterKeys anchor join, k.sourceLetters ≠ []) ∧
      (s.parameterKeys anchor join).Pairwise fun k k' => k.camelName ≠ k'.camelName) ∧
    ((∀ k ∈ s.parameterKeys anchor join, k.sourceLetters ≠ []) →
      ((s.parameterKeys anchor join).Pairwise fun k k' => k.sourceLetters ≠ k'.sourceLetters) →
      Callable args) ∧
    (Callable args → (s.parameterKeys anchor join).Pairwise fun k k' =>
      k.pairs.map (·.sourceColumn) ≠ k'.pairs.map (·.sourceColumn)) := by
  have hnames := parameterNames_of_shape? (wellFormed_of_build hbuild) hargs
  have hcallable : Callable args ↔ (∀ k ∈ s.parameterKeys anchor join, k.sourceLetters ≠ []) ∧
      (s.parameterKeys anchor join).Pairwise fun k k' => k.camelName ≠ k'.camelName := by
    have hempty : (∀ n ∈ parameterNames args, n ≠ "") ↔
        ∀ k ∈ s.parameterKeys anchor join, k.sourceLetters ≠ [] := by
      rw [hnames, List.forall_mem_map]
      simp only [Ne, ForeignKey.camelName_eq_empty_iff]
    have hnodup : (parameterNames args).Nodup ↔
        (s.parameterKeys anchor join).Pairwise fun k k' => k.camelName ≠ k'.camelName := by
      rw [hnames, List.Nodup, List.pairwise_map]
    rw [← hempty, ← hnodup]
    exact ⟨fun h => ⟨h.ne_empty, h.nodup⟩, fun h => ⟨h.1, h.2⟩⟩
  refine ⟨hnames, hcallable, ?_, ?_⟩
  -- the letters can be read back from a name in camel case
  · intro hletters hapart
    refine hcallable.2 ⟨hletters, hapart.imp fun hne hname => hne ?_⟩
    rw [← ForeignKey.letters_camelName, hname, ForeignKey.letters_camelName]
  · intro h
    exact (hcallable.1 h).2.imp fun hne hcolumns => hne (ForeignKey.camelName_congr hcolumns)

/-! ### Samples

Seen from the place of a tie both persons are parameters; a knot leads to one place by three columns, of
which camel case makes two the same. -/

theorem callable_iff_of_build_sample :
    Callable [.this, .param "right" 1 1, .param "at" 2 2] := by
  have hargs : (tieSchema.joinShapes (.inflected true)).shape? 1 0 =
      some [.this, .param "right" 1 1, .param "at" 2 2] := by decide +kernel
  obtain ⟨-, -, hsufficient, -⟩ := callable_iff_of_build result_build_tieSource hargs
  exact hsufficient (by decide +kernel) (by decide +kernel)

/-- Knots and places. -/
def knotSource : Source where
  listTables _ := .ok (["knot", "place"].map (.table "main"))
  columns info := .ok ((if info.name = "knot" then ["at", "a_b", "aB"] else ["id"]).map fun c =>
    ⟨some c, 0, "integer", TypeCode.other, false, false, none, none⟩)
  primaryKey info := .ok (if info.name = "knot" then [⟨"at", 1⟩, ⟨"a_b", 2⟩, ⟨"aB", 3⟩] else [])
  importedKeys info := .ok (if info.name = "knot" then
      ["at", "a_b", "aB"].map fun c => ⟨some c, 1, c, "main", "place", "id", 1⟩
    else [])
  vendor _ := .ok ∅
  scan _ _ _ := .error (.engine "")

/-- The key of knots by a column. -/
def knotKey (column : String) : KeySpec :=
  ⟨column, ⟨"main", "knot"⟩, ⟨"main", "place"⟩, [⟨1, column, "id"⟩]⟩

/-- The tables of knots and places with their keys. -/
def knotSchema : Schema :=
  ({ empty "main" with
    tables := [tieTable 0 "knot" ["at", "a_b", "aB"] [0, 1, 2], tieTable 1 "place" ["id"] []] }.attach
    (["at", "a_b", "aB"].map knotKey)).state.schema

theorem result_build_knotSource : (build knotSource [] "main").result = .ok knotSchema := by
  have hkeys : ∀ rows, knotSource.importedKeys (.table "main" "knot") = .ok rows →
      KeySpec.aggregate (.table "main" "knot") rows = ["at", "a_b", "aB"].map knotKey := by
    rintro _ ⟨⟩
    simp [KeySpec.aggregate, KeySpec.addRow, KeySpec.nameOf, KeySpec.pairOf, KeySpec.ordered,
      TableInfo.table, knotKey]
  have hsorted : [(⟨"at", 1⟩ : KeyColumn), ⟨"a_b", 2⟩, ⟨"aB", 3⟩].mergeSort
      (fun a b => a.sequence ≤ b.sequence) = [⟨"at", 1⟩, ⟨"a_b", 2⟩, ⟨"aB", 3⟩] :=
    List.mergeSort_of_pairwise (by decide)
  refine result_build_eq_ok_iff.2 ⟨_, [tieTable 0 "knot" ["at", "a_b", "aB"] [0, 1, 2],
    tieTable 1 "place" ["id"] []], knotSchema, ∅, rfl, by decide, ?_, ?_, rfl, rfl⟩
  · refine Report.result_mapList_eq_ok_iff.2 (.cons ?_ (.cons ?_ .nil))
    · refine result_loadTable_eq_ok_iff.2 ⟨_, [0, 1, 2], rfl, ?_, rfl⟩
      exact result_loadPrimaryKey_eq_ok_iff.2
        ⟨[⟨"at", 1⟩, ⟨"a_b", 2⟩, ⟨"aB", 3⟩], rfl, by rw [hsorted]; rfl⟩
    · refine result_loadTable_eq_ok_iff.2 ⟨_, [], rfl, ?_, rfl⟩
      exact result_loadPrimaryKey_eq_ok_iff.2 ⟨[], rfl, by rw [List.mergeSort_nil]; rfl⟩
  · refine Report.result_andThen_eq_ok_iff.2 ⟨knotSchema, ?_, rfl⟩
    exact result_loadKeys_eq_ok_iff.2 ⟨_, rfl, by rw [hkeys _ rfl]; rfl, by rw [hkeys _ rfl]; rfl⟩

/-- Camel case gives two parameters of a constructor one name. -/
theorem exists_equal_parameters : (build knotSource [] "main").result = .ok knotSchema ∧
    (knotSchema.joinShapes (.inflected true)).shape? 1 0 =
      some [.this, .param "aB" 1 1, .param "aB" 1 2] ∧
    ¬Callable [.this, .param "aB" 1 1, .param "aB" 1 2] :=
  ⟨result_build_knotSource, by decide +kernel, fun h => absurd h.nodup (by decide)⟩

end Schema

end FixturePlan
