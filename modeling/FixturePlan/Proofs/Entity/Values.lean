import FixturePlan.Proofs.Entity.Cells

/-!
# Values and the columns they come from

The values of a row are those of its columns, in order, without the columns that links alone carry and
without NULL (`Extractor.values_eq`). So the names of the values are apart just when those of these
columns are, and under a name stands the value of the first column that has it.
-/

namespace FixturePlan

namespace Origin

/-- Where a column of a row stands: in the table, or only in the row. -/
inductive Place where
  | described (column : Nat)
  | reported (position : Nat)
  deriving DecidableEq, Repr

/-- The columns of a row with their places: those of the table, then those that only the row
reports. -/
def allColumns (o : Origin) : List (Column × Place) :=
  (o.table.columns.zipIdx.map fun (c, column) => (c, .described column)) ++
    o.columns.unknown.filterMap fun position =>
      (o.row.columns[position]?).map fun name => (Extract.undescribed name, .reported position)

end Origin

namespace Extractor

variable (x : Extractor)

/-- Whether a column is left to links: some key has it, every key that has it has its link, and neither
the primary key nor a key to the table needs it. -/
def leftToLinks (o : Origin) (e : Entity) (column : Nat) : Bool :=
  !(o.table.inPrimaryKey column || (x.schema.incoming o.table).any (·.hasTarget column)) &&
    (x.schema.outgoing o.table).any (·.hasSource column) &&
    (x.schema.outgoing o.table).all fun k =>
      !k.hasSource column || e.links.any (·.foreignKey == k.id)

/-- The value of a column, unless it is left to links or its cell is NULL. -/
def valueAt? (o : Origin) (e : Entity) : Column × Origin.Place → Option Attribute
  | (c, .described column) =>
    if x.leftToLinks o e column then none
    else ((o.cell? column).filter (!·.isNull)).map (x.valueOf o column c)
  | (c, .reported position) =>
    ((o.row.cell? position).filter (!·.isNull)).map fun cell =>
      ⟨x.strategies.naming.attributeName o.table c, x.strategies.render cell c, .undescribed⟩

/-- The columns of a row that have values. -/
def valueColumns (o : Origin) (e : Entity) : List (Column × Origin.Place) :=
  o.allColumns.filter fun p => (x.valueAt? o e p).isSome

variable {x} {o : Origin} {e : Entity}

theorem name_of_valueAt? {p : Column × Origin.Place} {a : Attribute}
    (ha : x.valueAt? o e p = some a) : a.name = x.strategies.naming.attributeName o.table p.1 := by
  obtain ⟨c, column | position⟩ := p
  · rw [valueAt?] at ha
    split at ha
    · cases ha
    · obtain ⟨cell, -, rfl⟩ := Option.map_eq_some_iff.1 ha
      rfl
  · obtain ⟨cell, -, rfl⟩ := Option.map_eq_some_iff.1 ha
    rfl

section Entity

variable (hs : x.schema.WellFormed) (ho : o.table ∈ x.schema.tables) (he : x.entityOf o = .ok e)

include hs ho he

/-- A reference that has its link is one whose key the links of the entity show. -/
theorem isSome_of_reference {entry : ForeignKey × String}
    (hentry : entry ∈ (Layout.ofTable x.schema x.strategies.naming o.table).references)
    {link : Option Link}
    (href : Extract.reference x.schema x.strategies
      (.ofTable x.schema x.strategies.naming o.table) o.columns o.row entry = .ok link) :
    link.isSome = e.links.any (·.foreignKey == entry.1.id) := by
  have hlinks := fun l => Extract.mem_links_of_entity (Layout.nodup_names_references ..) he (l := l)
  rw [Bool.eq_iff_iff, Option.isSome_iff_exists, List.any_eq_true]
  constructor
  · rintro ⟨l, rfl⟩
    refine ⟨l, (hlinks l).2 ⟨entry, hentry, href⟩, ?_⟩
    obtain ⟨_, -, -, rfl⟩ := Extract.reference_eq_ok_some_iff.1 href
    exact beq_self_eq_true _
  · rintro ⟨l, hl, hid⟩
    obtain ⟨entry', hentry', href'⟩ := (hlinks l).1 hl
    obtain ⟨found', hfound', hcomplete, rfl⟩ := Extract.reference_eq_ok_some_iff.1 href'
    -- the key alone decides whether a reference has a link
    have hkey : ∀ {entry}, entry ∈ (Layout.ofTable x.schema x.strategies.naming o.table).references →
        entry.1 ∈ x.schema.foreignKeys := fun h =>
      ((hs.mem_outgoing_iff ho).1 (Layout.mem_outgoing_of_mem_references _ _ _ h)).1
    have hsame := hs.eq_of_id_eq (hkey hentry') (hkey hentry) (beq_iff_eq.1 hid)
    obtain ⟨found, hfound, rfl⟩ := Extract.reference_eq_ok_iff.1 href
    rw [hsame, hfound] at hfound'
    obtain rfl := Except.ok.inj hfound'
    rw [hsame] at hcomplete
    exact ⟨_, if_neg (by rw [hcomplete]; exact Bool.false_ne_true)⟩

/-- Whether a column is left to links can be seen from the links. -/
theorem isConsumed_eq {column : Nat} (hcolumn : column < o.table.columns.length)
    {found : List (Option Link)}
    (hfound : Extract.mapOk (Extract.reference x.schema x.strategies
      (.ofTable x.schema x.strategies.naming o.table) o.columns o.row)
      (Layout.ofTable x.schema x.strategies.naming o.table).references = .ok found) :
    (Layout.ofTable x.schema x.strategies.naming o.table).isConsumed (found.map (·.isSome)) column =
      x.leftToLinks o e column := by
  -- a reference is attached just when the entity has a link of its key
  have hattached : ((Layout.ofTable x.schema x.strategies.naming o.table).references.map fun entry =>
      e.links.any (·.foreignKey == entry.1.id)) = found.map (·.isSome) := by
    rw [← List.forall₂_eq_eq_eq, List.forall₂_map_left_iff, List.forall₂_map_right_iff]
    refine List.forall₂_iff_zip.2 ⟨(Extract.mapOk_eq_ok_iff.1 hfound).length_eq, ?_⟩
    intro entry link hmem
    obtain ⟨hentry, href⟩ := (Extract.mem_zip_of_mapOk hfound).1 hmem
    exact (isSome_of_reference hs ho he hentry href).symm
  have hkeeps : (Layout.ofTable x.schema x.strategies.naming o.table).keepsValue[column]? =
      some (o.table.inPrimaryKey column || (x.schema.incoming o.table).any (·.hasTarget column)) := by
    rw [Layout.ofTable, List.getElem?_map, List.getElem?_range hcolumn, Option.map_some]
  rw [Layout.isConsumed, leftToLinks, hkeeps, ← hattached, ← List.map_prod_left_eq_zip,
    ← Layout.map_fst_references x.schema x.strategies.naming o.table]
  -- what is left is about booleans of a list of references
  generalize (Layout.ofTable x.schema x.strategies.naming o.table).references = refs
  have hcarriers : (!(refs.filter fun entry => entry.1.hasSource column).isEmpty) =
      refs.any fun entry => entry.1.hasSource column := by
    rw [Bool.eq_iff_iff, Bool.not_eq_true', List.isEmpty_eq_false_iff_exists_mem, List.any_eq_true]
    exact exists_congr fun entry => List.mem_filter
  rw [List.filter_map, List.isEmpty_map, List.all_map, List.any_map, List.all_map, List.all_filter,
    Option.getD_some]
  exact congrArg₂ (· && ·) (congrArg₂ (· && ·) rfl hcarriers) rfl

theorem valueAt?_described {found : List (Option Link)}
    (hfound : Extract.mapOk (Extract.reference x.schema x.strategies
      (.ofTable x.schema x.strategies.naming o.table) o.columns o.row)
      (Layout.ofTable x.schema x.strategies.naming o.table).references = .ok found)
    {column : Nat} {c : Column} (hc : o.table.columns[column]? = some c) {v : Option Attribute}
    (hv : Extract.plainValue x.strategies (.ofTable x.schema x.strategies.naming o.table) o.columns
      o.row (found.map (·.isSome)) (c, column) = .ok v) :
    x.valueAt? o e (c, .described column) = v := by
  have hconsumed := isConsumed_eq hs ho he (List.getElem?_eq_some_iff.1 hc).1 hfound
  -- left to its links, or read from the row
  rw [valueAt?]
  split
  · next hleft =>
    rw [hleft] at hconsumed
    rw [Extract.plainValue, hconsumed, if_pos rfl] at hv
    exact Except.ok.inj hv
  · next hkept =>
    rw [Bool.eq_false_iff.2 hkept] at hconsumed
    obtain ⟨cell, hcell, rfl⟩ := (Extract.plainValue_eq_ok_iff hconsumed).1 hv
    have hcell' : o.cell? column = some cell := Extract.read_eq_ok_iff.1 hcell
    rw [hcell', Option.filter_some]
    cases cell.isNull with
    | true => rfl
    | false => exact congrArg some (valueOf_eq hc)

/-- The values of an entity are those of its columns. -/
theorem values_eq : e.values = o.allColumns.filterMap (x.valueAt? o e) := by
  obtain ⟨name, found, plain, -, hfound, hplain, hentity⟩ := Extract.entity_eq_ok_iff.1 he
  have hvalues := congrArg Entity.values hentity
  -- first the columns of the schema, in its order, then the ones only the scan reports
  have hdescribed : (o.table.columns.zipIdx.map fun (c, column) =>
      x.valueAt? o e (c, .described column)) = plain := by
    rw [← List.forall₂_eq_eq_eq, List.forall₂_map_left_iff]
    refine List.forall₂_iff_zip.2 ⟨(Extract.mapOk_eq_ok_iff.1 hplain).length_eq, ?_⟩
    rintro ⟨c, column⟩ v hmem
    obtain ⟨hentry, hv⟩ := (Extract.mem_zip_of_mapOk hplain).1 hmem
    exact valueAt?_described hs ho he hfound (List.mem_zipIdx_iff_getElem?.1 hentry) hv
  have hreported : o.columns.unknown.filterMap (Extract.unknownValue x.strategies
      (.ofTable x.schema x.strategies.naming o.table) o.row) =
        o.columns.unknown.filterMap fun position =>
          ((o.row.columns[position]?).map fun name =>
            (Extract.undescribed name, Origin.Place.reported position)).bind (x.valueAt? o e) := by
    refine List.filterMap_congr fun position _ => Option.ext fun a => ?_
    rw [Extract.unknownValue_eq_some_iff, Option.bind_map, Option.bind_eq_some_iff]
    refine exists_congr fun name => and_congr_right fun _ => ?_
    rw [Function.comp_apply, valueAt?, Option.map_eq_some_iff]
    refine exists_congr fun cell => ?_
    rw [Option.filter_eq_some_iff, Bool.not_eq_true', and_assoc]
    exact and_congr_right fun _ => and_congr_right fun _ => eq_comm
  rw [hvalues, ← hdescribed, hreported, Origin.allColumns, List.filterMap_append,
    List.filterMap_map, List.filterMap_map, List.filterMap_filterMap]
  rfl

/-- The names of the values are those of the columns that have values. -/
theorem map_name_values : e.values.map (·.name) =
    (x.valueColumns o e).map fun p => x.strategies.naming.attributeName o.table p.1 := by
  rw [values_eq hs ho he, valueColumns, List.map_filterMap, ← List.filterMap_eq_filter,
    List.map_filterMap]
  congr 1
  funext p
  cases ha : x.valueAt? o e p with
  | none => simp [Option.guard, ha]
  | some a => simp [Option.guard, ha, name_of_valueAt? ha]

/-- Under a name stands the value of the first column that has the name and a value. -/
theorem attribute?_eq (name : String) : e.attribute? name =
    ((x.valueColumns o e).find? fun p =>
      x.strategies.naming.attributeName o.table p.1 == name).bind (x.valueAt? o e) := by
  rw [Entity.attribute?, values_eq hs ho he, List.find?_filterMap, valueColumns, List.find?_filter]
  congr 2
  funext p
  cases ha : x.valueAt? o e p with
  | none => rfl
  | some a => simp only [Option.any_some, name_of_valueAt? ha, Option.isSome_some, true_and,
      Bool.decide_eq_true]

/-- Where all names are apart, under the name of a column stands the value of this column. -/
theorem attribute?_of_nodup
    (hnodup : (o.allColumns.map fun p => x.strategies.naming.attributeName o.table p.1).Nodup)
    {p : Column × Origin.Place} (hp : p ∈ o.allColumns) :
    e.attribute? (x.strategies.naming.attributeName o.table p.1) = x.valueAt? o e p := by
  refine Entity.attribute?_eq_of_unique fun a => ?_
  rw [values_eq hs ho he, List.mem_filterMap]
  constructor
  · rintro ⟨⟨p', hp', ha⟩, hname⟩
    rw [name_of_valueAt? ha] at hname
    rwa [List.inj_on_of_nodup_map hnodup hp' hp hname] at ha
  · intro ha
    exact ⟨⟨p, hp, ha⟩, name_of_valueAt? ha⟩

end Entity

/-- The names of the values of a row are apart if and only if those of the columns that have values are
in camel case. Under a name stands the value of the first column that has it; where no two columns of
the row have the same name in camel case, this is the only one. -/
theorem values_apart_iff {metadata : Source} {exclude : List Text.Pattern} {name : String}
    (hbuild : (Schema.build metadata exclude name).result = .ok x.schema) {singularize : Bool}
    (hnaming : x.strategies.naming = .inflected singularize) {order : List TableId}
    (ho : o ∈ x.origins order) (he : x.entityOf o = .ok e) :
    ((e.values.map (·.name)).Nodup ↔
      ((x.valueColumns o e).map fun p => Text.camelCase p.1.name).Nodup) ∧
    (∀ name, e.attribute? name =
      ((x.valueColumns o e).find? fun p => Text.camelCase p.1.name == name).bind
        (x.valueAt? o e)) ∧
    ((o.allColumns.map fun p => Text.camelCase p.1.name).Nodup →
      (e.values.map (·.name)).Nodup ∧
        ∀ p ∈ o.allColumns, e.attribute? (Text.camelCase p.1.name) = x.valueAt? o e p) := by
  have hs := Schema.wellFormed_of_build hbuild
  have hmem := x.table_mem_of_mem_origins ho
  have hname : ∀ c, x.strategies.naming.attributeName o.table c = Text.camelCase c.name := by
    intro c
    rw [hnaming]
    rfl
  have hnames := map_name_values hs hmem he
  have hlookup := attribute?_eq hs hmem he
  have hown := fun hnodup p hp => attribute?_of_nodup hs hmem he hnodup (p := p) hp
  simp only [hname] at hnames hlookup hown
  refine ⟨by rw [hnames], hlookup, ?_⟩
  intro hnodup
  refine ⟨?_, hown hnodup⟩
  rw [hnames]
  exact hnodup.sublist (List.filter_sublist.map _)

/-! ### A sample

Points with two columns and one row. -/

/-- A table with columns of some names, of one row with the numbers 1 and 2. -/
def pointSource (columns : List String) : Source where
  listTables _ := .ok [.table "main" "point"]
  columns _ := .ok (columns.map fun name =>
    ⟨some name, 0, "integer", TypeCode.other, true, false, none, none⟩)
  primaryKey _ := .ok []
  importedKeys _ := .ok []
  vendor _ := .ok ∅
  scan _ _ _ := .ok ⟨[[⟨columns, [.integer 1, .integer 2]⟩]], none⟩

/-- What extracts the points. -/
def pointExtractor (columns : List String) : Extractor where
  schema :=
    { Schema.empty "main" with
      tables :=
        [{ id := 0, name := ⟨"main", "point"⟩, primaryKey := [], outgoing := [], incoming := []
           columns := columns.map fun name =>
            ⟨name, ⟨"integer", TypeCode.other, true, none, none⟩, true, false⟩ }] }
  source := pointSource columns
  strategies := ⟨.inflected true, fun _ => "", fun cell _ _ _ => ⟨cell.shown⟩⟩
  fetchSize := 1

theorem result_build_pointSource (columns : List String) :
    (Schema.build (pointSource columns) [] "main").result = .ok (pointExtractor columns).schema := by
  refine Schema.result_build_eq_ok_iff.2 ⟨_, (pointExtractor columns).schema.tables, _, ∅, rfl,
    by decide, ?_, rfl, rfl, rfl⟩
  refine Report.result_mapList_eq_ok_iff.2 (.cons ?_ .nil)
  refine Schema.result_loadTable_eq_ok_iff.2 ⟨_, [], ?_, ?_, rfl⟩
  · refine Schema.result_loadColumns_eq_ok_iff.2 ⟨_, rfl, ?_⟩
    rw [List.filterMap_map, ← List.filterMap_eq_map']
    rfl
  · exact Schema.result_loadPrimaryKey_eq_ok_iff.2 ⟨[], rfl, by rw [List.mergeSort_nil]; rfl⟩

theorem values_apart_iff_sample :
    ∃ o ∈ (pointExtractor ["a_b", "ab"]).origins [0], ∃ e,
      (pointExtractor ["a_b", "ab"]).entityOf o = .ok e ∧ (e.values.map (·.name)).Nodup ∧
        e.attribute? (Text.camelCase "ab") = some ⟨"ab", ⟨"2"⟩, .outside⟩ := by
  obtain ⟨o, ho, e, he, hnodup, p, hp, hname, hvalue⟩ :
      ∃ o ∈ (pointExtractor ["a_b", "ab"]).origins [0], ∃ e,
        (pointExtractor ["a_b", "ab"]).entityOf o = .ok e ∧
          (o.allColumns.map fun p => Text.camelCase p.1.name).Nodup ∧
          ∃ p ∈ o.allColumns, p.1.name = "ab" ∧
            (pointExtractor ["a_b", "ab"]).valueAt? o e p = some ⟨"ab", ⟨"2"⟩, .outside⟩ :=
    ⟨_, List.mem_of_getElem? (i := 0) rfl, _, rfl, by decide, _, List.mem_of_getElem? (i := 1) rfl,
      rfl, by decide⟩
  obtain ⟨-, -, hapart⟩ := values_apart_iff (result_build_pointSource _) rfl ho he
  obtain ⟨hvalues, hlookup⟩ := hapart hnodup
  have hfound := hlookup p hp
  rw [hname, hvalue] at hfound
  exact ⟨o, ho, e, he, hvalues, hfound⟩

/-- Two columns whose names differ give values of one name, under which only the first is found. -/
theorem exists_values_of_one_name :
    ∃ columns : List String, columns.Nodup ∧
      (Schema.build (pointSource columns) [] "main").result = .ok (pointExtractor columns).schema ∧
      ∃ o ∈ (pointExtractor columns).origins [0], ∃ e, (pointExtractor columns).entityOf o = .ok e ∧
        ¬(e.values.map (·.name)).Nodup ∧
        ∃ i c cell, o.table.columns[i]? = some c ∧ o.cell? i = some cell ∧
          e.token? (Text.camelCase c.name) ≠
            some ((pointExtractor columns).strategies.render cell c) := by
  refine ⟨["a_b", "aB"], by decide, result_build_pointSource _, ?_⟩
  exact ⟨_, List.mem_of_getElem? (i := 0) rfl, _, rfl, by decide, 1, _, .integer 2, rfl, rfl,
    by decide⟩

end Extractor

end FixturePlan
