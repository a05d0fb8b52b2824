import FixturePlan.Proofs.Entity.Join

/-!
# Cells that extraction keeps

Every cell that is not NULL becomes a value of its row or a value that some link looks for
(`Extractor.KeptAt`), and nothing else becomes either (`Extractor.KeepsCells`). The columns of a scan
are those that its first row reports: what a later row reports beyond them is passed over
(`Extractor.exists_lost_cell`).
-/

namespace FixturePlan

/-! ### Where columns stand

The column map says where in a row each column of the table stands, and which positions belong to none. -/

namespace ColumnMap

variable {t : Table} {reported : List String} {m : ColumnMap}

theorem result_ofReported_eq_ok_iff : (ofReported t reported).result = .ok m ↔
    List.Forall₂ (fun c position => (locate t reported c.name).result = .ok position) t.columns
      m.positions ∧
    m.unknown = (List.range reported.length).filter (!m.positions.contains ·) := by
  simp only [ofReported, Report.result_andThen_eq_ok_iff, Report.result_mapList_eq_ok_iff,
    Report.result_value, Except.ok.injEq]
  constructor
  · rintro ⟨positions, hpositions, rfl⟩
    exact ⟨hpositions, rfl⟩
  · rintro ⟨hpositions, hunknown⟩
    exact ⟨m.positions, hpositions, by rw [← hunknown]⟩

theorem mem_unknown_iff (h : (ofReported t reported).result = .ok m) {position : Nat} :
    position ∈ m.unknown ↔ position < reported.length ∧ position ∉ m.positions := by
  rw [(result_ofReported_eq_ok_iff.1 h).2, List.mem_filter, List.mem_range]
  simp

/-- Every column of the table has its place. -/
theorem length_positions (h : (ofReported t reported).result = .ok m) :
    m.positions.length = t.columns.length :=
  (result_ofReported_eq_ok_iff.1 h).1.length_eq.symm

end ColumnMap

namespace Extract

variable {s : Schema} {strategies : Strategies} {layout : Layout} {m : ColumnMap} {row : Row}
  {ordinal : Nat} {e : Entity}

/-- A cell that is not NULL is a value of its entity, or belongs to a key whose link is attached. -/
theorem value_or_reference_of_entity (h : entity s strategies layout m row ordinal = .ok e)
    {column : Nat} {c : Column} (hc : layout.table.columns[column]? = some c) {cell : Cell}
    (hcell : m.read layout.table row column = .ok cell) (hnull : cell.isNull = false) :
    ⟨layout.attributes[column]?.getD "", strategies.render cell c,
        if layout.inForeignKey[column]?.getD false then .inside else .outside⟩ ∈ e.values ∨
      ∃ entry ∈ layout.references, entry.1.hasSource column = true ∧
        ∃ l, reference s strategies layout m row entry = .ok (some l) := by
  obtain ⟨_, found, plain, -, hfound, hplain, rfl⟩ := entity_eq_ok_iff.1 h
  have hentry : (c, column) ∈ layout.table.columns.zipIdx := List.mem_zipIdx_iff_getElem?.2 hc
  -- a column is left out of the values just when some reference that reads it is attached
  cases hconsumed : layout.isConsumed (found.map (·.isSome)) column with
  | false =>
    left
    refine List.mem_append_left _ (List.mem_filterMap.2 ⟨_, (mem_of_mapOk hplain).2 ?_, rfl⟩)
    exact ⟨(c, column), hentry, plainValue_eq_ok_some_iff.2 ⟨hconsumed, cell, hcell, hnull, rfl⟩⟩
  | true =>
    right
    obtain ⟨entry, hmem, hsource⟩ := Layout.exists_of_isConsumed hconsumed
    rw [List.zip_map_right, List.mem_map] at hmem
    obtain ⟨⟨entry', link⟩, hzip, heq⟩ := hmem
    obtain ⟨rfl, hattached⟩ := Prod.mk.inj heq
    obtain ⟨l, rfl⟩ := Option.isSome_iff_exists.1 hattached
    obtain ⟨hreference, hl⟩ := (mem_zip_of_mapOk hfound).1 hzip
    exact ⟨entry', hreference, hsource, l, hl⟩

end Extract

namespace Extractor

variable (x : Extractor)

/-- The names that are reported with the first row of a table. -/
def reported (t : Table) : List String :=
  match x.source.scan (x.request t).schema (x.request t).table (x.request t).fetchSize with
  | .error _ => []
  | .ok scan => (scan.rows.head?.map (·.columns)).getD []

theorem ofReported_of_mem_originsOf {t : Table} {o : Origin} (h : o ∈ x.originsOf t) :
    (ColumnMap.ofReported t (x.reported t)).result = .ok o.columns := by
  unfold originsOf at h
  split at h
  · cases h
  · next scan hscan =>
    have hreported : x.reported t = (scan.rows.head?.map (·.columns)).getD [] := by
      simp only [reported, hscan]
    rw [hreported]
    cases hrows : scan.rows with
    | nil =>
      rw [hrows] at h
      cases h
    | cons first rest =>
      rw [hrows, Origin.ofRows] at h
      split at h
      · cases h
      · next m hm =>
        obtain ⟨entry, -, rfl⟩ := List.mem_map.1 h
        exact hm

theorem ofReported_of_mem_origins {order : List TableId} {o : Origin} (h : o ∈ x.origins order) :
    (ColumnMap.ofReported o.table (x.reported o.table)).result = .ok o.columns := by
  obtain ⟨t, -, ho⟩ := List.mem_flatMap.1 h
  rw [x.table_of_mem_originsOf ho]
  exact x.ofReported_of_mem_originsOf ho

end Extractor

/-- A column of the table stands at a position of the row. -/
def Origin.Holds (o : Origin) (position column : Nat) (c : Column) : Prop :=
  o.table.columns[column]? = some c ∧ o.columns.positions[column]? = some position

theorem Origin.Holds.cell?_eq {o : Origin} {position column : Nat} {c : Column}
    (h : o.Holds position column c) : o.cell? column = o.row.cell? position := by
  rw [cell?, h.2]
  rfl

namespace Extractor

variable (x : Extractor)

/-! ### What becomes of a cell

A cell goes to a value, to a link, or to both, and values and links hold nothing else. -/

/-- A cell as the value of a column of its table. -/
def valueOf (o : Origin) (column : Nat) (c : Column) (cell : Cell) : Attribute :=
  ⟨x.strategies.naming.attributeName o.table c, x.strategies.render cell c,
    if x.schema.inForeignKey o.table column then .inside else .outside⟩

/-- A cell as the value of a column that is reported under a name and that the schema does not
describe. -/
def undescribedValue (o : Origin) (name : String) (cell : Cell) : Attribute :=
  ⟨x.strategies.naming.attributeName o.table (Extract.undescribed name),
    x.strategies.render cell (Extract.undescribed name), .undescribed⟩

/-- A cell of a column, as a value that a key looks for: under the name of the column that the key
pairs with its own, and as a value of that column. -/
def IsKeyValue (k : ForeignKey) (column : Nat) (cell : Cell) (value : String × Token) : Prop :=
  ∃ p ∈ k.pairs, p.sourceIndex = column ∧ ∃ u c, x.schema.table? k.target = some u ∧
    u.columns[p.targetIndex]? = some c ∧
    value = (x.strategies.naming.attributeName u c, x.strategies.render cell c)

/-- A link by a key of the table looks for the cell of a column. -/
def CarriedBy (o : Origin) (column : Nat) (cell : Cell) (l : Link) : Prop :=
  ∃ k ∈ x.schema.outgoing o.table, l.foreignKey = k.id ∧ ∃ p, l.target = .placeholder p ∧
    ∃ value ∈ p.keyValues, x.IsKeyValue k column cell value

/-- The cell at a position is kept: as a value of each column that stands there, unless a link carries
it; where none stands, as a value of the name that the row itself reports. -/
def KeptAt (o : Origin) (e : Entity) (position : Nat) (cell : Cell) : Prop :=
  (∀ column c, o.Holds position column c →
    x.valueOf o column c cell ∈ e.values ∨ ∃ l ∈ e.links, x.CarriedBy o column cell l) ∧
  ((∀ column c, ¬o.Holds position column c) → ∀ name, o.row.columns[position]? = some name →
    x.undescribedValue o name cell ∈ e.values)

/-- What an entity has of the cells of its row. -/
structure KeepsCells (o : Origin) (e : Entity) : Prop where
  kept : ∀ position < (x.reported o.table).length, ∀ cell, o.row.cell? position = some cell →
    cell.isNull = false → x.KeptAt o e position cell
  /-- The columns of the primary key and those that keys lead to stay values, also beside links. -/
  value_of_key : ∀ column c, o.table.columns[column]? = some c →
    (o.table.inPrimaryKey column || (x.schema.incoming o.table).any (·.hasTarget column)) = true →
    ∀ cell, o.cell? column = some cell → cell.isNull = false → x.valueOf o column c cell ∈ e.values
  cell_of_value : ∀ a ∈ e.values, ∃ position cell, o.row.cell? position = some cell ∧
    cell.isNull = false ∧ ((∃ column c, o.Holds position column c ∧ a = x.valueOf o column c cell) ∨
      (∀ column c, ¬o.Holds position column c) ∧
        ∃ name, o.row.columns[position]? = some name ∧ a = x.undescribedValue o name cell)
  cell_of_link : ∀ l ∈ e.links, ∃ k ∈ x.schema.outgoing o.table, l.foreignKey = k.id ∧
    ∃ p, l.target = .placeholder p ∧ ∀ value ∈ p.keyValues, ∃ column cell,
      o.cell? column = some cell ∧ cell.isNull = false ∧ x.IsKeyValue k column cell value

section Kept

variable {x} (hs : x.schema.WellFormed) {o : Origin} (ho : o.table ∈ x.schema.tables) {e : Entity}
  (he : x.entityOf o = .ok e) {column : Nat} {c : Column} {cell : Cell}

/-- What the layout of its table says about the value of a column. -/
theorem valueOf_eq (hc : o.table.columns[column]? = some c) : x.valueOf o column c cell =
    ⟨(Layout.ofTable x.schema x.strategies.naming o.table).attributes[column]?.getD "",
      x.strategies.render cell c,
      if (Layout.ofTable x.schema x.strategies.naming o.table).inForeignKey[column]?.getD false then
        .inside else .outside⟩ := by
  have hlt : column < o.table.columns.length := (List.getElem?_eq_some_iff.1 hc).1
  rw [Layout.getElem?_attributes, hc, Layout.getElem?_inForeignKey _ _ _ hlt]
  rfl

/-- No column stands at a position if and only if none is placed there. -/
theorem forall_not_holds_iff {reported : List String}
    (hmap : (ColumnMap.ofReported o.table reported).result = .ok o.columns) {position : Nat} :
    (∀ column c, ¬o.Holds position column c) ↔ position ∉ o.columns.positions := by
  rw [List.mem_iff_getElem?, not_exists]
  refine forall_congr' fun column => ⟨fun h hposition => ?_, fun h c hc => h hc.2⟩
  have hlt : column < o.table.columns.length :=
    ColumnMap.length_positions hmap ▸ (List.getElem?_eq_some_iff.1 hposition).1
  exact h _ ⟨List.getElem?_eq_getElem hlt, hposition⟩

include hs ho in
/-- A reference of the layout is that of a key between tables of the schema. -/
theorem exists_target_of_mem_references {k : ForeignKey} {name : String}
    (h : (k, name) ∈ (Layout.ofTable x.schema x.strategies.naming o.table).references) :
    k ∈ x.schema.outgoing o.table ∧ k ∈ x.schema.foreignKeys ∧
      ∃ u, x.schema.table? k.target = some u := by
  have hout := Layout.mem_outgoing_of_mem_references x.schema x.strategies.naming o.table h
  have hk := ((hs.mem_outgoing_iff ho).1 hout).1
  obtain ⟨_, u, hj⟩ := hs.exists_joins k hk
  exact ⟨hout, hk, u, hj.target_eq⟩

include hs ho he in
/-- The cells of the columns that the schema describes are kept. -/
theorem value_or_link (hc : o.table.columns[column]? = some c) (hcell : o.cell? column = some cell)
    (hnull : cell.isNull = false) :
    x.valueOf o column c cell ∈ e.values ∨ ∃ l ∈ e.links, x.CarriedBy o column cell l := by
  rcases Extract.value_or_reference_of_entity he hc (Extract.read_eq_ok_iff.2 hcell) hnull with
    hvalue | ⟨⟨k, name⟩, hentry, hsource, l, href⟩
  · exact Or.inl (valueOf_eq hc ▸ hvalue)
  · obtain ⟨hout, hk, u, hu⟩ := exists_target_of_mem_references hs ho hentry
    obtain ⟨p, hp, hindex⟩ := List.any_eq_true.1 hsource
    obtain ⟨d, hd, -⟩ := exists_column hs hk hu hp
    have hl := (Extract.mem_links_of_entity (Layout.nodup_names_references ..) he).2
      ⟨(k, name), hentry, href⟩
    obtain ⟨found, hfound, -, rfl⟩ := Extract.reference_eq_ok_some_iff.1 href
    obtain rfl : p.sourceIndex = column := by simpa using hindex
    have hsought := (some_mem_sought_iff hs hk hu hfound).2
      ⟨p, hp, cell, d, hcell, hnull, hd, rfl⟩
    exact Or.inr ⟨_, hl, k, hout, rfl, _, rfl, _, List.mem_filterMap.2 ⟨_, hsought, rfl⟩, p, hp, rfl,
      u, d, hu, hd, rfl⟩

include he in
theorem mem_values_of_key (hc : o.table.columns[column]? = some c)
    (hkey : (o.table.inPrimaryKey column ||
      (x.schema.incoming o.table).any (·.hasTarget column)) = true)
    (hcell : o.cell? column = some cell) (hnull : cell.isNull = false) :
    x.valueOf o column c cell ∈ e.values := by
  obtain ⟨attached, -, hvalues⟩ := Extract.mem_values_of_entity he
  have hlt : column < o.table.columns.length := (List.getElem?_eq_some_iff.1 hc).1
  have hconsumed := Layout.isConsumed_of_keepsValue x.schema x.strategies.naming o.table hlt hkey
    attached
  refine (hvalues _).2 (Or.inl ⟨(c, column), List.mem_zipIdx_iff_getElem?.2 hc, ?_⟩)
  exact Extract.plainValue_eq_ok_some_iff.2
    ⟨hconsumed, cell, Extract.read_eq_ok_iff.2 hcell, hnull, valueOf_eq hc⟩

include he in
/-- A value is that of a column of the table, or of a position that no column has. -/
theorem exists_cell_of_mem_values {a : Attribute} (ha : a ∈ e.values) :
    (∃ column c, o.table.columns[column]? = some c ∧ ∃ cell, o.cell? column = some cell ∧
      cell.isNull = false ∧ a = x.valueOf o column c cell) ∨
    ∃ position ∈ o.columns.unknown, ∃ name, o.row.columns[position]? = some name ∧
      ∃ cell, o.row.cell? position = some cell ∧ cell.isNull = false ∧
        a = x.undescribedValue o name cell := by
  obtain ⟨attached, -, hvalues⟩ := Extract.mem_values_of_entity he
  rcases (hvalues a).1 ha with ⟨⟨c, column⟩, hentry, hvalue⟩ | ⟨position, hposition, hvalue⟩
  · obtain ⟨-, cell, hcell, hnull, ha⟩ := Extract.plainValue_eq_ok_some_iff.1 hvalue
    have hc : o.table.columns[column]? = some c := List.mem_zipIdx_iff_getElem?.1 hentry
    exact Or.inl ⟨column, c, hc, cell, Extract.read_eq_ok_iff.1 hcell, hnull,
      ha.trans (valueOf_eq hc).symm⟩
  · exact Or.inr ⟨position, hposition, Extract.unknownValue_eq_some_iff.1 hvalue⟩

include hs ho he in
theorem exists_cell_of_mem_links {l : Link} (hl : l ∈ e.links) :
    ∃ k ∈ x.schema.outgoing o.table, l.foreignKey = k.id ∧
      ∃ p, l.target = .placeholder p ∧ ∀ value ∈ p.keyValues, ∃ column cell,
        o.cell? column = some cell ∧ cell.isNull = false ∧ x.IsKeyValue k column cell value := by
  obtain ⟨⟨k, name⟩, hentry, href⟩ :=
    (Extract.mem_links_of_entity (Layout.nodup_names_references ..) he).1 hl
  obtain ⟨hout, hk, u, hu⟩ := exists_target_of_mem_references hs ho hentry
  obtain ⟨found, hfound, -, rfl⟩ := Extract.reference_eq_ok_some_iff.1 href
  refine ⟨k, hout, rfl, _, rfl, fun value hvalue => ?_⟩
  obtain ⟨_, hsought, rfl⟩ := List.mem_filterMap.1 hvalue
  obtain ⟨p, hp, cell, d, hcell, hnull, hd, rfl⟩ :=
    (some_mem_sought_iff hs hk hu hfound).1 hsought
  exact ⟨p.sourceIndex, cell, hcell, hnull, p, hp, rfl, u, d, hu, hd, rfl⟩

end Kept

/-- A row that is extracted keeps its cells, as far as the first row of its scan reports them. -/
theorem keepsCells_of_build {metadata : Source} {exclude : List Text.Pattern} {name : String}
    (hbuild : (Schema.build metadata exclude name).result = .ok x.schema) {order : List TableId}
    {o : Origin} (ho : o ∈ x.origins order) {e : Entity} (he : x.entityOf o = .ok e) :
    x.KeepsCells o e where
  kept position hreported cell hcell hnull := by
    have hs := Schema.wellFormed_of_build hbuild
    have hmap := x.ofReported_of_mem_origins ho
    refine ⟨fun column c hc => ?_, fun hnone name hname => ?_⟩
    -- a described column: its cell is a value, or a link reads it
    · exact value_or_link hs (x.table_mem_of_mem_origins ho) he hc.1 (hc.cell?_eq.trans hcell) hnull
    -- a column the schema does not know: its cell is always a value
    · obtain ⟨_, -, hvalues⟩ := Extract.mem_values_of_entity he
      refine (hvalues _).2 (Or.inr ⟨position, ?_, ?_⟩)
      · exact (ColumnMap.mem_unknown_iff hmap).2 ⟨hreported, (forall_not_holds_iff hmap).1 hnone⟩
      · exact Extract.unknownValue_eq_some_iff.2 ⟨name, hname, cell, hcell, hnull, rfl⟩
  value_of_key _ _ hc hkey _ hcell hnull := mem_values_of_key he hc hkey hcell hnull
  cell_of_value a ha := by
    have hmap := x.ofReported_of_mem_origins ho
    rcases exists_cell_of_mem_values he ha with
      ⟨column, c, hc, cell, hcell, hnull, rfl⟩ |
      ⟨position, hunknown, name, hname, cell, hcell, hnull, rfl⟩
    · obtain ⟨position, hposition, hcell⟩ := Option.bind_eq_some_iff.1 hcell
      exact ⟨position, cell, hcell, hnull, Or.inl ⟨column, c, ⟨hc, hposition⟩, rfl⟩⟩
    · have hnone := (forall_not_holds_iff hmap).2 ((ColumnMap.mem_unknown_iff hmap).1 hunknown).2
      exact ⟨position, cell, hcell, hnull, Or.inr ⟨hnone, name, hname, rfl⟩⟩
  cell_of_link _ hl := exists_cell_of_mem_links (Schema.wellFormed_of_build hbuild)
    (x.table_mem_of_mem_origins ho) he hl

theorem keepsCells_of_build_sample : ∃ o ∈ sampleExtractor.origins [0, 1], ∃ e,
    sampleExtractor.entityOf o = .ok e ∧ sampleExtractor.KeptAt o e 1 (.text "rome") := by
  obtain ⟨o, ho, e, he, hreported, hcell⟩ : ∃ o ∈ sampleExtractor.origins [0, 1], ∃ e,
      sampleExtractor.entityOf o = .ok e ∧ 1 < (sampleExtractor.reported o.table).length ∧
        o.row.cell? 1 = some (.text "rome") :=
    ⟨_, List.mem_of_getElem? (i := 0) rfl, _, rfl, by decide, rfl⟩
  have hkeeps := keepsCells_of_build sampleExtractor result_build_sampleSource ho he
  exact ⟨o, ho, e, he, hkeeps.kept 1 hreported _ hcell rfl⟩

/-- The sample with a later city that is reported with its zone. -/
def raggedExtractor : Extractor :=
  { sampleExtractor with
    source :=
      { sampleSource with
        scan := fun _ _ _ => .ok
          ⟨[[⟨["country", "name"], [.text "it", .text "rome"]⟩],
            [⟨["country", "name", "zone"], [.text "it", .text "milan", .text "north"]⟩]], none⟩ } }

/-- A cell that its own row reports is lost if the first row of the scan reports fewer columns. -/
theorem exists_lost_cell :
    (Schema.build sampleSource [] "main").result = .ok raggedExtractor.schema ∧
      ∃ o ∈ raggedExtractor.origins [1], ∃ e, raggedExtractor.entityOf o = .ok e ∧
        ∃ position name cell, o.row.columns[position]? = some name ∧
          o.row.cell? position = some cell ∧ cell.isNull = false ∧
          ¬raggedExtractor.KeptAt o e position cell := by
  refine ⟨result_build_sampleSource, _, List.mem_of_getElem? (i := 1) rfl, _, rfl, 2, "zone",
    .text "north", rfl, rfl, rfl, fun h => ?_⟩
  refine absurd (h.2 ?_ "zone" rfl) (by decide)
  rintro column c ⟨-, hposition⟩
  exact absurd (List.mem_of_getElem? hposition) (by decide)

end Extractor

end FixturePlan
