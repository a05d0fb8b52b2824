import FixturePlan.Proofs.Order.SortedBy
import FixturePlan.Schema.KeySpec
import Mathlib.Data.List.Nodup
import Std.Data.String.ToNat

/-!
# Keys from pairs in any order

Pairs of one constraint may be reported between those of others, and in any order. They are aggregated
into one key for each name, in order of first appearance (`KeySpec.map_name_aggregate`), and the keys are
those made of the rows of a name (`KeySpec.mem_aggregate_iff`). Where the rows of a name have places of
their own and agree on where they lead, it does not matter in which order they are reported
(`KeySpec.perm_aggregate`).
-/

namespace FixturePlan.KeySpec

/-- The rows of a name. -/
abbrev rowsOf (table : TableInfo) (rows : List ImportedKey) (name : String) : List ImportedKey :=
  rows.filter (nameOf table · == name)

/-- The rows of all other names. -/
abbrev rowsBut (table : TableInfo) (rows : List ImportedKey) (name : String) : List ImportedKey :=
  rows.filter (!nameOf table · == name)

/-- A key made of the rows of its name: of all their pairs, by their places and otherwise in the order of
the rows, with the target of the first. -/
structure MadeOf (table : TableInfo) (rows : List ImportedKey) (spec : KeySpec) : Prop where
  source_eq : spec.sourceTable = ⟨table.schema, table.name⟩
  exists_first : ∃ first, (rowsOf table rows spec.name).head? = some first ∧
    spec.targetTable = ⟨first.targetSchema, first.targetTable⟩
  sorted : SortedBy (·.sequence) ((rowsOf table rows spec.name).map pairOf) spec.pairs

/-- The rows of one name have places of their own and lead to one table. -/
structure Unambiguous (table : TableInfo) (rows : List ImportedKey) : Prop where
  sequence_ne : rows.Pairwise fun r r' => nameOf table r = nameOf table r' →
    r.sequence ≠ r'.sequence
  target_eq : ∀ r ∈ rows, ∀ r' ∈ rows, nameOf table r = nameOf table r' →
    r.targetSchema = r'.targetSchema ∧ r.targetTable = r'.targetTable

variable (table : TableInfo) {rows rows' rest : List ImportedKey} {row : ImportedKey}
  {spec spec' : KeySpec} {name name' : String}

/-- Keys without names of their own have different names if they have different places. -/
theorem syntheticName_inj {table : String} {m n : Nat} :
    syntheticName table m = syntheticName table n ↔ m = n := by
  rw [syntheticName, syntheticName, String.append_right_inj]
  exact ⟨Nat.repr_injective, congrArg _⟩

/-! ### One name after the other

Rows are added one by one to keys that are found by name. Turned around: the rows of the first name make
the first key, and the rows of other names are aggregated on their own. -/

theorem rowsOf_cons_of_eq (h : nameOf table row = name) :
    rowsOf table (row :: rest) name = row :: rowsOf table rest name :=
  List.filter_cons_of_pos (beq_iff_eq.2 h)

theorem rowsOf_cons_of_ne (h : nameOf table row ≠ name) :
    rowsOf table (row :: rest) name = rowsOf table rest name :=
  List.filter_cons_of_neg (by simpa using h)

theorem rowsBut_cons_of_eq (h : nameOf table row = name) :
    rowsBut table (row :: rest) name = rowsBut table rest name :=
  List.filter_cons_of_neg (by simpa using h)

theorem rowsBut_cons_of_ne (h : nameOf table row ≠ name) :
    rowsBut table (row :: rest) name = row :: rowsBut table rest name :=
  List.filter_cons_of_pos (by simpa using h)

theorem rowsOf_rowsBut (hne : name ≠ name') :
    rowsOf table (rowsBut table rows name') name = rowsOf table rows name := by
  rw [rowsOf, rowsBut, List.filter_filter]
  refine List.filter_congr fun row _ => ?_
  by_cases hrow : nameOf table row = name
  · simp [hrow, hne]
  · simp [hrow]

/-- The first key takes the pairs of its name, and the others go to the keys after it. -/
theorem foldl_addRow_cons (rows : List ImportedKey) (spec : KeySpec) (specs : List KeySpec) :
    rows.foldl (fun specs row => addRow table row specs) (spec :: specs) =
      { spec with pairs := spec.pairs ++ (rowsOf table rows spec.name).map pairOf } ::
        (rowsBut table rows spec.name).foldl (fun specs row => addRow table row specs) specs := by
  induction rows generalizing spec specs with
  | nil => simp
  | cons row rest ih =>
    rw [List.foldl_cons, addRow]
    by_cases hname : spec.name = nameOf table row
    · rw [if_pos hname, ih, rowsOf_cons_of_eq table hname.symm, rowsBut_cons_of_eq table hname.symm,
        List.map_cons, List.append_cons spec.pairs (pairOf row) ((rowsOf table rest spec.name).map _)]
    · rw [if_neg hname, ih, rowsOf_cons_of_ne table (Ne.symm hname),
        rowsBut_cons_of_ne table (Ne.symm hname), List.foldl_cons]

/-- The first row begins a key with the pairs of its name, and the other rows are aggregated after it. -/
theorem aggregate_cons (row : ImportedKey) (rest : List ImportedKey) :
    aggregate table (row :: rest) =
      ordered ⟨nameOf table row, ⟨table.schema, table.name⟩, ⟨row.targetSchema, row.targetTable⟩,
        (rowsOf table (row :: rest) (nameOf table row)).map pairOf⟩ ::
        aggregate table (rowsBut table rest (nameOf table row)) := by
  rw [aggregate, List.foldl_cons, addRow, foldl_addRow_cons, List.map_cons,
    rowsOf_cons_of_eq table rfl]
  rfl

/-- Induction on rows that takes away those of one name at a time. -/
theorem inductionByName {motive : List ImportedKey → Prop} (nil : motive [])
    (cons : ∀ row rest, motive (rowsBut table rest (nameOf table row)) → motive (row :: rest)) :
    ∀ rows, motive rows
  | [] => nil
  | row :: rest => cons row rest (inductionByName nil cons (rowsBut table rest (nameOf table row)))
termination_by rows => rows.length
decreasing_by exact Nat.lt_succ_of_le (List.length_filter_le _ _)

variable {table}

/-! ### Keys of their rows

So every key is made of the rows of its name. -/

namespace MadeOf

/-- A key has a row. -/
theorem exists_row (h : MadeOf table rows spec) : ∃ row ∈ rows, nameOf table row = spec.name := by
  obtain ⟨first, hfirst, -⟩ := h.exists_first
  obtain ⟨hrow, hname⟩ := List.mem_filter.1 (List.mem_of_head? hfirst)
  exact ⟨first, hrow, eq_of_beq hname⟩

/-- The rows of a name make one key only. -/
theorem eq (h : MadeOf table rows spec) (h' : MadeOf table rows spec')
    (hname : spec.name = spec'.name) : spec = spec' := by
  obtain ⟨name, source, target, pairs⟩ := spec
  obtain ⟨name', source', target', pairs'⟩ := spec'
  obtain rfl : name = name' := hname
  obtain ⟨first, hfirst, rfl⟩ := h.exists_first
  obtain ⟨first', hfirst', rfl⟩ := h'.exists_first
  obtain rfl : first = first' := Option.some.inj (hfirst.symm.trans hfirst')
  obtain rfl : source = source' := h.source_eq.trans h'.source_eq.symm
  obtain rfl : pairs = pairs' := h.sorted.eq h'.sorted
  rfl

/-- What rows of other names make is made of all rows. -/
theorem cons (h : MadeOf table (rowsBut table rest (nameOf table row)) spec) :
    MadeOf table (row :: rest) spec := by
  obtain ⟨other, hother, hname⟩ := h.exists_row
  have hne : spec.name ≠ nameOf table row := by
    have hbut := (List.mem_filter.1 hother).2
    rw [hname] at hbut
    simpa using hbut
  have hrows : rowsOf table (rowsBut table rest (nameOf table row)) spec.name =
      rowsOf table (row :: rest) spec.name := by
    rw [rowsOf_rowsBut table hne, rowsOf_cons_of_ne table hne.symm]
  exact ⟨h.source_eq, hrows ▸ h.exists_first, hrows ▸ h.sorted⟩

end MadeOf

theorem madeOf_of_mem (h : spec ∈ aggregate table rows) : MadeOf table rows spec := by
  induction rows using inductionByName table with
  | nil => cases h
  | cons row rest ih =>
    rw [aggregate_cons] at h
    rcases List.mem_cons.1 h with rfl | h
    · refine ⟨rfl, ⟨row, ?_, rfl⟩, sortedBy_mergeSort _ _⟩
      exact congrArg List.head? (rowsOf_cons_of_eq table rfl)
    · exact (ih h).cons

/-- The names of the keys are those of the rows, in order of first appearance. -/
theorem map_name_aggregate (table : TableInfo) (rows : List ImportedKey) :
    (aggregate table rows).map (·.name) = (rows.map (nameOf table)).eraseDups := by
  induction rows using inductionByName table with
  | nil => rfl
  | cons row rest ih =>
    rw [aggregate_cons, List.map_cons, ih, List.map_cons, List.eraseDups_cons, List.filter_map]
    rfl

theorem nodup_names_aggregate (table : TableInfo) (rows : List ImportedKey) :
    ((aggregate table rows).map (·.name)).Nodup := by
  induction rows using inductionByName table with
  | nil => exact List.nodup_nil
  | cons row rest ih =>
    rw [aggregate_cons, List.map_cons, List.nodup_cons]
    refine ⟨?_, ih⟩
    intro hmem
    obtain ⟨spec, hspec, hname⟩ := List.mem_map.1 hmem
    obtain ⟨other, hother, hsame⟩ := (madeOf_of_mem hspec).exists_row
    have hbut := (List.mem_filter.1 hother).2
    rw [hsame, hname] at hbut
    simp [ordered] at hbut

theorem mem_aggregate_iff : spec ∈ aggregate table rows ↔ MadeOf table rows spec := by
  refine ⟨madeOf_of_mem, ?_⟩
  intro h
  obtain ⟨row, hrow, hname⟩ := h.exists_row
  have hmem : spec.name ∈ (aggregate table rows).map (·.name) := by
    rw [map_name_aggregate, List.mem_eraseDups]
    exact List.mem_map.2 ⟨row, hrow, hname⟩
  obtain ⟨spec', hspec', hname'⟩ := List.mem_map.1 hmem
  exact (madeOf_of_mem hspec').eq h hname' ▸ hspec'

/-! ### Rows in another order

What a key is made of is the same in another order, as its pairs are sorted and unambiguous rows agree in
everything else. -/

theorem Unambiguous.of_perm (h : Unambiguous table rows) (hperm : rows'.Perm rows) :
    Unambiguous table rows' where
  sequence_ne := hperm.symm.pairwise h.sequence_ne fun hne hname => (hne hname.symm).symm
  target_eq r hr r' hr' := h.target_eq r (hperm.mem_iff.1 hr) r' (hperm.mem_iff.1 hr')

theorem MadeOf.of_perm (h : MadeOf table rows spec) (hrows : Unambiguous table rows)
    (hperm : rows'.Perm rows) : MadeOf table rows' spec := by
  have hown : (rowsOf table rows' spec.name).Perm (rowsOf table rows spec.name) := hperm.filter _
  have hname : ∀ {row}, row ∈ rowsOf table rows spec.name → nameOf table row = spec.name :=
    fun hrow => eq_of_beq (List.mem_filter.1 hrow).2
  refine ⟨h.source_eq, ?_, h.sorted.of_perm (hown.map pairOf) ?_⟩
  · obtain ⟨first, hfirst, htarget⟩ := h.exists_first
    have hmem := List.mem_of_head? hfirst
    obtain ⟨first', hfirst'⟩ : ∃ first', (rowsOf table rows' spec.name).head? = some first' :=
      Option.isSome_iff_exists.1 (List.isSome_head?.2 (List.ne_nil_of_mem (hown.mem_iff.2 hmem)))
    have hmem' := hown.mem_iff.1 (List.mem_of_head? hfirst')
    obtain ⟨hschema, htable⟩ := hrows.target_eq first (List.mem_filter.1 hmem).1
      first' (List.mem_filter.1 hmem').1 ((hname hmem).trans (hname hmem').symm)
    exact ⟨first', hfirst', by rw [htarget, hschema, htable]⟩
  · rw [List.map_map]
    refine List.pairwise_map.2 ((hrows.sequence_ne.filter _).imp_of_mem ?_)
    intro r r' hr hr' hne
    exact hne ((hname hr).trans (hname hr').symm)

theorem perm_aggregate (hrows : Unambiguous table rows) (hperm : rows'.Perm rows) :
    (aggregate table rows').Perm (aggregate table rows) := by
  have hnodup : ∀ l : List ImportedKey, (aggregate table l).Nodup := fun l =>
    .of_map _ (nodup_names_aggregate table l)
  refine (List.perm_ext_iff_of_nodup (hnodup rows') (hnodup rows)).2 ?_
  intro spec
  rw [mem_aggregate_iff, mem_aggregate_iff]
  exact ⟨fun h => h.of_perm (hrows.of_perm hperm) hperm.symm, fun h => h.of_perm hrows hperm⟩

/-- The keys of any rows are those made of them, one for each name, in order of first appearance; which
order unambiguous rows come in decides no more than the order of the keys. -/
theorem madeOf_aggregate (table : TableInfo) (rows : List ImportedKey) :
    ((aggregate table rows).map (·.name)).Nodup ∧
      (aggregate table rows).map (·.name) = (rows.map (nameOf table)).eraseDups ∧
      (∀ spec, spec ∈ aggregate table rows ↔ MadeOf table rows spec) ∧
      ∀ rows', rows'.Perm rows → Unambiguous table rows →
        (aggregate table rows').Perm (aggregate table rows) :=
  ⟨nodup_names_aggregate table rows, map_name_aggregate table rows, fun _ => mem_aggregate_iff,
    fun _ hperm hrows => perm_aggregate hrows hperm⟩

/-! ### A sample

A leg leads from a stop to a stop of one route, whose pairs are reported from the last to the first, and
a line, whose constraint has no name, is reported between them. -/

/-- The rows of legs. -/
def legRows : List ImportedKey :=
  [⟨"route", 1, "to", "main", "stop", "name", 2⟩, ⟨none, 2, "by", "main", "line", "id", 1⟩,
    ⟨"route", 1, "from", "main", "stop", "town", 1⟩]

theorem madeOf_aggregate_sample :
    (aggregate (.table "main" "leg") legRows).map (·.name) = ["route", "fk_leg_2"] ∧
      ⟨"route", ⟨"main", "leg"⟩, ⟨"main", "stop"⟩, [⟨1, "from", "town"⟩, ⟨2, "to", "name"⟩]⟩ ∈
        aggregate (.table "main" "leg") legRows ∧
      (aggregate (.table "main" "leg") legRows.rotateLeft).map (·.name) = ["fk_leg_2", "route"] ∧
      (aggregate (.table "main" "leg") legRows.rotateLeft).Perm
        (aggregate (.table "main" "leg") legRows) := by
  obtain ⟨-, hnames, hmem, hperm⟩ := madeOf_aggregate (.table "main" "leg") legRows
  obtain ⟨-, hrotated, -, -⟩ := madeOf_aggregate (.table "main" "leg") legRows.rotateLeft
  have hsorted : SortedBy (·.sequence)
      ((rowsOf (.table "main" "leg") legRows "route").map pairOf)
      [⟨1, "from", "town"⟩, ⟨2, "to", "name"⟩] :=
    SortedBy.of_perm ⟨by decide, fun _ => rfl⟩ (by decide) (by decide)
  exact ⟨hnames.trans (by decide), (hmem _).2 ⟨rfl, ⟨_, rfl, rfl⟩, hsorted⟩,
    hrotated.trans (by decide), hperm _ (by decide) ⟨by decide, by decide⟩⟩

end FixturePlan.KeySpec
