import FixturePlan.Proofs.Database.KeyOrder
import FixturePlan.Proofs.Database.RowNumber
import Mathlib.Data.List.Permutation

/-!
# Paging

A cursor keeps no more of a scan than where to go on, and asks the database for one page after another.
What is still ahead of it is a list of rows (`Cursor.Ahead`), of which each call takes one page
(`Cursor.Ahead.step`): by number, because the page after a number holds what comes after the last row of
the page before; by position, because so many rows have been read. So the batches are the rows of the
table cut to the fetch size, and after them there is nothing but the end (`Cursor.Ahead.delivers`).
-/

namespace FixturePlan

/-! ### Cutting lists

A list is cut into parts of a size, of which only the last can be shorter. -/

namespace Scan

variable {α : Type} {size : Nat} {as part : List α}

theorem cut_nil (size : Nat) : cut size ([] : List α) = [] := by rw [cut]

theorem cut_of_ne_nil (hsize : 0 < size) (has : as ≠ []) :
    cut size as = as.take size :: cut size (as.drop size) := by
  obtain ⟨n, rfl⟩ := Nat.exists_eq_add_one_of_ne_zero (Nat.ne_of_gt hsize)
  cases as with
  | nil => exact absurd rfl has
  | cons a rest => rw [cut, List.take_succ_cons, List.drop_succ_cons, Nat.add_sub_cancel]

/-- Induction as a list is cut: from what is left without its first part to the whole. -/
theorem inductionByParts (hsize : 0 < size) {motive : List α → Prop} (nil : motive [])
    (part : ∀ as, as ≠ [] → motive (as.drop size) → motive as) (as : List α) : motive as := by
  induction h : as.length using Nat.strong_induction_on generalizing as with
  | _ n ih =>
    by_cases has : as = []
    · exact has ▸ nil
    · have hpos := List.length_pos_iff.2 has
      refine part as has (ih _ ?_ _ rfl)
      rw [List.length_drop]
      omega

theorem flatten_cut (hsize : 0 < size) (as : List α) : (cut size as).flatten = as := by
  induction as using inductionByParts hsize with
  | nil => rw [cut_nil, List.flatten_nil]
  | part as has ih => rw [cut_of_ne_nil hsize has, List.flatten_cons, ih, List.take_append_drop]

theorem ne_nil_of_mem_cut (hsize : 0 < size) (h : part ∈ cut size as) : part ≠ [] := by
  induction as using inductionByParts hsize with
  | nil => simp [cut_nil] at h
  | part as has ih =>
    rw [cut_of_ne_nil hsize has] at h
    rcases List.mem_cons.1 h with rfl | h
    · simp [has, Nat.ne_of_gt hsize]
    · exact ih h

theorem length_le_of_mem_cut (hsize : 0 < size) (h : part ∈ cut size as) : part.length ≤ size := by
  induction as using inductionByParts hsize with
  | nil => simp [cut_nil] at h
  | part as has ih =>
    rw [cut_of_ne_nil hsize has] at h
    rcases List.mem_cons.1 h with rfl | h
    · exact List.length_take_le _ _
    · exact ih h

/-- Only the last part can be short. -/
theorem length_of_mem_dropLast_cut (hsize : 0 < size) (h : part ∈ (cut size as).dropLast) :
    part.length = size := by
  induction as using inductionByParts hsize with
  | nil => simp [cut_nil] at h
  | part as has ih =>
    rw [cut_of_ne_nil hsize has] at h
    by_cases hrest : as.drop size = []
    · rw [hrest, cut_nil] at h
      cases h
    · have hmore : size < as.length := by simpa using hrest
      rw [List.dropLast_cons_of_ne_nil (by simp [cut_of_ne_nil hsize hrest])] at h
      rcases List.mem_cons.1 h with rfl | h
      · rw [List.length_take, Nat.min_eq_left (Nat.le_of_lt hmore)]
      · exact ih h

end Scan

/-! ### Rows in order of their numbers

A page of a numbered table begins at a number. In the order of the numbers it is a part of the list, and
what lies behind its last row is the rest of the list. -/

namespace StoredTable

/-- A row as it is scanned, with all columns of its table. -/
def scanned (t : StoredTable) (r : StoredRow) : Row := ⟨t.declaration.columns.map (·.name), r.cells⟩

/-- A row as it is scanned behind its number. -/
def numbered (t : StoredTable) (r : StoredRow) : Database.NumberedRow :=
  ⟨.integer r.rowid, t.scanned r⟩

end StoredTable

namespace Database

variable {db : Database} {t : StoredTable}

theorem exists_numberedRows (db : Database) (ht : t.Numbered) :
    ∃ ordered : List StoredRow, ordered.Perm t.rows ∧ ordered.Pairwise (·.rowid < ·.rowid) ∧
      db.numberedRows t = ordered.map t.numbered := by
  -- rows are sorted by number last, so that ties are left to the index; numbers apart have no ties
  let byNumber := db.latestIndex t.declaration fun columns =>
    columns.head?.any (StoredTable.shadowColumn? t.declaration == some ·)
  let found := StoredTable.sortBy byNumber t.ordered
  have hfound : found.Perm t.rows := (StoredTable.perm_sortBy _ _).trans t.perm_ordered
  let ordered := found.mergeSort fun a b => (compare a.rowid b.rowid).isLE
  have hordered : ordered.Perm t.rows := (List.mergeSort_perm _ _).trans hfound
  refine ⟨ordered, hordered, ?_, ?_⟩
  · have hle := pairwise_mergeSort_on compare (·.rowid) found
    have hne : ordered.Pairwise fun a b => a.rowid ≠ b.rowid :=
      List.pairwise_map.1 ((hordered.map _).nodup_iff.2 ht.nodup)
    refine (hle.and hne).imp ?_
    rintro a b ⟨hab, hab'⟩
    exact lt_of_le_of_ne (Int.isLE_compare.1 hab) hab'
  · have hrow : ∀ r ∈ found, NumberedRow.mk (t.rowidCell r)
        ⟨t.declaration.columns.map (·.name), r.cells⟩ = t.numbered r := by
      intro r hr
      rw [ht.rowidCell_eq (hfound.mem_iff.1 hr)]
      rfl
    show ((found.map _).mergeSort _) = _
    rw [List.map_congr_left hrow, List.map_mergeSort]
    intro a _ b _
    show _ = ((Cell.integer a.rowid).storageOrder (.integer b.rowid)).isLE
    rw [Cell.storageOrder_integer]

theorem reaches_numbered (ht : t.Numbered) (next : Int) (r : StoredRow) :
    reaches t next (t.numbered r) = decide (next ≤ r.rowid) := by
  rw [reaches, ht.rowidAffinity_eq]
  show (true && ((Cell.integer r.rowid).storageOrder (.integer next)).isGE) = _
  rw [Cell.storageOrder_integer, Bool.true_and, Bool.eq_iff_iff, decide_eq_true_iff,
    Int.isGE_compare]

/-- A page from a number on is the beginning of the rows that have at least this number. -/
theorem pageFrom_eq {name : String} {ordered : List StoredRow} (htable : db.table? name = some t)
    (ht : t.Numbered) (hrows : db.numberedRows t = ordered.map t.numbered) (next : Int)
    (limit : Nat) : db.pageFrom name next limit =
      .ok (((ordered.filter (next ≤ ·.rowid)).take limit).map t.numbered) := by
  rw [pageFrom, htable]
  show Except.ok _ = Except.ok _
  rw [hrows, List.filter_map, List.map_take]
  congr 3
  refine List.filter_congr fun r _ => ?_
  exact reaches_numbered ht next r

theorem lastNumber?_map (t : StoredTable) (page : List StoredRow) :
    lastNumber? (page.map t.numbered) = .ok (page.getLast?.map (·.rowid)) := by
  have hfold : ∀ last : Option Int, (page.map t.numbered).foldlM
      (fun _ r => (wholeNumber r).map some) last = .ok ((page.getLast?.map (·.rowid)).or last) := by
    induction page with
    | nil => intro last; rfl
    | cons r rest ih =>
      intro last
      rw [List.map_cons, List.foldlM_cons]
      show List.foldlM _ (some r.rowid) _ = _
      rw [ih]
      cases rest with
      | nil => rfl
      | cons r' rest => simp [List.getLast?_cons]
  rw [lastNumber?, hfold]
  cases page.getLast? <;> rfl

/-- What comes after a page are the rows that come after its last one. -/
theorem drop_eq_filter {ordered : List StoredRow} (hascending : ordered.Pairwise (·.rowid < ·.rowid))
    {next : Int} {n : Nat} {last : StoredRow}
    (hlast : ((ordered.filter (next ≤ ·.rowid)).take n).getLast? = some last) :
    (ordered.filter (next ≤ ·.rowid)).drop n = ordered.filter (last.rowid < ·.rowid) := by
  have hsplit := List.take_append_drop n (ordered.filter (next ≤ ·.rowid))
  obtain ⟨before, hpage⟩ := List.getLast?_eq_some_iff.1 hlast
  generalize (ordered.filter (next ≤ ·.rowid)).drop n = rest at hsplit ⊢
  rw [hpage] at hsplit
  have hrest : (ordered.filter (next ≤ ·.rowid)).Pairwise (·.rowid < ·.rowid) := hascending.filter _
  have hmem : last ∈ ordered.filter (next ≤ ·.rowid) := by rw [← hsplit]; simp
  have hnext : next ≤ last.rowid := by simpa using (List.mem_filter.1 hmem).2
  -- all that comes after the last row comes after the bound as well
  have hfilter : ordered.filter (last.rowid < ·.rowid) =
      (ordered.filter (next ≤ ·.rowid)).filter (last.rowid < ·.rowid) := by
    rw [List.filter_filter]
    refine List.filter_congr fun r _ => ?_
    rw [Bool.eq_iff_iff, Bool.and_eq_true, decide_eq_true_iff, decide_eq_true_iff]
    exact ⟨fun h => ⟨h, by omega⟩, fun h => h.1⟩
  rw [hfilter, ← hsplit]
  rw [← hsplit, List.pairwise_append, List.pairwise_append] at hrest
  obtain ⟨⟨-, -, hbefore⟩, -, hafter⟩ := hrest
  rw [List.filter_append, List.filter_append, List.filter_eq_nil_iff.2, List.filter_eq_nil_iff.2,
    List.filter_eq_self.2]
  · rfl
  · intro r hr
    exact decide_eq_true (hafter last (by simp) r hr)
  · simp
  · intro r hr
    have hlt := hbefore r hr last (List.mem_singleton_self last)
    simp only [decide_eq_true_iff]
    omega

/-! ### One call -/

namespace Cursor

/-- The rows that are ahead of a cursor. -/
inductive Ahead (db : Database) : Cursor → List Row → Prop
  | ended {c : Cursor} (done : c.done = true) : Ahead db c []
  | byNumber {c : Cursor} {next : Int} {t : StoredTable} {ordered : List StoredRow}
      (done : c.done = false) (paging : c.paging = .byNumber next)
      (table : db.table? c.name = some t) (numbered : t.Numbered) (perm : ordered.Perm t.rows)
      (rows : db.numberedRows t = ordered.map t.numbered)
      (ascending : ordered.Pairwise (·.rowid < ·.rowid)) :
      Ahead db c ((ordered.filter (next ≤ ·.rowid)).map t.scanned)
  | byPosition {c : Cursor} {order : List String} {offset : Nat} {rows : List Row}
      (done : c.done = false) (paging : c.paging = .byPosition order offset)
      (rows_eq : db.rowsInOrder c.name order = .ok rows) :
      Ahead db c (rows.drop offset)

variable {c : Cursor} {rows : List Row}

theorem answer_take (hsize : 0 < c.fetchSize) (rows : List Row) :
    answer (rows.take c.fetchSize) = (Scan.cut c.fetchSize rows).head? := by
  by_cases hrows : rows = []
  · rw [hrows, List.take_nil, Scan.cut_nil]
    rfl
  · rw [Scan.cut_of_ne_nil hsize hrows, List.head?_cons, answer, if_neg]
    simp [hrows, Nat.ne_of_gt hsize]

/-- What one call does: it takes a page of what is ahead. -/
structure Steps (db : Database) (c : Cursor) (rows : List Row) : Prop where
  answer_eq : (c.nextBatch db).1 = .ok (answer (rows.take c.fetchSize))
  ahead : (c.nextBatch db).2.Ahead db (rows.drop c.fetchSize)
  fetchSize_eq : (c.nextBatch db).2.fetchSize = c.fetchSize

/-! A call first makes room for as many rows as may come. With more than there can be room for, it ends
the program, and with fewer it changes nothing (`withRoom_of_le`). -/

theorem withRoom_of_le {α : Type} (hroom : c.fetchSize ≤ greatestBatch)
    (found : Except SourceError α) : c.withRoom found = found := by
  cases found with
  | error e => rfl
  | ok a => exact if_pos hroom

theorem withRoom_of_lt {α : Type} (hroom : greatestBatch < c.fetchSize) (a : α) :
    c.withRoom (.ok a) = .error .capacityOverflow :=
  if_neg (Nat.not_le_of_lt hroom)

theorem nextBatch_of_byNumber {next : Int} {ordered : List StoredRow}
    (hroom : c.fetchSize ≤ greatestBatch) (hdone : c.done = false)
    (hpaging : c.paging = .byNumber next) (htable : db.table? c.name = some t) (ht : t.Numbered)
    (hrows : db.numberedRows t = ordered.map t.numbered) {page : List StoredRow}
    (hpage : (ordered.filter (next ≤ ·.rowid)).take c.fetchSize = page) :
    c.nextBatch db =
      match (page.getLast?.map (·.rowid)).bind following? with
      | some after => (.ok (answer (page.map t.scanned)),
          { c with paging := .byNumber after, done := decide (page.length < c.fetchSize) })
      | none => (.ok (answer (page.map t.scanned)), { c with done := true }) := by
  have hread : ((c.withRoom (db.pageFrom c.name next c.fetchSize)).bind fun page =>
      (lastNumber? page).map fun last => (page.map (·.row), last)) =
        .ok (page.map t.scanned, page.getLast?.map (·.rowid)) := by
    rw [withRoom_of_le hroom, pageFrom_eq htable ht hrows, hpage]
    show (lastNumber? _).map _ = _
    rw [lastNumber?_map, List.map_map]
    rfl
  simp only [nextBatch, hdone, hpaging, hread, List.length_map]
  rfl

theorem steps_of_byNumber {next : Int} {ordered : List StoredRow}
    (hroom : c.fetchSize ≤ greatestBatch) (hdone : c.done = false)
    (hpaging : c.paging = .byNumber next) (htable : db.table? c.name = some t) (ht : t.Numbered)
    (hperm : ordered.Perm t.rows) (hrows : db.numberedRows t = ordered.map t.numbered)
    (hascending : ordered.Pairwise (·.rowid < ·.rowid)) :
    Steps db c ((ordered.filter (next ≤ ·.rowid)).map t.scanned) := by
  obtain ⟨page, hpage⟩ : ∃ page, (ordered.filter (next ≤ ·.rowid)).take c.fetchSize = page :=
    ⟨_, rfl⟩
  have hcall := nextBatch_of_byNumber hroom hdone hpaging htable ht hrows hpage
  have htake : ((ordered.filter (next ≤ ·.rowid)).map t.scanned).take c.fetchSize =
      page.map t.scanned := by rw [← List.map_take, hpage]
  -- a short page leaves nothing
  have hshort : page.length < c.fetchSize → (ordered.filter (next ≤ ·.rowid)).drop c.fetchSize = [] := by
    intro hlt
    rw [← hpage, List.length_take] at hlt
    exact List.drop_eq_nil_of_le (by omega)
  have hended : ∀ c' : Cursor, c'.done = true →
      (ordered.filter (next ≤ ·.rowid)).drop c.fetchSize = [] →
      c'.Ahead db (((ordered.filter (next ≤ ·.rowid)).map t.scanned).drop c.fetchSize) := by
    intro c' hc' hnil
    rw [← List.map_drop, hnil]
    exact .ended hc'
  cases hlast : page.getLast? with
  | none =>
    rw [hlast] at hcall
    have hnil : page = [] := List.getLast?_eq_none_iff.1 hlast
    refine ⟨by rw [hcall, htake]; rfl, ?_, by rw [hcall]; rfl⟩
    rw [hcall]
    exact hended _ rfl (hshort (by rw [hnil]; exact c.fetchSize_pos))
  | some last =>
    have hafter := drop_eq_filter hascending (hpage.symm ▸ hlast)
    rw [hlast, Option.map_some, Option.bind_some, following?] at hcall
    by_cases hgreatest : last.rowid = Number.greatestInt64
    · -- no number comes after the greatest
      rw [if_pos hgreatest] at hcall
      refine ⟨by rw [hcall, htake], ?_, by rw [hcall]⟩
      rw [hcall]
      refine hended _ rfl ?_
      rw [hafter, List.filter_eq_nil_iff]
      intro r hr
      have hle := (ht.inInt64 r (hperm.mem_iff.1 hr)).2
      simp only [decide_eq_true_iff]
      omega
    · rw [if_neg hgreatest] at hcall
      refine ⟨by rw [hcall, htake], ?_, by rw [hcall]⟩
      rw [hcall]
      by_cases hlt : page.length < c.fetchSize
      · exact hended _ (decide_eq_true hlt) (hshort hlt)
      · rw [← List.map_drop, hafter]
        exact .byNumber (decide_eq_false hlt) rfl htable ht hperm hrows hascending

theorem steps_of_byPosition {order : List String} {offset : Nat}
    (hroom : c.fetchSize ≤ greatestBatch) (hdone : c.done = false)
    (hpaging : c.paging = .byPosition order offset) (hrows : db.rowsInOrder c.name order = .ok rows) :
    Steps db c (rows.drop offset) := by
  -- the call written out once, as its three parts are needed
  have hcall : c.nextBatch db = (.ok (answer ((rows.drop offset).take c.fetchSize)),
      { c with
        paging := .byPosition order (offset + ((rows.drop offset).take c.fetchSize).length)
        done := decide (((rows.drop offset).take c.fetchSize).length < c.fetchSize) }) := by
    simp only [nextBatch, hdone, hpaging, hrows, withRoom_of_le hroom]
    rfl
  refine ⟨by rw [hcall], ?_, by rw [hcall]⟩
  rw [hcall]
  -- a short page ends the scan, and nothing is left; a full one may be followed by more
  by_cases hlt : ((rows.drop offset).take c.fetchSize).length < c.fetchSize
  · have hnil : (rows.drop offset).drop c.fetchSize = [] := by
      rw [List.length_take] at hlt
      exact List.drop_eq_nil_of_le (by omega)
    rw [hnil]
    exact .ended (decide_eq_true hlt)
  · have hfull : ((rows.drop offset).take c.fetchSize).length = c.fetchSize := by
      rw [List.length_take] at hlt ⊢
      omega
    rw [List.drop_drop]
    simp only [hfull]
    exact .byPosition (by simp) rfl hrows

/-- Every call takes a page of what is ahead. -/
theorem Ahead.steps (h : c.Ahead db rows) (hroom : c.fetchSize ≤ greatestBatch) : Steps db c rows := by
  cases h with
  | ended done =>
    have hcall : c.nextBatch db = (.ok none, c) := by rw [nextBatch, if_pos done]
    refine ⟨by rw [hcall, List.take_nil]; rfl, ?_, by rw [hcall]⟩
    rw [hcall, List.drop_nil]
    exact .ended done
  | byNumber done paging table numbered perm rows ascending =>
    exact steps_of_byNumber hroom done paging table numbered perm rows ascending
  | byPosition done paging rows_eq => exact steps_of_byPosition hroom done paging rows_eq

theorem nextBatch_of_byNumber_of_lt {next : Int} (hdone : c.done = false)
    (hpaging : c.paging = .byNumber next) (htable : db.table? c.name = some t)
    (hroom : greatestBatch < c.fetchSize) : c.nextBatch db = (.error .capacityOverflow, c) := by
  have hpage : c.withRoom (db.pageFrom c.name next c.fetchSize) = .error .capacityOverflow := by
    rw [pageFrom, htable]
    exact withRoom_of_lt hroom _
  simp only [nextBatch, hdone, hpaging, hpage]
  rfl

/-- Without room for a batch nothing is read, and the cursor stays where it is. -/
theorem Ahead.nextBatch_of_lt (h : c.Ahead db rows) (hdone : c.done = false)
    (hroom : greatestBatch < c.fetchSize) : c.nextBatch db = (.error .capacityOverflow, c) := by
  cases h with
  | ended done =>
    rw [hdone] at done
    cases done
  | byNumber _ paging table => exact nextBatch_of_byNumber_of_lt hdone paging table hroom
  | byPosition _ paging rows_eq =>
    simp only [nextBatch, hdone, paging, rows_eq, withRoom_of_lt hroom]
    rfl

/-! ### All calls

Since each call leaves less ahead and keeps the mode and the size, the answers to all calls are the parts
of what was ahead at first, and then only the end. -/

/-- The answers to the calls, one after the other: batches of a size that hold certain rows, each but
the last of the full size, and from then on the end. -/
structure Delivers (db : Database) (c : Cursor) (size : Nat) (rows : List Row)
    (batches : List (List Row)) : Prop where
  answers : ∀ calls, ((c.after db calls).nextBatch db).1 = .ok batches[calls]?
  flatten_eq : batches.flatten = rows
  ne_nil : ∀ batch ∈ batches, batch ≠ []
  length_le : ∀ batch ∈ batches, batch.length ≤ size
  length_eq : ∀ batch ∈ batches.dropLast, batch.length = size

theorem Ahead.answers (h : c.Ahead db rows) (hroom : c.fetchSize ≤ greatestBatch) (calls : Nat) :
    ((c.after db calls).nextBatch db).1 = .ok (Scan.cut c.fetchSize rows)[calls]? := by
  induction calls generalizing c rows with
  | zero =>
    rw [after, (h.steps hroom).answer_eq, answer_take c.fetchSize_pos, List.head?_eq_getElem?]
  | succ calls ih =>
    have hrest : (Scan.cut c.fetchSize rows)[calls + 1]? =
        (Scan.cut c.fetchSize (rows.drop c.fetchSize))[calls]? := by
      by_cases hrows : rows = []
      · rw [hrows, List.drop_nil, Scan.cut_nil]
        rfl
      · rw [Scan.cut_of_ne_nil c.fetchSize_pos hrows, List.getElem?_cons_succ]
    have hsize := (h.steps hroom).fetchSize_eq
    rw [after, ih (h.steps hroom).ahead (hsize.symm ▸ hroom), hsize, hrest]

theorem Ahead.delivers (h : c.Ahead db rows) (hroom : c.fetchSize ≤ greatestBatch) :
    c.Delivers db c.fetchSize rows (Scan.cut c.fetchSize rows) where
  answers := h.answers hroom
  flatten_eq := Scan.flatten_cut c.fetchSize_pos rows
  ne_nil _ := Scan.ne_nil_of_mem_cut c.fetchSize_pos
  length_le _ := Scan.length_le_of_mem_cut c.fetchSize_pos
  length_eq _ := Scan.length_of_mem_dropLast_cut c.fetchSize_pos

/-- More calls than there are rows reach the end. -/
theorem Ahead.drain_eq (h : c.Ahead db rows) (hroom : c.fetchSize ≤ greatestBatch) {calls : Nat}
    (hcalls : rows.length < calls) :
    c.drain db calls = ⟨Scan.cut c.fetchSize rows, none⟩ := by
  -- on the calls: each but the last takes a row, so that they last to the end
  induction calls generalizing c rows with
  | zero => exact absurd hcalls (Nat.not_lt_zero _)
  | succ calls ih =>
    obtain ⟨hanswer, hahead, hsize⟩ := h.steps hroom
    rw [drain]
    generalize c.nextBatch db = call at hanswer hahead hsize
    obtain ⟨answered, c'⟩ := call
    obtain rfl : answered = _ := hanswer
    by_cases hrows : rows = []
    · rw [hrows, List.take_nil, Scan.cut_nil]
      rfl
    · have hless : (rows.drop c.fetchSize).length < calls := by
        have hpos := List.length_pos_iff.2 hrows
        have hsize' := c.fetchSize_pos
        rw [List.length_drop]
        omega
      have hpage : answer (rows.take c.fetchSize) = some (rows.take c.fetchSize) := by
        rw [answer_take c.fetchSize_pos, Scan.cut_of_ne_nil c.fetchSize_pos hrows, List.head?_cons]
      rw [hpage, Scan.cut_of_ne_nil c.fetchSize_pos hrows]
      show Scan.mk (_ :: (drain db calls c').batches) (drain db calls c').failure = _
      have hsize' : c'.fetchSize = c.fetchSize := hsize
      rw [ih hahead (hsize'.symm ▸ hroom) hless, hsize']

end Cursor

/-! ### Whole scans

A scan begins with the whole table ahead, in an order that depends on the table and on how its name is
spelled. -/

/-- What every database asks of its declarations: no two tables have the same name, and each can be
declared. -/
structure WellDeclared (db : Database) : Prop where
  names_apart : db.tables.Pairwise fun s t => ¬sameName s.declaration.name t.declaration.name
  declarable : ∀ t ∈ db.tables, t.declaration.Declarable

variable {schema name : String}

theorem table?_eq (hdb : db.WellDeclared) (ht : t ∈ db.tables)
    (hname : sameName t.declaration.name name) : db.table? name = some t := by
  obtain ⟨before, after, hsplit⟩ := List.append_of_mem ht
  refine List.find?_eq_some_iff_append.2 ⟨hname, before, after, hsplit, ?_⟩
  intro u hu
  have hapart := hdb.names_apart
  rw [hsplit, List.pairwise_append] at hapart
  have hne := hapart.2.2 u hu t List.mem_cons_self
  simp only [sameName, beq_iff_eq] at hname hne ⊢
  simpa [hname] using hne

/-- Tables are read by row numbers if they have them, under the name that they are declared with. -/
theorem hasRowid_eq_true_iff (hdb : db.WellDeclared) (ht : t ∈ db.tables)
    (hname : sameName t.declaration.name name) : db.hasRowid schema name = true ↔
      schema = "main" ∧ t.declaration.name = name ∧ t.declaration.withoutRowid = false := by
  rw [hasRowid, Bool.and_eq_true, beq_iff_eq, List.any_eq_true]
  refine and_congr_right fun _ => ⟨?_, ?_⟩
  · rintro ⟨u, hu, hfound⟩
    rw [Bool.and_eq_true, beq_iff_eq, Bool.not_eq_true'] at hfound
    have hsame : db.table? name = some u := table?_eq hdb hu (by simp [sameName, hfound.1])
    rw [table?_eq hdb ht hname] at hsame
    obtain rfl := Option.some.inj hsame
    exact hfound
  · rintro ⟨rfl, hrowid⟩
    exact ⟨t, ht, by simp [hrowid]⟩

/-- Whatever number of rows are fetched at a time, a scan of a name begins in front of certain rows. -/
def BeginsAt (db : Database) (schema name : String) (rows : List Row) : Prop :=
  ∀ fetchSize, ∃ c, db.openCursor schema name fetchSize = .ok c ∧ c.fetchSize = max fetchSize 1 ∧
    c.done = false ∧ c.Ahead db rows

theorem max_le_greatestBatch {fetchSize : Nat} :
    max fetchSize 1 ≤ greatestBatch ↔ fetchSize ≤ greatestBatch := by
  have hpos : 1 ≤ greatestBatch := by decide
  rw [Nat.max_le]
  exact and_iff_left hpos

/-- So its batches are these rows, cut to the number. -/
theorem BeginsAt.scan_eq {rows : List Row} (h : db.BeginsAt schema name rows)
    (hrows : rows.length ≤ (db.tables.flatMap (·.rows)).length) {fetchSize : Nat}
    (hroom : fetchSize ≤ greatestBatch) :
    db.scan schema name fetchSize = .ok ⟨Scan.cut (max fetchSize 1) rows, none⟩ := by
  obtain ⟨c, hopen, hsize, -, hahead⟩ := h fetchSize
  rw [scan, hopen]
  show Except.ok (c.drain db _) = _
  rw [hahead.drain_eq (hsize ▸ max_le_greatestBatch.2 hroom) (Nat.lt_succ_of_le hrows), hsize]

/-- A scan that delivers each row of a table once, in a certain order. -/
def ScansOnce (db : Database) (schema name : String) (fetchSize : Nat) (t : StoredTable)
    (before : StoredRow → StoredRow → Prop) : Prop :=
  ∃ (c : Cursor) (ordered : List StoredRow) (batches : List (List Row)),
    db.openCursor schema name fetchSize = .ok c ∧
    ordered.Perm t.rows ∧ ordered.Pairwise before ∧
    c.Delivers db (max fetchSize 1) (ordered.map t.scanned) batches ∧
    db.scan schema name fetchSize = .ok ⟨batches, none⟩

/-- A scan that ends the program at each call, with the first row still to come. -/
def Crashes (db : Database) (schema name : String) (fetchSize : Nat) : Prop :=
  ∃ c, db.openCursor schema name fetchSize = .ok c ∧
    (∀ calls, ((c.after db calls).nextBatch db).1 = .error .capacityOverflow) ∧
    db.scan schema name fetchSize = .ok ⟨[], some .capacityOverflow⟩

theorem length_le_of_perm (ht : t ∈ db.tables) {ordered : List StoredRow}
    (hperm : ordered.Perm t.rows) :
    (ordered.map t.scanned).length ≤ (db.tables.flatMap (·.rows)).length := by
  obtain ⟨before, after, hsplit⟩ := List.append_of_mem ht
  rw [List.length_map, hperm.length_eq, hsplit, List.flatMap_append, List.flatMap_cons,
    List.length_append, List.length_append]
  omega

theorem BeginsAt.scansOnce_of_perm {ordered : List StoredRow} {before : StoredRow → StoredRow → Prop}
    (h : db.BeginsAt schema name (ordered.map t.scanned)) (ht : t ∈ db.tables)
    (hperm : ordered.Perm t.rows) (hordered : ordered.Pairwise before) {fetchSize : Nat}
    (hroom : fetchSize ≤ greatestBatch) : db.ScansOnce schema name fetchSize t before := by
  obtain ⟨c, hopen, hsize, -, hahead⟩ := h fetchSize
  refine ⟨c, ordered, Scan.cut (max fetchSize 1) (ordered.map t.scanned), hopen, hperm, hordered, ?_, ?_⟩
  · exact hsize ▸ hahead.delivers (hsize ▸ max_le_greatestBatch.2 hroom)
  · exact h.scan_eq (length_le_of_perm ht hperm) hroom

theorem BeginsAt.crashes {rows : List Row} (h : db.BeginsAt schema name rows) {fetchSize : Nat}
    (hroom : greatestBatch < fetchSize) : db.Crashes schema name fetchSize := by
  obtain ⟨c, hopen, hsize, hdone, hahead⟩ := h fetchSize
  have hcall : c.nextBatch db = (.error .capacityOverflow, c) :=
    hahead.nextBatch_of_lt hdone (hsize ▸ lt_of_lt_of_le hroom (Nat.le_max_left _ _))
  have hstays : ∀ calls, c.after db calls = c := by
    intro calls
    induction calls with
    | zero => rfl
    | succ calls ih => rw [Cursor.after, hcall, ih]
  refine ⟨c, hopen, fun calls => by rw [hstays, hcall], ?_⟩
  rw [scan, hopen]
  show Except.ok (c.drain db _) = _
  rw [Cursor.drain, hcall]

/-- Tables with row numbers are read in order of these. -/
theorem exists_beginsAt_of_hasRowid (htable : db.table? name = some t) (hnumbered : t.Numbered)
    (hrowid : db.hasRowid schema name = true) :
    ∃ ordered : List StoredRow, ordered.Perm t.rows ∧ ordered.Pairwise (·.rowid < ·.rowid) ∧
      db.BeginsAt schema name (ordered.map t.scanned) := by
  obtain ⟨ordered, hperm, hascending, hrows⟩ := exists_numberedRows db hnumbered
  have hall : ordered.filter (Number.leastInt64 ≤ ·.rowid) = ordered := by
    refine List.filter_eq_self.2 fun r hr => ?_
    exact decide_eq_true (hnumbered.inInt64 r (hperm.mem_iff.1 hr)).1
  refine ⟨ordered, hperm, hascending, fun fetchSize => ?_⟩
  refine ⟨⟨name, max fetchSize 1, Nat.le_max_right fetchSize 1, .byNumber Number.leastInt64, false⟩,
    by rw [openCursor, if_pos hrowid], rfl, rfl, ?_⟩
  rw [← hall]
  exact .byNumber rfl rfl htable hnumbered hperm hrows hascending

/-- All other tables are read in order of their primary keys. -/
theorem exists_beginsAt_of_not_hasRowid (htable : db.table? name = some t)
    (hmain : sameName schema "main") (hdeclared : t.declaration.Declarable)
    (hrowid : db.hasRowid schema name = false) :
    ∃ ordered : List StoredRow, ordered.Perm t.rows ∧ ordered.Pairwise t.KeyLE ∧
      db.BeginsAt schema name (ordered.map t.scanned) := by
  obtain ⟨key, hkey⟩ : ∃ key, db.primaryKey (.table schema name) = .ok key := by
    rw [primaryKey, catalogColumns_eq hmain htable hdeclared.columns_ne_nil]
    exact ⟨_, rfl⟩
  -- the reported names lead back to the columns of the key, whatever is named twice
  have hpositions := filterMap_primaryKey hmain htable hdeclared hkey
  let positions := t.declaration.keyPositions.eraseDups
  refine ⟨StoredTable.sortBy positions t.ordered,
    (StoredTable.perm_sortBy _ _).trans t.perm_ordered, ?_, fun fetchSize => ?_⟩
  · refine (StoredTable.pairwise_sortBy positions t.ordered).imp fun {a b} hle => ?_
    rwa [StoredTable.compareLists_keyOf_eraseDups] at hle
  · refine ⟨⟨name, max fetchSize 1, Nat.le_max_right fetchSize 1,
      .byPosition (key.map (·.column)) 0, false⟩, ?_, rfl, rfl, ?_⟩
    · rw [openCursor, hrowid, hkey]
      rfl
    · have hrows : db.rowsInOrder name (key.map (·.column)) =
          .ok ((StoredTable.sortBy positions t.ordered).map t.scanned) := by
        rw [rowsInOrder, htable]
        show Except.ok (rowsBy t _) = _
        rw [hpositions]
        rfl
      show Cursor.Ahead db _ (((StoredTable.sortBy positions t.ordered).map t.scanned).drop 0)
      exact .byPosition rfl rfl hrows

/-- Whether a table is read by its row numbers: if it has them, and if it is asked for as it is written. -/
def ReadByNumber (t : StoredTable) (schema name : String) : Prop :=
  schema = "main" ∧ t.declaration.name = name ∧ t.declaration.withoutRowid = false

/-- Every row of a table arrives exactly once, in full batches up to the last one, as long as there is room
for the number of rows that are fetched at a time: by ascending numbers if the table has them and is asked
for as it is written, and otherwise in order of the primary key. Without that room nothing arrives, and
the program ends. -/
theorem scansOnce (hdb : db.WellDeclared) (ht : t ∈ db.tables) (hmain : sameName schema "main")
    (hname : sameName t.declaration.name name) (hnumbers : ReadByNumber t schema name → t.Numbered)
    (fetchSize : Nat) :
    (fetchSize ≤ greatestBatch →
      (ReadByNumber t schema name →
        db.ScansOnce schema name fetchSize t (·.rowid < ·.rowid)) ∧
      (¬ReadByNumber t schema name → db.ScansOnce schema name fetchSize t t.KeyLE)) ∧
    (greatestBatch < fetchSize → db.Crashes schema name fetchSize) := by
  have htable := table?_eq hdb ht hname
  by_cases hrowid : db.hasRowid schema name = true
  · have hread := (hasRowid_eq_true_iff hdb ht hname).1 hrowid
    obtain ⟨ordered, hperm, hascending, hbegins⟩ :=
      exists_beginsAt_of_hasRowid htable (hnumbers hread) hrowid
    exact ⟨fun hroom => ⟨fun _ => hbegins.scansOnce_of_perm ht hperm hascending hroom,
      fun hnot => absurd hread hnot⟩, hbegins.crashes⟩
  · have hread : ¬ReadByNumber t schema name := fun h =>
      hrowid ((hasRowid_eq_true_iff hdb ht hname).2 h)
    obtain ⟨ordered, hperm, hascending, hbegins⟩ := exists_beginsAt_of_not_hasRowid htable hmain
      (hdb.declarable t ht) (Bool.eq_false_iff.2 hrowid)
    exact ⟨fun hroom => ⟨fun h => absurd h hread,
      fun _ => hbegins.scansOnce_of_perm ht hperm hascending hroom⟩, hbegins.crashes⟩

/-! ### A sample

A table of notes numbered from the least number to the greatest, with gaps, whose four rows fill two
batches of two; stamps, whose key bears the name of the row numbers; a table of settings without row
numbers; and tags, which were not put up in the order of their names. -/

/-- Notes at both ends of the numbers and in between. -/
def notes : StoredTable where
  declaration := ⟨"note", [⟨"text", "TEXT", false⟩], [], [], [], false⟩
  rows := [⟨7, [.text "c"]⟩, ⟨Number.greatestInt64, [.text "d"]⟩, ⟨-2, [.text "b"]⟩,
    ⟨Number.leastInt64, [.text "a"]⟩]

def stamps : StoredTable where
  declaration := ⟨"stamp", [⟨"rowid", "INTEGER", false⟩], ["rowid"], [], [], false⟩
  rows := [⟨5, [.integer 5]⟩, ⟨-1, [.integer (-1)]⟩]

def settings : StoredTable where
  declaration := ⟨"setting", [⟨"name", "TEXT", true⟩, ⟨"value", "TEXT", false⟩], ["name"], [], [], true⟩
  rows := [⟨1, [.text "b", .text "2"]⟩, ⟨2, [.text "a", .text "1"]⟩, ⟨3, [.text "c", .null]⟩]

def tags : StoredTable where
  declaration := ⟨"tag", [⟨"name", "TEXT", false⟩], ["name"], [], [], false⟩
  rows := [⟨1, [.text "b"]⟩, ⟨2, [.text "a"]⟩]

def sampleDatabase : Database := ⟨[notes, stamps, settings, tags], [], []⟩

theorem wellDeclared_sampleDatabase : sampleDatabase.WellDeclared where
  names_apart := by decide +kernel
  declarable := by
    have hdeclared : notes.declaration.Declarable ∧ stamps.declaration.Declarable ∧
        settings.declaration.Declarable ∧ tags.declaration.Declarable :=
      ⟨⟨by decide, by decide⟩, ⟨by decide, by decide⟩, ⟨by decide, by decide +kernel⟩,
        ⟨by decide, by decide⟩⟩
    simpa [sampleDatabase] using hdeclared

theorem numbered_notes : notes.Numbered where
  denotes := by
    have hshadow : StoredTable.shadowColumn? notes.declaration = none := by decide +kernel
    simp [hshadow]
  keeps := by
    have hkey : notes.declaration.rowidColumn? = none := by decide +kernel
    simp [hkey]
  nodup := by decide +kernel
  inInt64 := by decide

theorem numbered_stamps : stamps.Numbered where
  denotes := by
    have hshadow : StoredTable.shadowColumn? stamps.declaration = some 0 := by decide +kernel
    have hkey : stamps.declaration.rowidColumn? = some 0 := by decide +kernel
    simp [hshadow, hkey]
  keeps := by
    have hkey : stamps.declaration.rowidColumn? = some 0 := by decide +kernel
    intro r hr position hposition
    obtain rfl := Option.some.inj (hkey.symm.trans hposition)
    revert r
    decide
  nodup := by decide +kernel
  inInt64 := by decide

theorem scansOnce_sample :
    sampleDatabase.ScansOnce "main" "note" 2 notes (·.rowid < ·.rowid) ∧
      sampleDatabase.ScansOnce "main" "stamp" 1 stamps (·.rowid < ·.rowid) ∧
      sampleDatabase.ScansOnce "main" "setting" 0 settings settings.KeyLE ∧
      sampleDatabase.Crashes "main" "setting" 300000000000000000 := by
  have hmem : notes ∈ sampleDatabase.tables ∧ stamps ∈ sampleDatabase.tables ∧
      settings ∈ sampleDatabase.tables := by simp [sampleDatabase]
  have hsame : ∀ name, sameName name name := fun name => beq_self_eq_true _
  have hwithout : ¬ReadByNumber settings "main" "setting" := fun h => by cases h.2.2
  have hdb := wellDeclared_sampleDatabase
  have hsettings := scansOnce hdb hmem.2.2 (hsame "main") (hsame "setting")
    fun h => absurd h hwithout
  refine ⟨?_, ?_, ?_, ?_⟩
  · exact ((scansOnce hdb hmem.1 (hsame _) (hsame _) (fun _ => numbered_notes) 2).1 (by decide)).1
      ⟨rfl, rfl, rfl⟩
  · exact ((scansOnce hdb hmem.2.1 (hsame _) (hsame _) (fun _ => numbered_stamps) 1).1
      (by decide)).1 ⟨rfl, rfl, rfl⟩
  · exact ((hsettings 0).1 (by decide)).2 hwithout
  · exact (hsettings 300000000000000000).2 (by decide)

/-- Tags have row numbers, and are not read in their order if they are asked for in another case. -/
theorem scan_tags_in_another_case :
    tags.declaration.withoutRowid = false ∧ (tags.rows.map (·.rowid)) = [1, 2] ∧
      sampleDatabase.scan "main" "TAG" 1 = .ok ⟨[[⟨["name"], [.text "a"]⟩], [⟨["name"], [.text "b"]⟩]],
        none⟩ ∧
      ¬sampleDatabase.ScansOnce "main" "TAG" 1 tags (·.rowid < ·.rowid) := by
  have hmem : tags ∈ sampleDatabase.tables := by simp [sampleDatabase]
  have hname : sameName tags.declaration.name "TAG" = true := by
    rw [sameName, beq_iff_eq, ← String.toList_inj, Text.asciiLowercase, Text.asciiLowercase,
      String.toList_map, String.toList_map]
    decide
  have htable := table?_eq wellDeclared_sampleDatabase hmem hname
  have hdeclared : tags.declaration.Declarable := ⟨by decide, by decide⟩
  have hmain : sameName "main" "main" := beq_self_eq_true _
  have hrowid : sampleDatabase.hasRowid "main" "TAG" = false := Bool.eq_false_iff.2 fun h =>
    absurd ((hasRowid_eq_true_iff wellDeclared_sampleDatabase hmem hname).1 h).2.1 (by decide)
  obtain ⟨ordered, hperm, hordered, hbegins⟩ :=
    exists_beginsAt_of_not_hasRowid htable hmain hdeclared hrowid
  -- two rows have two orders, of which one is that of the names
  have heq : ordered = [⟨2, [.text "a"]⟩, ⟨1, [.text "b"]⟩] := by
    rcases List.perm_pair.1 hperm with rfl | rfl
    · have hle := List.rel_of_pairwise_cons hordered (List.mem_singleton_self _)
      unfold StoredTable.KeyLE at hle
      revert hle
      decide +kernel
    · rfl
  have hscan : sampleDatabase.scan "main" "TAG" 1 =
      .ok ⟨[[⟨["name"], [.text "a"]⟩], [⟨["name"], [.text "b"]⟩]], none⟩ := by
    rw [hbegins.scan_eq (by rw [heq]; decide) (by decide), heq]
    simp [Scan.cut, StoredTable.scanned, tags]
  refine ⟨rfl, rfl, hscan, ?_⟩
  rintro ⟨c, other, batches, -, hother, hascending, hdelivers, hscan'⟩
  have hfirst : other = [⟨1, [.text "b"]⟩, ⟨2, [.text "a"]⟩] := by
    rcases List.perm_pair.1 hother with rfl | rfl
    · rfl
    · have hlt := List.rel_of_pairwise_cons hascending (List.mem_singleton_self _)
      revert hlt
      decide
  obtain rfl : _ = batches := (Scan.mk.inj (Except.ok.inj (hscan.symm.trans hscan'))).1
  have hflat := hdelivers.flatten_eq
  rw [hfirst] at hflat
  revert hflat
  decide

end Database

end FixturePlan
