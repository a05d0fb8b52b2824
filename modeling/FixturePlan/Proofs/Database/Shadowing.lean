import FixturePlan.Proofs.Database.Paging
import FixturePlan.Proofs.Order.Pages

/-!
# Columns in the place of row numbers

A column named like the row number takes its place in the pages of a scan, whatever its values are. A row
without a whole number ends the scan or is passed over, and so are the rows that share a number with the
last one of a page and did not fit on it (`Database.Cursor.Facing.outcome`). Nothing is read twice, and
nothing is lost if and only if the numbers are whole and rows that share one share a page
(`Database.deliversAll_iff`); else rows can be lost without a failure
(`Database.scan_parcels_one_by_one`).
-/

namespace FixturePlan

namespace StoredTable

variable {t : StoredTable} {r : StoredRow} {rows : List StoredRow} {size : Nat}

/-- A row behind what a query takes for its number. -/
def called (t : StoredTable) (r : StoredRow) : Database.NumberedRow := ⟨t.rowidCell r, t.scanned r⟩

/-- What holds of every stored table: what a query takes for row numbers is as its column keeps it, and
whole numbers have 64 bits. -/
structure KeepsNumbers (t : StoredTable) : Prop where
  kept : ∀ r ∈ t.rows, (rowidAffinity t.declaration).store (t.rowidCell r) = t.rowidCell r
  inInt64 : ∀ r ∈ t.rows, ∀ n, t.rowidCell r = .integer n →
    Number.leastInt64 ≤ n ∧ n ≤ Number.greatestInt64

/-- Rows that are read by their numbers without loss, a page of a size at a time: the numbers are whole,
and rows that share one share a page. -/
structure Unbroken (t : StoredTable) (size : Nat) (rows : List StoredRow) : Prop where
  whole : ∀ r ∈ rows, ∃ n, t.rowidCell r = .integer n
  shareAPage : ShareAPage Cell.storageOrder size (rows.map t.rowidCell)

/-- Whether a row comes no later than another in order of what a query takes for their numbers. -/
def CalledLE (t : StoredTable) (a b : StoredRow) : Prop :=
  ((t.rowidCell a).storageOrder (t.rowidCell b)).isLE = true

/-- What is found of the rows behind a page: some of those that come after its last row, and all rows
behind the page if all of them come after that row and have whole numbers. -/
structure FindsBehind (t : StoredTable) (last : StoredRow) (behind found : List StoredRow) : Prop where
  sublist : found.Sublist behind
  after : ∀ r ∈ found, (t.rowidCell last).storageOrder (t.rowidCell r) = .lt
  all : (∀ r ∈ behind, ∃ n, t.rowidCell r = .integer n) →
    (∀ r ∈ behind, (t.rowidCell last).storageOrder (t.rowidCell r) = .lt) → found = behind

/-- No two rows on different pages share a number. -/
theorem unbroken_append_iff {page rest : List StoredRow} (hsize : 0 < size)
    (hlength : page.length = size) (hsorted : (page ++ rest).Pairwise t.CalledLE) :
    t.Unbroken size (page ++ rest) ↔ (∀ r ∈ page, ∃ n, t.rowidCell r = .integer n) ∧
      (∀ a ∈ page, ∀ b ∈ rest, (t.rowidCell a).storageOrder (t.rowidCell b) = .lt) ∧
      t.Unbroken size rest := by
  have hcells : (page.map t.rowidCell ++ rest.map t.rowidCell).Pairwise fun a b =>
      (a.storageOrder b).isLE = true := by
    rw [← List.map_append]
    exact List.pairwise_map.2 hsorted
  have hshare := shareAPage_append_iff hsize ((List.length_map t.rowidCell).trans hlength) hcells
  rw [← List.map_append, List.forall_mem_map] at hshare
  simp only [List.forall_mem_map] at hshare
  constructor
  · rintro ⟨hwhole, h⟩
    obtain ⟨hlt, h⟩ := hshare.1 h
    rw [List.forall_mem_append] at hwhole
    exact ⟨hwhole.1, hlt, hwhole.2, h⟩
  · rintro ⟨hpage, hlt, hrest, h⟩
    exact ⟨List.forall_mem_append.2 ⟨hpage, hrest⟩, hshare.2 ⟨hlt, h⟩⟩

theorem Unbroken.of_perm {rows' : List StoredRow} (h : t.Unbroken size rows) (hperm : rows.Perm rows') :
    t.Unbroken size rows' :=
  ⟨fun r hr => h.whole r (hperm.mem_iff.2 hr), h.shareAPage.of_perm (hperm.map _)⟩

theorem unbroken_of_length_le (hwhole : ∀ r ∈ rows, ∃ n, t.rowidCell r = .integer n)
    (h : rows.length ≤ size) : t.Unbroken size rows :=
  ⟨hwhole, shareAPage_of_length_le ((List.length_map t.rowidCell).trans_le h)⟩

/-- Rows are read one by one without loss exactly if their numbers are whole and no two the same. -/
theorem unbroken_one_iff : t.Unbroken 1 rows ↔
    (∀ r ∈ rows, ∃ n, t.rowidCell r = .integer n) ∧ (rows.map t.rowidCell).Nodup := by
  have hcount : (∀ r ∈ rows, ∃ n, t.rowidCell r = .integer n) →
      (ShareAPage Cell.storageOrder 1 (rows.map t.rowidCell) ↔ (rows.map t.rowidCell).Nodup) := by
    intro hwhole
    rw [shareAPage_one_iff, List.nodup_iff_count_eq_one]
    refine forall₂_congr fun a ha => ?_
    rw [List.count, List.countP_congr]
    intro b hb
    obtain ⟨r, hr, rfl⟩ := List.mem_map.1 ha
    obtain ⟨q, hq, rfl⟩ := List.mem_map.1 hb
    obtain ⟨n, hn⟩ := hwhole r hr
    obtain ⟨m, hm⟩ := hwhole q hq
    rw [hn, hm, Cell.storageOrder_integer, Ordering.isEq_iff_eq_eq, Std.compare_eq_iff_eq, beq_iff_eq,
      Cell.integer.injEq]
  exact ⟨fun h => ⟨h.whole, (hcount h.whole).1 h.shareAPage⟩,
    fun ⟨hwhole, hnodup⟩ => ⟨hwhole, (hcount hwhole).2 hnodup⟩⟩

/-- And then they are in pages of every size. -/
theorem Unbroken.of_one (h : t.Unbroken 1 rows) (size : Nat) : t.Unbroken size rows :=
  ⟨h.whole, h.shareAPage.of_one size⟩

/-- The last row of a sorted page comes no earlier than any other. -/
theorem calledLE_getLast {page : List StoredRow} {last : StoredRow} (hsorted : page.Pairwise t.CalledLE)
    (hlast : page.getLast? = some last) (hr : r ∈ page) : t.CalledLE r last := by
  obtain ⟨front, hfront⟩ := List.getLast?_eq_some_iff.1 hlast
  rw [hfront, List.mem_append, List.mem_singleton] at hr
  rcases hr with hr | rfl
  · rw [hfront, List.pairwise_append] at hsorted
    exact hsorted.2.2 r hr last (List.mem_singleton_self _)
  · exact Ordering.isLE_of_eq_eq Std.ReflCmp.compare_self

/-- Rows are read without loss if their first page is, if its last number does not occur again, and if
what is behind the page is read without loss. -/
theorem unbroken_iff_of_page {page : List StoredRow} {last : StoredRow} (hsize : 0 < size)
    (hsorted : rows.Pairwise t.CalledLE) (hpage : rows.take size = page)
    (hwhole : ∀ r ∈ page, ∃ n, t.rowidCell r = .integer n) (hlast : page.getLast? = some last) :
    t.Unbroken size rows ↔
      (∀ r ∈ rows.drop size, (t.rowidCell last).storageOrder (t.rowidCell r) = .lt) ∧
        t.Unbroken size (rows.drop size) := by
  have hsplit : page ++ rows.drop size = rows := by rw [← hpage, List.take_append_drop]
  -- without a second page there is nothing that the cut could break
  by_cases hnil : rows.drop size = []
  · rw [hnil, List.append_nil] at hsplit
    rw [hnil, ← hsplit]
    refine iff_of_true (unbroken_of_length_le hwhole ?_)
      ⟨nofun, unbroken_of_length_le nofun (Nat.zero_le _)⟩
    rw [← hpage]
    exact List.length_take_le _ _
  · have hmore : size < rows.length := by simpa using hnil
    have hfull : page.length = size := by rw [← hpage, List.length_take, Nat.min_eq_left hmore.le]
    rw [← hsplit] at hsorted
    have happend := unbroken_append_iff hsize hfull hsorted
    rw [hsplit] at happend
    rw [happend]
    have hpageSorted := (List.pairwise_append.1 hsorted).1
    constructor
    · rintro ⟨-, hlt, hrest⟩
      exact ⟨hlt last (List.mem_of_getLast? hlast), hrest⟩
    · rintro ⟨hlt, hrest⟩
      refine ⟨hwhole, fun a ha b hb => ?_, hrest⟩
      -- the last row of the page has the greatest number, so that it speaks for all of them
      exact Std.TransCmp.lt_of_isLE_of_lt (calledLE_getLast hpageSorted hlast ha) (hlt b hb)

end StoredTable

namespace Database

variable {db : Database} {t : StoredTable} {r : StoredRow} {ordered rows : List StoredRow}

section Reaching

variable (ht : t.KeepsNumbers) (hr : r ∈ t.rows) {n : ℤ} (hn : t.rowidCell r = .integer n)

include ht hr hn

/-- A table with a whole number compares its numbers with whole numbers. -/
theorem compared_eq (next : ℤ) :
    (StoredTable.rowidAffinity t.declaration).compared next = .integer next := by
  have hkept := ht.kept r hr
  cases haffinity : StoredTable.rowidAffinity t.declaration with
  | text =>
    rw [haffinity, hn] at hkept
    cases hkept
  | _ => rfl

theorem reaches_called_iff (next : ℤ) (q : StoredRow) : reaches t next (t.called q) = true ↔
    (t.rowidCell q).isNull = false ∧
      ((Cell.integer next).storageOrder (t.rowidCell q)).isLE = true := by
  rw [reaches, compared_eq ht hr hn next, Bool.and_eq_true, Bool.not_eq_true',
    Std.OrientedCmp.isGE_iff_isLE]
  rfl

theorem reaches_called_whole (next : ℤ) :
    reaches t next (t.called r) = true ↔ next ≤ n := by
  rw [reaches_called_iff ht hr hn, hn, Cell.storageOrder_integer, Int.isLE_compare]
  exact and_iff_right rfl

end Reaching

/-- No whole number comes after the greatest. -/
theorem findsBehind_nil_of_greatest {last : StoredRow} {behind : List StoredRow} (ht : t.KeepsNumbers)
    (hbehind : ∀ r ∈ behind, r ∈ t.rows) (hlast : t.rowidCell last = .integer Number.greatestInt64) :
    t.FindsBehind last behind [] := by
  refine ⟨List.nil_sublist _, nofun, fun hwhole hlt => ?_⟩
  refine (List.eq_nil_iff_forall_not_mem.2 fun r hr => ?_).symm
  obtain ⟨k, hk⟩ := hwhole r hr
  have hless := hlt r hr
  rw [hlast, hk, Cell.storageOrder_integer, Std.compare_eq_lt] at hless
  exact absurd (ht.inInt64 r (hbehind r hr) k hk).2 (Int.not_le.2 hless)

/-- A query from the number after that of a row finds rows that come after it. -/
theorem findsBehind_filter {last : StoredRow} {behind : List StoredRow} {n : ℤ} (ht : t.KeepsNumbers)
    (hbehind : ∀ r ∈ behind, r ∈ t.rows) (hrow : last ∈ t.rows) (hlast : t.rowidCell last = .integer n) :
    t.FindsBehind last behind (behind.filter fun r => reaches t (n + 1) (t.called r)) where
  sublist := List.filter_sublist
  after := by
    intro r hr
    have hreaches := (reaches_called_iff ht hrow hlast (n + 1) r).1 (List.mem_filter.1 hr).2
    refine Std.TransCmp.lt_of_lt_of_isLE ?_ hreaches.2
    rw [hlast, Cell.storageOrder_integer, Std.compare_eq_lt]
    exact Int.lt_succ n
  all := by
    intro hwhole hlt
    refine List.filter_eq_self.2 fun r hr => ?_
    obtain ⟨k, hk⟩ := hwhole r hr
    have hless := hlt r hr
    rw [hlast, hk, Cell.storageOrder_integer, Std.compare_eq_lt] at hless
    exact (reaches_called_whole ht (hbehind r hr) hk (n + 1)).2 hless

/-- The rows of a table in order of their numbers, as a query finds them. -/
structure InOrder (db : Database) (t : StoredTable) (ordered : List StoredRow) : Prop where
  perm : ordered.Perm t.rows
  ascending : ordered.Pairwise t.CalledLE
  numberedRows_eq : db.numberedRows t = ordered.map t.called

theorem exists_inOrder (db : Database) (t : StoredTable) : ∃ ordered, db.InOrder t ordered := by
  let byNumber := db.latestIndex t.declaration fun columns =>
    columns.head?.any (StoredTable.shadowColumn? t.declaration == some ·)
  let found := StoredTable.sortBy byNumber t.ordered
  have hfound : found.Perm t.rows := (StoredTable.perm_sortBy _ _).trans t.perm_ordered
  refine ⟨found.mergeSort fun a b => ((t.rowidCell a).storageOrder (t.rowidCell b)).isLE,
    (List.mergeSort_perm _ _).trans hfound, pairwise_mergeSort_on Cell.storageOrder t.rowidCell found, ?_⟩
  show (found.map t.called).mergeSort _ = _
  rw [List.map_mergeSort]
  intro a _ b _
  rfl

theorem wholeNumber_called_eq_ok_iff {r : StoredRow} {n : ℤ} :
    wholeNumber (t.called r) = .ok n ↔ t.rowidCell r = .integer n := by
  simp only [wholeNumber, StoredTable.called]
  cases t.rowidCell r with
  | integer m => exact ⟨fun h => congrArg _ (Except.ok.inj h), fun h => congrArg _ (Cell.integer.inj h)⟩
  | _ => exact ⟨nofun, nofun⟩

theorem lastNumber?_eq (page : List StoredRow) (hwhole : ∀ r ∈ page, ∃ n, t.rowidCell r = .integer n) :
    ∃ last, lastNumber? (page.map t.called) = .ok last ∧
      ∀ r, page.getLast? = some r → ∃ n, t.rowidCell r = .integer n ∧ last = some n := by
  -- the fold forgets what came before, so it is the same for every start
  have hfold : ∀ acc : Option ℤ, ∃ last, (page.map t.called).foldlM
      (fun _ r => (wholeNumber r).map some) acc = .ok last ∧
      ∀ r, page.getLast? = some r → ∃ n, t.rowidCell r = .integer n ∧ last = some n := by
    induction page with
    | nil => exact fun acc => ⟨acc, rfl, nofun⟩
    | cons r rest ih =>
      intro acc
      obtain ⟨⟨n, hn⟩, hrest⟩ := List.forall_mem_cons.1 hwhole
      obtain ⟨last, hlast, hget⟩ := ih hrest (some n)
      refine ⟨last, ?_, ?_⟩
      · rw [List.map_cons, List.foldlM_cons, wholeNumber_called_eq_ok_iff.2 hn]
        exact hlast
      · cases rest with
        | nil =>
          obtain rfl : some n = last := Except.ok.inj hlast
          rintro _ ⟨⟩
          exact ⟨n, hn, rfl⟩
        | cons r' rest => simpa only [List.getLast?_cons_cons] using hget
  exact hfold none

theorem exists_of_lastNumber?_eq_error {page : List StoredRow} {e : SourceError}
    (h : lastNumber? (page.map t.called) = .error e) :
    ∃ r ∈ page, ∀ n, t.rowidCell r ≠ .integer n := by
  by_contra hall
  push Not at hall
  obtain ⟨last, hlast, -⟩ := lastNumber?_eq page hall
  rw [hlast] at h
  cases h

theorem whole_of_lastNumber? {page : List StoredRow} {last : Option ℤ}
    (h : lastNumber? (page.map t.called) = .ok last) :
    ∀ r ∈ page, ∃ n, t.rowidCell r = .integer n := by
  have hfold : ∀ acc : Option ℤ, (page.map t.called).foldlM
      (fun _ r => (wholeNumber r).map some) acc = .ok last →
      ∀ r ∈ page, ∃ n, t.rowidCell r = .integer n := by
    clear h
    induction page with
    | nil => exact nofun
    | cons r rest ih =>
      intro acc h
      rw [List.map_cons, List.foldlM_cons] at h
      cases hnumber : wholeNumber (t.called r) with
      | error e =>
        rw [hnumber] at h
        cases h
      | ok n =>
        rw [hnumber] at h
        exact List.forall_mem_cons.2 ⟨⟨n, wholeNumber_called_eq_ok_iff.1 hnumber⟩, ih _ h⟩
  exact hfold none h

/-! ### One call

The numbers that a cursor sees need be neither distinct nor whole now. A call takes the beginning of what
it finds, and what has the number of its last row is not found again. -/

namespace Cursor

variable {c : Cursor}

/-- The rows that a cursor finds from where it is. -/
inductive Facing (db : Database) (t : StoredTable) (ordered : List StoredRow) :
    Cursor → List StoredRow → Prop
  | ended {c : Cursor} (done : c.done = true) : Facing db t ordered c []
  | byNumber {c : Cursor} {next : ℤ} (done : c.done = false) (paging : c.paging = .byNumber next)
      (table : db.table? c.name = some t) :
      Facing db t ordered c (ordered.filter fun r => reaches t next (t.called r))

theorem Facing.sublist (h : c.Facing db t ordered rows) : rows.Sublist ordered := by
  cases h with
  | ended => exact List.nil_sublist _
  | byNumber => exact List.filter_sublist

/-- What one call does: it has no room for a batch, fails at a row without a whole number, finds that there
are no rows, or takes a page. What the cursor finds next is then behind the page. -/
inductive Outcome (db : Database) (t : StoredTable) (ordered : List StoredRow) (c : Cursor)
    (rows : List StoredRow) : Prop
  | crashes (answer_eq : (c.nextBatch db).1 = .error .capacityOverflow)
      (no_room : greatestBatch < c.fetchSize)
  | fails {e : SourceError} {r : StoredRow} (answer_eq : (c.nextBatch db).1 = .error e) (mem : r ∈ rows)
      (not_whole : ∀ n, t.rowidCell r ≠ .integer n)
  | ends (answer_eq : (c.nextBatch db).1 = .ok none) (rows_eq : rows = [])
  | takes {page rest : List StoredRow} {last : StoredRow}
      (answer_eq : (c.nextBatch db).1 = .ok (some (page.map t.scanned)))
      (page_eq : rows.take c.fetchSize = page)
      (whole : ∀ r ∈ page, ∃ n, t.rowidCell r = .integer n) (last_mem : page.getLast? = some last)
      (facing : (c.nextBatch db).2.Facing db t ordered rest)
      (fetchSize_eq : (c.nextBatch db).2.fetchSize = c.fetchSize)
      (finds : t.FindsBehind last (rows.drop c.fetchSize) rest)

/-- A page from a number on is the beginning of the rows that the cursor finds. -/
theorem nextBatch_byNumber {next : ℤ} {page : List StoredRow} (hroom : c.fetchSize ≤ greatestBatch)
    (hordered : db.InOrder t ordered) (hdone : c.done = false) (hpaging : c.paging = .byNumber next)
    (htable : db.table? c.name = some t)
    (hpage : (ordered.filter fun r => reaches t next (t.called r)).take c.fetchSize = page) :
    c.nextBatch db = match lastNumber? (page.map t.called) with
      | .error e => (.error e, c)
      | .ok last => match last.bind following? with
        | some after => (.ok (answer (page.map t.scanned)),
            { c with paging := .byNumber after, done := decide (page.length < c.fetchSize) })
        | none => (.ok (answer (page.map t.scanned)), { c with done := true }) := by
  -- the page is cut from the same rows, in the form that the reader sees
  have hread : db.pageFrom c.name next c.fetchSize = .ok (page.map t.called) := by
    rw [pageFrom, htable]
    show Except.ok _ = _
    rw [hordered.numberedRows_eq, List.filter_map, ← List.map_take, ← hpage]
    rfl
  have hrow : (page.map t.called).map (·.row) = page.map t.scanned := by
    rw [List.map_map]
    rfl
  simp only [nextBatch, hdone, hpaging, hread, withRoom_of_le hroom, Except.bind]
  cases lastNumber? (page.map t.called) with
  | error e => rfl
  | ok last =>
    simp only [Except.map, hrow, List.length_map]
    rfl

/-- What comes after the last number of a page is behind the page. -/
theorem filter_reaches_succ {next n : ℤ} {size : ℕ} {found page : List StoredRow} {final : StoredRow}
    (hordered : db.InOrder t ordered) (ht : t.KeepsNumbers)
    (hfound : (ordered.filter fun r => reaches t next (t.called r)) = found)
    (hpage : found.take size = page) (hwhole : ∀ r ∈ page, ∃ n, t.rowidCell r = .integer n)
    (hfinal : page.getLast? = some final) (hn : t.rowidCell final = .integer n) :
    (ordered.filter fun r => reaches t (n + 1) (t.called r)) =
      (found.drop size).filter fun r => reaches t (n + 1) (t.called r) := by
  have hrow : ∀ r ∈ found, r ∈ t.rows ∧ reaches t next (t.called r) = true := by
    intro r hr
    rw [← hfound, List.mem_filter] at hr
    exact ⟨hordered.perm.mem_iff.1 hr.1, hr.2⟩
  have hpageRow : ∀ r ∈ page, r ∈ found := fun r hr => List.mem_of_mem_take (hpage ▸ hr)
  obtain ⟨hfinalRow, hreaches⟩ := hrow final (hpageRow final (List.mem_of_getLast? hfinal))
  have hnext : next ≤ n := (reaches_called_whole ht hfinalRow hn next).1 hreaches
  -- what reaches the number after the page reaches the bound of the page as well
  have hfilter : (ordered.filter fun r => reaches t (n + 1) (t.called r)) =
      found.filter fun r => reaches t (n + 1) (t.called r) := by
    rw [← hfound, List.filter_filter]
    refine List.filter_congr fun r _ => ?_
    rw [Bool.eq_iff_iff, Bool.and_eq_true, reaches_called_iff ht hfinalRow hn,
      reaches_called_iff ht hfinalRow hn]
    refine ⟨fun h => ⟨h, h.1, ?_⟩, And.left⟩
    refine Std.TransCmp.isLE_trans ?_ h.2
    rw [Cell.storageOrder_integer, Int.isLE_compare]
    omega
  -- the rows of the page do not
  have hascending : found.Pairwise t.CalledLE := by
    rw [← hfound]
    exact hordered.ascending.filter _
  have hbefore : ∀ r ∈ page, ¬reaches t (n + 1) (t.called r) = true := by
    intro r hr
    obtain ⟨k, hk⟩ := hwhole r hr
    have hle : k ≤ n := by
      have hsorted : page.Pairwise t.CalledLE := hpage ▸ hascending.sublist (List.take_sublist _ _)
      have h := StoredTable.calledLE_getLast hsorted hfinal hr
      rwa [StoredTable.CalledLE, hk, hn, Cell.storageOrder_integer, Int.isLE_compare] at h
    rw [reaches_called_whole ht (hrow r (hpageRow r hr)).1 hk]
    omega
  rw [hfilter]
  conv_lhs => rw [← List.take_append_drop size found, hpage]
  rw [List.filter_append, List.filter_eq_nil_iff.2 hbefore, List.nil_append]

/-- A page that has a last row is taken. What is found next begins after the number of that row, unless
there is no greater number or the page was short. -/
theorem takes_of_byNumber {next n : ℤ} {found page : List StoredRow} {final : StoredRow}
    (hroom : c.fetchSize ≤ greatestBatch) (hordered : db.InOrder t ordered) (ht : t.KeepsNumbers)
    (hdone : c.done = false) (hpaging : c.paging = .byNumber next) (htable : db.table? c.name = some t)
    (hfound : (ordered.filter fun r => reaches t next (t.called r)) = found)
    (hpage : found.take c.fetchSize = page) (hnumber : lastNumber? (page.map t.called) = .ok (some n))
    (hwhole : ∀ r ∈ page, ∃ n, t.rowidCell r = .integer n) (hget : page.getLast? = some final)
    (hn : t.rowidCell final = .integer n) : c.Outcome db t ordered found := by
  have hcall := nextBatch_byNumber hroom hordered hdone hpaging htable (hfound.symm ▸ hpage)
  have hrow : ∀ r ∈ found, r ∈ t.rows := by
    intro r hr
    rw [← hfound] at hr
    exact hordered.perm.mem_iff.1 (List.mem_of_mem_filter hr)
  have hfinal : final ∈ page := List.mem_of_getLast? hget
  have hfinalRow := hrow final (List.mem_of_mem_take (hpage ▸ hfinal))
  have hbehind : ∀ r ∈ found.drop c.fetchSize, r ∈ t.rows :=
    fun r hr => hrow r (List.mem_of_mem_drop hr)
  have hanswer : answer (page.map t.scanned) = some (page.map t.scanned) := by
    rw [answer, if_neg]
    simp [List.ne_nil_of_mem hfinal]
  simp only [hnumber, hanswer, Option.bind_some, following?] at hcall
  by_cases hgreatest : n = Number.greatestInt64
  · rw [if_pos hgreatest] at hcall
    exact .takes (by rw [hcall]) hpage hwhole hget (by rw [hcall]; exact .ended rfl) (by rw [hcall])
      (findsBehind_nil_of_greatest ht hbehind (hgreatest ▸ hn))
  · rw [if_neg hgreatest] at hcall
    have hfinds := findsBehind_filter ht hbehind hfinalRow hn
    by_cases hshort : page.length < c.fetchSize
    · -- a short page leaves nothing
      have hnil : found.drop c.fetchSize = [] := by
        rw [← hpage, List.length_take] at hshort
        exact List.drop_eq_nil_of_le (by omega)
      rw [hnil, List.filter_nil] at hfinds
      have hended : (c.nextBatch db).2.Facing db t ordered [] := by
        rw [hcall]
        exact .ended (decide_eq_true hshort)
      exact .takes (by rw [hcall]) hpage hwhole hget hended (by rw [hcall]) (hnil.symm ▸ hfinds)
    · rw [← filter_reaches_succ hordered ht hfound hpage hwhole hget hn] at hfinds
      exact .takes (by rw [hcall]) hpage hwhole hget
        (by rw [hcall]; exact .byNumber (decide_eq_false hshort) rfl htable) (by rw [hcall]) hfinds

theorem outcome_of_byNumber {next : ℤ} (hordered : db.InOrder t ordered) (ht : t.KeepsNumbers)
    (hdone : c.done = false) (hpaging : c.paging = .byNumber next) (htable : db.table? c.name = some t) :
    c.Outcome db t ordered (ordered.filter fun r => reaches t next (t.called r)) := by
  by_cases hroom : greatestBatch < c.fetchSize
  · exact .crashes (by rw [nextBatch_of_byNumber_of_lt hdone hpaging htable hroom]) hroom
  rw [Nat.not_lt] at hroom
  obtain ⟨found, hfound⟩ : ∃ found, (ordered.filter fun r => reaches t next (t.called r)) = found :=
    ⟨_, rfl⟩
  obtain ⟨page, hpage⟩ : ∃ page, found.take c.fetchSize = page := ⟨_, rfl⟩
  have hcall := nextBatch_byNumber hroom hordered hdone hpaging htable (hfound.symm ▸ hpage)
  rw [hfound]
  cases hnumber : lastNumber? (page.map t.called) with
  | error e =>
    obtain ⟨r, hr, hwhole⟩ := exists_of_lastNumber?_eq_error hnumber
    exact .fails (by rw [hcall, hnumber]) (List.mem_of_mem_take (hpage ▸ hr)) hwhole
  | ok last =>
    have hwhole := whole_of_lastNumber? hnumber
    obtain ⟨number, hnumber', hlast⟩ := lastNumber?_eq page hwhole
    obtain rfl := Except.ok.inj (hnumber.symm.trans hnumber')
    cases hget : page.getLast? with
    | none =>
      obtain rfl : page = [] := List.getLast?_eq_none_iff.1 hget
      obtain rfl : none = last := Except.ok.inj hnumber
      refine .ends (by rw [hcall, hnumber]; rfl) ?_
      exact (List.take_eq_nil_iff.1 hpage).resolve_left (Nat.ne_of_gt c.fetchSize_pos)
    | some final =>
      obtain ⟨n, hn, rfl⟩ := hlast final hget
      exact takes_of_byNumber hroom hordered ht hdone hpaging htable hfound hpage hnumber hwhole hget hn

theorem Facing.outcome (hordered : db.InOrder t ordered) (ht : t.KeepsNumbers)
    (h : c.Facing db t ordered rows) : c.Outcome db t ordered rows := by
  cases h with
  | ended done => exact .ends (by rw [nextBatch, if_pos done]) rfl
  | byNumber done paging table => exact outcome_of_byNumber hordered ht done paging table

/-! ### All calls

By induction on the calls: each leaves a part of what was found, so that no row is read twice; and every
row is read if no number reaches from one page into the next. -/

section Drain

variable {calls : ℕ}

theorem drain_of_error {e : SourceError} (h : (c.nextBatch db).1 = .error e) :
    c.drain db (calls + 1) = ⟨[], some e⟩ := by
  rw [drain]
  split <;> simp_all

theorem drain_of_end (h : (c.nextBatch db).1 = .ok none) : c.drain db (calls + 1) = ⟨[], none⟩ := by
  rw [drain]
  split <;> simp_all

theorem drain_of_batch {batch : List Row} (h : (c.nextBatch db).1 = .ok (some batch)) :
    c.drain db (calls + 1) = ⟨batch :: ((c.nextBatch db).2.drain db calls).batches,
      ((c.nextBatch db).2.drain db calls).failure⟩ := by
  rw [drain]
  split <;> simp_all

end Drain

/-- No row is read twice, and none that the table does not have. -/
theorem Facing.rows_drain_sublist (hordered : db.InOrder t ordered) (ht : t.KeepsNumbers)
    (h : c.Facing db t ordered rows) (calls : ℕ) :
    (c.drain db calls).rows.Sublist (rows.map t.scanned) := by
  induction calls generalizing c rows with
  | zero => exact List.nil_sublist _
  | succ calls ih =>
    cases h.outcome hordered ht with
    | crashes answer_eq =>
      rw [drain_of_error answer_eq]
      exact List.nil_sublist _
    | fails answer_eq =>
      rw [drain_of_error answer_eq]
      exact List.nil_sublist _
    | ends answer_eq =>
      rw [drain_of_end answer_eq]
      exact List.nil_sublist _
    | takes answer_eq page_eq _ _ facing _ finds =>
      rw [drain_of_batch answer_eq, Scan.rows, List.flatten_cons, ← List.take_append_drop c.fetchSize rows,
        page_eq, List.map_append]
      exact ((ih facing).trans (finds.sublist.map _)).append_left _

/-- Rows whose numbers are whole and share pages are all read. -/
theorem Facing.drain_of_unbroken (hordered : db.InOrder t ordered) (ht : t.KeepsNumbers)
    (h : c.Facing db t ordered rows) (hroom : c.fetchSize ≤ greatestBatch)
    (hrows : t.Unbroken c.fetchSize rows) {calls : ℕ} (hcalls : rows.length < calls) :
    (c.drain db calls).failure = none ∧ (c.drain db calls).rows = rows.map t.scanned := by
  induction calls generalizing c rows with
  | zero => exact absurd hcalls (Nat.not_lt_zero _)
  | succ calls ih =>
    cases h.outcome hordered ht with
    | crashes _ no_room => exact absurd hroom (Nat.not_le_of_lt no_room)
    | fails _ mem not_whole =>
      obtain ⟨n, hn⟩ := hrows.whole _ mem
      exact absurd hn (not_whole n)
    | ends answer_eq rows_eq =>
      rw [drain_of_end answer_eq, rows_eq]
      exact ⟨rfl, rfl⟩
    | @takes page rest last answer_eq page_eq whole last_mem facing fetchSize_eq finds =>
      have hsorted := hordered.ascending.sublist h.sublist
      obtain ⟨hlt, hunbroken⟩ :=
        (StoredTable.unbroken_iff_of_page c.fetchSize_pos hsorted page_eq whole last_mem).1 hrows
      -- nothing is passed over
      obtain rfl : rest = rows.drop c.fetchSize := finds.all hunbroken.whole hlt
      have hless : (rows.drop c.fetchSize).length < calls := by
        have hpos := List.length_pos_of_mem (List.mem_of_getLast? last_mem)
        rw [← page_eq, List.length_take] at hpos
        rw [List.length_drop]
        omega
      obtain ⟨hfailure, hread⟩ :=
        ih facing (fetchSize_eq.symm ▸ hroom) (fetchSize_eq.symm ▸ hunbroken) hless
      rw [drain_of_batch answer_eq]
      refine ⟨hfailure, ?_⟩
      rw [Scan.rows, List.flatten_cons, ← Scan.rows, hread, ← List.map_append, ← page_eq,
        List.take_append_drop]

/-- Where all rows are read without a failure, their numbers are whole and share pages. -/
theorem Facing.unbroken_of_drain (hordered : db.InOrder t ordered) (ht : t.KeepsNumbers)
    (h : c.Facing db t ordered rows) {calls : ℕ} (hfailure : (c.drain db calls).failure = none)
    (hlength : rows.length ≤ (c.drain db calls).rows.length) : t.Unbroken c.fetchSize rows := by
  induction calls generalizing c rows with
  | zero =>
    have hnone : rows.length ≤ 0 := hlength
    obtain rfl := List.eq_nil_of_length_eq_zero (Nat.le_zero.1 hnone)
    exact t.unbroken_of_length_le nofun (Nat.zero_le _)
  | succ calls ih =>
    cases h.outcome hordered ht with
    | crashes answer_eq =>
      rw [drain_of_error answer_eq] at hfailure
      cases hfailure
    | fails answer_eq =>
      rw [drain_of_error answer_eq] at hfailure
      cases hfailure
    | ends _ rows_eq =>
      rw [rows_eq]
      exact t.unbroken_of_length_le nofun (Nat.zero_le _)
    | @takes page rest last answer_eq page_eq whole last_mem facing fetchSize_eq finds =>
      have hsorted := hordered.ascending.sublist h.sublist
      rw [drain_of_batch answer_eq] at hfailure hlength
      have hmost := (facing.rows_drain_sublist hordered ht calls).length_le
      have hrows : rows.length = page.length + (rows.drop c.fetchSize).length := by
        rw [← List.length_append, ← page_eq, List.take_append_drop]
      rw [Scan.rows, List.flatten_cons, ← Scan.rows, List.length_append, List.length_map] at hlength
      rw [List.length_map] at hmost
      -- nothing is passed over
      obtain rfl : rest = rows.drop c.fetchSize := finds.sublist.eq_of_length_le (by omega)
      have hunbroken := ih facing hfailure (by omega)
      rw [fetchSize_eq] at hunbroken
      exact (StoredTable.unbroken_iff_of_page c.fetchSize_pos hsorted page_eq whole last_mem).2
        ⟨finds.after, hunbroken⟩

end Cursor

/-! ### Whole scans

A scan makes more calls than there are rows, and its first call finds all rows whose numbers reach the
least one. So what holds of all calls holds of scans, of whatever size the batches are. -/

variable {schema name : String} {fetchSize : ℕ}

/-- A scan that delivers every row of a table exactly once, with all columns of the table. -/
def DeliversAll (db : Database) (schema name : String) (fetchSize : ℕ) (t : StoredTable) : Prop :=
  ∃ scan, db.scan schema name fetchSize = .ok scan ∧ scan.failure = none ∧
    scan.rows.Perm (t.rows.map t.scanned)

/-- A scan by row numbers begins with all rows that reach the least number. -/
theorem exists_scan_eq (ht : t ∈ db.tables) (htable : db.table? name = some t)
    (hrowid : db.hasRowid schema name = true) (ordered : List StoredRow) (fetchSize : ℕ) :
    ∃ (c : Cursor) (calls : ℕ), c.fetchSize = max fetchSize 1 ∧ t.rows.length < calls ∧
      (greatestBatch < c.fetchSize → c.nextBatch db = (.error .capacityOverflow, c)) ∧
      db.scan schema name fetchSize = .ok (c.drain db calls) ∧
      c.Facing db t ordered
        (ordered.filter fun r => reaches t Number.leastInt64 (t.called r)) := by
  refine ⟨⟨name, max fetchSize 1, Nat.le_max_right fetchSize 1, .byNumber Number.leastInt64, false⟩,
    (db.tables.flatMap (·.rows)).length + 1, rfl, ?_,
    Cursor.nextBatch_of_byNumber_of_lt rfl rfl htable, ?_, .byNumber rfl rfl htable⟩
  · obtain ⟨before, after, hsplit⟩ := List.append_of_mem ht
    rw [hsplit, List.flatMap_append, List.flatMap_cons, List.length_append, List.length_append]
    omega
  · rw [scan, openCursor, if_pos hrowid]
    rfl

theorem scan_sublist (ht : t ∈ db.tables) (htable : db.table? name = some t)
    (hrowid : db.hasRowid schema name = true) (hkept : t.KeepsNumbers) (fetchSize : ℕ) :
    ∃ scan, db.scan schema name fetchSize = .ok scan ∧
      ∃ read : List StoredRow, read.Subperm t.rows ∧ scan.rows = read.map t.scanned := by
  obtain ⟨ordered, hordered⟩ := exists_inOrder db t
  obtain ⟨c, calls, -, -, -, hscan, hfacing⟩ := exists_scan_eq ht htable hrowid ordered fetchSize
  obtain ⟨read, hread, hrows⟩ := List.sublist_map_iff.1 (hfacing.rows_drain_sublist hordered hkept calls)
  exact ⟨_, hscan, read, (hread.trans hfacing.sublist).subperm.trans hordered.perm.subperm, hrows⟩

/-- Rows that are read without loss arrive in one order, however many are fetched at a time. -/
theorem scan_of_unbroken {ordered : List StoredRow} (hordered : db.InOrder t ordered)
    (ht : t ∈ db.tables) (htable : db.table? name = some t) (hrowid : db.hasRowid schema name = true)
    (hkept : t.KeepsNumbers) (hroom : fetchSize ≤ greatestBatch)
    (h : t.Unbroken (max fetchSize 1) t.rows) :
    ∃ scan, db.scan schema name fetchSize = .ok scan ∧ scan.failure = none ∧
      scan.rows = ordered.map t.scanned := by
  obtain ⟨c, calls, hsize, hcalls, -, hscan, hfacing⟩ :=
    exists_scan_eq ht htable hrowid ordered fetchSize
  rw [← hordered.perm.length_eq] at hcalls
  have hall : (ordered.filter fun r => reaches t Number.leastInt64 (t.called r)) = ordered := by
    refine List.filter_eq_self.2 fun r hr => ?_
    have hmem := hordered.perm.mem_iff.1 hr
    obtain ⟨n, hn⟩ := h.whole r hmem
    exact (reaches_called_whole hkept hmem hn _).2 (hkept.inInt64 r hmem n hn).1
  rw [hall] at hfacing
  rw [← max_le_greatestBatch, ← hsize] at hroom
  have hunbroken := h.of_perm hordered.perm.symm
  rw [← hsize] at hunbroken
  exact ⟨_, hscan, hfacing.drain_of_unbroken hordered hkept hroom hunbroken hcalls⟩

theorem deliversAll_iff_unbroken (ht : t ∈ db.tables) (htable : db.table? name = some t)
    (hrowid : db.hasRowid schema name = true) (hkept : t.KeepsNumbers) (fetchSize : ℕ) :
    db.DeliversAll schema name fetchSize t ↔
      fetchSize ≤ greatestBatch ∧ t.Unbroken (max fetchSize 1) t.rows := by
  obtain ⟨ordered, hordered⟩ := exists_inOrder db t
  obtain ⟨c, calls, hsize, hcalls, hcrash, hscan, hfacing⟩ :=
    exists_scan_eq ht htable hrowid ordered fetchSize
  rw [← hordered.perm.length_eq] at hcalls
  constructor
  -- everything arrived: the scan cannot have skipped a row, nor have had too little room
  · rintro ⟨scan, hscan', hfailure, hperm⟩
    obtain rfl := Except.ok.inj (hscan.symm.trans hscan')
    have hlength := hperm.length_eq
    rw [List.length_map, ← hordered.perm.length_eq] at hlength
    have hmost := (hfacing.rows_drain_sublist hordered hkept calls).length_le
    rw [List.length_map] at hmost
    have hunbroken := hfacing.unbroken_of_drain hordered hkept hfailure (by
      rw [hlength]
      exact hfacing.sublist.length_le)
    rw [hsize, hfacing.sublist.eq_of_length_le (by omega)] at hunbroken
    refine ⟨?_, hunbroken.of_perm hordered.perm⟩
    -- too little room is a failure of the first call
    rw [← max_le_greatestBatch, ← hsize, ← Nat.not_lt]
    intro hroom
    obtain ⟨n, rfl⟩ := Nat.exists_eq_add_one_of_ne_zero (Nat.ne_of_gt (Nat.zero_lt_of_lt hcalls))
    rw [Cursor.drain_of_error (by rw [hcrash hroom])] at hfailure
    cases hfailure
  · rintro ⟨hroom, h⟩
    obtain ⟨scan, hscan', hfailure, hrows⟩ := scan_of_unbroken hordered ht htable hrowid hkept hroom h
    exact ⟨scan, hscan', hfailure, hrows ▸ hordered.perm.map _⟩

/-- A scan of a table by its row numbers never repeats a row, but it can lose some where a column takes
the place of the numbers. All rows arrive if and only if there is room for the number of rows that are
fetched at a time, their numbers are whole and rows that share one share a page; so they do with every
number of rows that there is room for if and only if the numbers are whole and no two of them the same,
which they are in a table without such a column. -/
theorem deliversAll_iff (hdb : db.WellDeclared) (ht : t ∈ db.tables)
    (hwithout : t.declaration.withoutRowid = false) (hkept : t.KeepsNumbers) :
    (∀ fetchSize, ∃ scan, db.scan "main" t.declaration.name fetchSize = .ok scan ∧
      ∃ read : List StoredRow, read.Subperm t.rows ∧ scan.rows = read.map t.scanned) ∧
    (∀ fetchSize, db.DeliversAll "main" t.declaration.name fetchSize t ↔
      fetchSize ≤ greatestBatch ∧ t.Unbroken (max fetchSize 1) t.rows) ∧
    ((∀ fetchSize ≤ greatestBatch, db.DeliversAll "main" t.declaration.name fetchSize t) ↔
      (∀ r ∈ t.rows, ∃ n, t.rowidCell r = .integer n) ∧ (t.rows.map t.rowidCell).Nodup) ∧
    (StoredTable.shadowColumn? t.declaration = none → (t.rows.map (·.rowid)).Nodup →
      ∀ fetchSize ≤ greatestBatch, db.DeliversAll "main" t.declaration.name fetchSize t) := by
  have hname : sameName t.declaration.name t.declaration.name := beq_self_eq_true _
  have htable := table?_eq hdb ht hname
  have hrowid := (hasRowid_eq_true_iff hdb ht hname).2 ⟨rfl, rfl, hwithout⟩
  have hevery : (∀ fetchSize ≤ greatestBatch,
      db.DeliversAll "main" t.declaration.name fetchSize t) ↔
      (∀ r ∈ t.rows, ∃ n, t.rowidCell r = .integer n) ∧ (t.rows.map t.rowidCell).Nodup := by
    simp only [deliversAll_iff_unbroken ht htable hrowid hkept]
    rw [← StoredTable.unbroken_one_iff]
    -- one row at a time is the hardest
    exact ⟨fun h => (h 1 (by decide)).2, fun h fetchSize hroom => ⟨hroom, h.of_one _⟩⟩
  refine ⟨scan_sublist ht htable hrowid hkept, deliversAll_iff_unbroken ht htable hrowid hkept, hevery, ?_⟩
  intro hshadow hnodup
  have hnumber : ∀ r, t.rowidCell r = .integer r.rowid := fun r => by
    rw [StoredTable.rowidCell, hshadow]
  refine hevery.2 ⟨fun r _ => ⟨_, hnumber r⟩, ?_⟩
  have hcells : t.rows.map t.rowidCell = (t.rows.map (·.rowid)).map Cell.integer := by
    rw [List.map_map]
    exact List.map_congr_left fun r _ => hnumber r
  rw [hcells]
  exact hnodup.map fun _ _ => Cell.integer.inj

/-! ### A sample

Parcels have a column that bears the name of the row numbers. Two of the three have the same number: on a
page of two or three they stand together, and read one by one the second of them is passed over. -/

/-- The first parcel. -/
def firstParcel : StoredRow := ⟨1, [.integer 1, .text "a"]⟩

/-- The second parcel, of the same number. -/
def secondParcel : StoredRow := ⟨2, [.integer 1, .text "b"]⟩

/-- The third parcel. -/
def thirdParcel : StoredRow := ⟨3, [.integer 2, .null]⟩

def parcels : StoredTable where
  declaration := ⟨"parcel", [⟨"rowid", "INTEGER", false⟩, ⟨"note", "TEXT", false⟩], [], [], [], false⟩
  rows := [firstParcel, secondParcel, thirdParcel]

def parcelDatabase : Database := ⟨[parcels], [], []⟩

/-- The parcels come about by insertions. -/
example : ([[.integer 1, .text "a"], [.integer 1, .text "b"], [.integer 2, .null]].foldl
    StoredTable.insert (.empty parcels.declaration)).rows = parcels.rows := by decide +kernel

theorem wellDeclared_parcelDatabase : parcelDatabase.WellDeclared where
  names_apart := by decide
  declarable := by
    intro t ht
    obtain rfl := List.mem_singleton.1 ht
    exact ⟨by decide, by decide +kernel⟩

theorem rowidCell_parcels : ∀ r ∈ parcels.rows,
    parcels.rowidCell r = .integer 1 ∨ parcels.rowidCell r = .integer 2 := by decide +kernel

theorem whole_parcels : ∀ r ∈ parcels.rows, ∃ n, parcels.rowidCell r = .integer n := by
  intro r hr
  rcases rowidCell_parcels r hr with h | h
  · exact ⟨1, h⟩
  · exact ⟨2, h⟩

theorem keepsNumbers_parcels : parcels.KeepsNumbers where
  kept := by decide +kernel
  inInt64 := by
    intro r hr n hn
    rcases rowidCell_parcels r hr with h | h <;> obtain rfl := Cell.integer.inj (hn.symm.trans h) <;>
      decide

theorem inOrder_parcels : parcelDatabase.InOrder parcels parcels.rows where
  perm := .refl _
  ascending := by
    unfold StoredTable.CalledLE
    decide +kernel
  numberedRows_eq := by
    have hstored : parcels.ordered = parcels.rows := List.mergeSort_of_pairwise (by decide)
    have hindex : (parcelDatabase.latestIndex parcels.declaration fun columns =>
        columns.head?.any (StoredTable.shadowColumn? parcels.declaration == some ·)) = [] := by
      decide +kernel
    have hsorted : StoredTable.sortBy [] parcels.rows = parcels.rows :=
      List.mergeSort_of_pairwise (by decide)
    rw [numberedRows, hindex, hstored, hsorted]
    exact List.mergeSort_of_pairwise (by decide +kernel)

theorem deliversAll_iff_sample :
    parcelDatabase.DeliversAll "main" "parcel" 2 parcels ∧
      ¬parcelDatabase.DeliversAll "main" "parcel" 1 parcels := by
  obtain ⟨-, hevery, -, -⟩ := deliversAll_iff wellDeclared_parcelDatabase List.mem_cons_self rfl
    keepsNumbers_parcels
  refine ⟨(hevery 2).2 ⟨by decide, whole_parcels, by decide +kernel⟩, fun h => ?_⟩
  have hshare := ((hevery 1).1 h).2.shareAPage
  revert hshare
  decide +kernel

/-- Read one by one, the parcels lose their second without a failure. -/
theorem scan_parcels_one_by_one : parcelDatabase.scan "main" "parcel" 1 =
    .ok ⟨[[parcels.scanned firstParcel], [parcels.scanned thirdParcel]], none⟩ ∧
    ¬parcelDatabase.DeliversAll "main" "parcel" 1 parcels := by
  let cursor (next : ℤ) : Cursor := ⟨"parcel", 1, Nat.one_pos, .byNumber next, false⟩
  have htable : parcelDatabase.table? "parcel" = some parcels :=
    table?_eq wellDeclared_parcelDatabase List.mem_cons_self (beq_self_eq_true _)
  have hroom : 1 ≤ greatestBatch := by decide
  -- one call on a page of a single row, from any number on
  have hbatch : ∀ {next n : ℤ} {r : StoredRow},
      (parcels.rows.filter fun q => reaches parcels next (parcels.called q)).take 1 = [r] →
      parcels.rowidCell r = .integer n → n ≠ Number.greatestInt64 →
      (cursor next).nextBatch parcelDatabase = (.ok (some [parcels.scanned r]), cursor (n + 1)) := by
    intro next n r hpage hn hgreatest
    have hlast : lastNumber? ([r].map parcels.called) = .ok (some n) := by
      simp [lastNumber?, wholeNumber, StoredTable.called, hn, Except.map, bind, Except.bind, pure,
        Except.pure]
    have hcall := Cursor.nextBatch_byNumber (c := cursor next) hroom inOrder_parcels rfl rfl htable hpage
    simp only [hlast, Option.bind_some, following?, if_neg hgreatest] at hcall
    exact hcall
  have hfirst : (cursor Number.leastInt64).nextBatch parcelDatabase =
      (.ok (some [parcels.scanned firstParcel]), cursor 2) :=
    hbatch (n := 1) (by decide +kernel) (by decide +kernel) (by decide)
  have hsecond : (cursor 2).nextBatch parcelDatabase =
      (.ok (some [parcels.scanned thirdParcel]), cursor 3) :=
    hbatch (n := 2) (by decide +kernel) (by decide +kernel) (by decide)
  have hnone : (parcels.rows.filter fun q => reaches parcels 3 (parcels.called q)).take 1 = [] := by
    decide +kernel
  have hthird : (cursor 3).nextBatch parcelDatabase = (.ok none, { cursor 3 with done := true }) :=
    Cursor.nextBatch_byNumber (c := cursor 3) hroom inOrder_parcels rfl rfl htable hnone
  have hscan : parcelDatabase.scan "main" "parcel" 1 =
      .ok ⟨[[parcels.scanned firstParcel], [parcels.scanned thirdParcel]], none⟩ := by
    show Except.ok ((cursor Number.leastInt64).drain parcelDatabase 4) = _
    rw [Cursor.drain_of_batch (by rw [hfirst]), hfirst, Cursor.drain_of_batch (by rw [hsecond]), hsecond,
      Cursor.drain_of_end (by rw [hthird])]
  refine ⟨hscan, ?_⟩
  rintro ⟨scan, hscan', -, hperm⟩
  obtain rfl := Except.ok.inj (hscan.symm.trans hscan')
  exact absurd hperm.length_eq (by decide)

end Database

end FixturePlan
