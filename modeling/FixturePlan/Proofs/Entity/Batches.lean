import FixturePlan.Entity.Extract
import FixturePlan.Proofs.Report

/-!
# Batches

Extraction reads a scan batch by batch. To read batches one after the other is to read one batch of all
their rows (`Extractor.readBatches_eq`): the columns are located by the first row of all, wherever it
stands, and rows are numbered through. So a table can be thought of as the list of its rows, and its
entities as found row by row before any is added to the set (`Extractor.readTable_eq`).
-/

namespace FixturePlan

namespace Report

variable {ε ε' α β γ : Type}

@[simp] theorem andThen_value (a : α) (f : α → Report ε β) : (value a).andThen f = f a := rfl

@[simp] theorem ofExcept_ok (a : α) : (ofExcept (.ok a) : Report ε α) = value a := rfl

theorem andThen_assoc (r : Report ε α) (f : α → Report ε β) (g : β → Report ε γ) :
    (r.andThen f).andThen g = r.andThen fun a => (f a).andThen g := by
  obtain ⟨ws, result⟩ := r
  cases result with
  | error e => rfl
  | ok a =>
    cases hf : (f a).result with
    | error e => simp [andThen, hf]
    | ok b => simp [andThen, hf]

theorem ofExcept_bind (r : Except ε α) (f : α → Except ε β) :
    (ofExcept (r >>= f) : Report ε β) = (ofExcept r).andThen fun a => ofExcept (f a) := by
  cases r <;> rfl

end Report

namespace Extract

/-- The entities of the rows of a table, which are numbered from 1. -/
def entities (s : Schema) (strategies : Strategies) (layout : Layout) (m : ColumnMap)
    (rows : List Row) : Except ExtractError (List Entity) :=
  mapOk (fun (r, i) => entity s strategies layout m r (i + 1)) rows.zipIdx

end Extract

namespace Extractor

variable (x : Extractor)

/-! ### Reading in one go

The columns are located with the first row. A batch that comes later is read by the same columns, and can
be joined to the one before it. -/

/-- The entities of the rows of a table. The names reported with the first row say where its columns
stand. -/
def rowEntities (t : Table) : List Row → Report ExtractError (List Entity)
  | [] => .value []
  | first :: rest =>
    (ColumnMap.ofReported t first.columns).andThen fun m =>
      .ofExcept (Extract.entities x.schema x.strategies
        (.ofTable x.schema x.strategies.naming t) m (first :: rest))

/-- The entities of a table, found before any is added. -/
def tableEntities (t : Table) : Report ExtractError (List Entity) :=
  let r := x.request t
  ((Report.ofExcept (x.source.scan r.schema r.table r.fetchSize)).mapError
      ExtractError.source).andThen fun scan =>
    (x.rowEntities t scan.rows).andThen fun found =>
      match scan.failure with
      | some cause => .fail (.source cause)
      | none => .value found

variable {x} {layout : Layout} {m : ColumnMap}

/-- The columns stay where they were located. -/
theorem columns_of_readRows {r r' : Reading} {rows : List Row}
    (h : x.readRows layout m r rows = .ok r') : r'.columns = r.columns := by
  induction rows generalizing r with
  | nil => rw [← Except.ok.inj h]
  | cons row rest ih =>
    rw [readRows] at h
    split at h
    · cases h
    · rw [ih h]

theorem readRows_append (r : Reading) (rows rows' : List Row) :
    x.readRows layout m r (rows ++ rows') =
      x.readRows layout m r rows >>= fun r' => x.readRows layout m r' rows' := by
  induction rows generalizing r with
  | nil => rfl
  | cons row rest ih =>
    rw [List.cons_append, readRows, readRows]
    split
    · rfl
    · exact ih _

theorem readBatch_of_columns {r : Reading} (hcolumns : r.columns = some m) (rows : List Row) :
    x.readBatch layout r rows = .ofExcept (x.readRows layout m r rows) := by
  obtain ⟨columns, count, entities⟩ := r
  obtain rfl : columns = some m := hcolumns
  cases rows <;> rfl

/-- One batch after another is both in one. -/
theorem readBatch_append (r : Reading) (rows rows' : List Row) :
    x.readBatch layout r (rows ++ rows') =
      (x.readBatch layout r rows).andThen fun r' => x.readBatch layout r' rows' := by
  cases rows with
  | nil => rfl
  | cons first rest =>
    rw [List.cons_append, readBatch, readBatch, Report.andThen_assoc]
    congr 1
    funext m
    rw [← List.cons_append, readRows_append, Report.ofExcept_bind]
    -- what comes after the first row finds the columns located
    cases hrows : x.readRows layout m { r with columns := some m } (first :: rest) with
    | error e => rfl
    | ok r' =>
      rw [Report.ofExcept_ok, Report.andThen_value, Report.andThen_value,
        readBatch_of_columns (columns_of_readRows hrows)]

theorem readBatches_eq (r : Reading) (batches : List (List Row)) :
    x.readBatches layout r batches = x.readBatch layout r batches.flatten := by
  induction batches generalizing r with
  | nil => rfl
  | cons batch rest ih =>
    rw [readBatches, List.flatten_cons, readBatch_append]
    congr 1
    funext r'
    exact ih r'

/-! ### Adding entities as they are found or in the end

Entities are added to the set as they are found. Where none fails this is the same as adding them in the
end, and after a failure the set of before is kept either way. -/

theorem readRows_eq (r : Reading) (rows : List Row) :
    x.readRows layout m r rows =
      (Extract.mapOk (fun (row, i) => Extract.entity x.schema x.strategies layout m row (i + 1))
        (rows.zipIdx r.count)).map fun found =>
          { r with count := r.count + rows.length, entities := found.foldl EntitySet.push r.entities } := by
  induction rows generalizing r with
  | nil => rfl
  | cons row rest ih =>
    simp only [readRows, List.zipIdx_cons, Extract.mapOk, ih]
    cases Extract.entity x.schema x.strategies layout m row (r.count + 1) with
    | error e => rfl
    | ok e =>
      cases Extract.mapOk (fun (row, i) => Extract.entity x.schema x.strategies layout m row (i + 1))
          (rest.zipIdx (r.count + 1)) with
      | error e => rfl
      | ok found => simp [Except.map, Nat.add_assoc, Nat.add_comm 1]

variable (x)

theorem readTable_eq (t : Table) (before : EntitySet) :
    x.readTable t before =
      (x.tableEntities t).andThen fun found => .value (found.foldl EntitySet.push before) := by
  simp only [readTable, tableEntities, readBatches_eq, Report.andThen_assoc]
  congr 1
  funext scan
  show (x.readBatch _ _ scan.rows).andThen _ = (x.rowEntities t scan.rows).andThen _
  cases scan.rows with
  | nil =>
    simp only [readBatch, rowEntities, Report.andThen_value]
    cases scan.failure <;> rfl
  | cons first rest =>
    rw [readBatch, rowEntities, Report.andThen_assoc, Report.andThen_assoc]
    congr 1
    funext m
    rw [readRows_eq, Extract.entities]
    cases Extract.mapOk (fun (row, i) => Extract.entity x.schema x.strategies
        (.ofTable x.schema x.strategies.naming t) m row (i + 1)) ((first :: rest).zipIdx 0) with
    | error e => rfl
    | ok found => cases scan.failure <;> rfl

/-- The rows of one table, with their entities found before any is added. -/
theorem extractTable_eq (done : Extraction) (id : TableId) :
    x.extractTable done id =
      match x.schema.table? id with
      | none => .done done
      | some t =>
        match x.tableEntities t with
        | ⟨ws, .error e⟩ => ⟨{ done with requests := done.requests ++ [x.request t] }, ws, some e⟩
        | ⟨ws, .ok found⟩ =>
          ⟨⟨found.foldl EntitySet.push done.entities, done.requests ++ [x.request t]⟩, ws, none⟩ := by
  unfold extractTable
  cases x.schema.table? id with
  | none => rfl
  | some t =>
    simp only [readTable_eq]
    generalize x.tableEntities t = r
    obtain ⟨ws, result⟩ := r
    cases result with
    | error e => rfl
    | ok found => simp [Report.andThen, Report.value]

end Extractor

end FixturePlan
