import FixturePlan.Planner
import FixturePlan.Proofs.Entity.Batches
import FixturePlan.Proofs.Run

/-!
# Batches are invisible

How a source cuts the rows of a table into batches is its own affair. Two sources that deliver the same
rows (`Scan.Alike`) give the same entities, under the same labels, or the same error. So a plan does not
depend on the number of rows that are fetched at a time (`Extractor.batching_invisible`).
-/

namespace FixturePlan

/-- Answers to requests for rows that deliver alike: both are refusals for the same reason, or both are
scans of the same rows, each under the names reported with it, that end alike. The batches may be cut
anywhere. -/
inductive Scan.Alike : Except SourceError Scan → Except SourceError Scan → Prop
  | refused (cause : SourceError) : Scan.Alike (.error cause) (.error cause)
  | scanned {a b : Scan} (rows : a.rows = b.rows) (failure : a.failure = b.failure) :
      Scan.Alike (.ok a) (.ok b)

/-- A planner that fetches another number of rows at a time. -/
def Planner.withFetchSize (p : Planner) (n : Nat) : Planner :=
  { p with settings := { p.settings with extract := { p.settings.extract with fetchSize := n } } }

namespace Extractor

/-- What a source answers to the request for the rows of a table. -/
def answer (x : Extractor) (t : Table) : Except SourceError Scan :=
  x.source.scan (x.request t).schema (x.request t).table (x.request t).fetchSize

/-- Add the entities of one table, whatever has been requested for them. -/
def addTable (x : Extractor) (before : EntitySet) (id : TableId) : Pass ExtractError EntitySet :=
  match x.schema.table? id with
  | none => .done before
  | some t =>
    match x.tableEntities t with
    | ⟨ws, .error e⟩ => ⟨before, ws, some e⟩
    | ⟨ws, .ok found⟩ => ⟨found.foldl EntitySet.push before, ws, none⟩

variable {x y : Extractor}

theorem mapState_extractTable (done : Extraction) (id : TableId) :
    (x.extractTable done id).mapState (·.entities) = x.addTable done.entities id := by
  rw [extractTable_eq, addTable]
  cases x.schema.table? id with
  | none => rfl
  | some t =>
    generalize htable : x.tableEntities t = r
    obtain ⟨ws, result⟩ := r
    cases result with
    | error e => simp only [htable, Pass.mapState]
    | ok found => simp only [htable, Pass.mapState]

theorem mapState_extract (x : Extractor) (order : List TableId) :
    (x.extract order).mapState (·.entities) = Pass.run x.addTable ∅ order :=
  Pass.mapState_run (fun done id (_ : True) => ⟨mapState_extractTable done id, trivial⟩) trivial order

/-- Nothing but the rows and the end of a scan counts. -/
theorem tableEntities_eq (t : Table) :
    x.tableEntities t =
      match x.answer t with
      | .error cause => .fail (.source cause)
      | .ok scan =>
        (x.rowEntities t scan.rows).andThen fun found =>
          match scan.failure with
          | some cause => .fail (.source cause)
          | none => .value found := by
  show ((Report.ofExcept (x.answer t)).mapError ExtractError.source).andThen _ = _
  cases x.answer t with
  | error cause => rfl
  | ok scan => exact Report.andThen_value scan _

theorem tableEntities_congr {t : Table} (hschema : x.schema = y.schema)
    (hstrategies : x.strategies = y.strategies) (h : Scan.Alike (x.answer t) (y.answer t)) :
    x.tableEntities t = y.tableEntities t := by
  have hrows : ∀ rows, x.rowEntities t rows = y.rowEntities t rows := by
    intro rows
    cases rows with
    | nil => rfl
    | cons first rest => rw [rowEntities, rowEntities, hschema, hstrategies]
  rw [tableEntities_eq, tableEntities_eq]
  generalize x.answer t = answered, y.answer t = answered' at h
  cases h with
  | refused cause => rfl
  | @scanned a b hab hfailure => simp only [hrows, hab, hfailure]

/-- Extraction sees of two sources only whether the listed tables are delivered alike. -/
theorem mapState_extract_congr {order : List TableId} (hschema : x.schema = y.schema)
    (hstrategies : x.strategies = y.strategies)
    (h : ∀ id ∈ order, ∀ t, x.schema.table? id = some t → Scan.Alike (x.answer t) (y.answer t)) :
    (x.extract order).mapState (·.entities) = (y.extract order).mapState (·.entities) := by
  rw [mapState_extract, mapState_extract]
  refine Pass.run_congr ?_ ∅
  intro id hid before
  rw [addTable, addTable, ← hschema]
  cases ht : x.schema.table? id with
  | none => rfl
  | some t => simp only [tableEntities_congr hschema hstrategies (h id hid t ht)]

end Extractor

namespace Planner

variable {p : Planner} {source : Source} {n : Nat}

theorem plan_withFetchSize {s : Schema} (joins : JoinShapes) (decide : Decider)
    (h : ∀ t ∈ s.tables, Scan.Alike (((p.withFetchSize n).extractor source s).answer t)
      ((p.extractor source s).answer t)) :
    (p.withFetchSize n).plan source s joins decide = p.plan source s joins decide := by
  refine Report.andThen_congr fun order _ => ?_
  have hextract : (((p.withFetchSize n).extractor source s).extract order).mapState (·.entities) =
      ((p.extractor source s).extract order).mapState (·.entities) :=
    Extractor.mapState_extract_congr rfl rfl fun id _ t ht => h t (Schema.mem_tables_iff.2 ⟨id, ht⟩)
  exact Pass.andThen_toReport_congr hextract RunError.extract fun entities =>
    ((entities.resolve s p.settings.resolve.unresolvedRequired).toReport.mapError
      RunError.resolve).andThen fun resolved =>
        (Plan.build s joins resolved.entities decide).mapError RunError.plan

/-- Whether the tables of the inspected schema arrive alike when `n` rows are fetched at a time. -/
def FetchesAlike (p : Planner) (source : Source) (n : Nat) : Prop :=
  ∀ s joins, (p.inspect source).result = .ok (s, joins) → ∀ t ∈ s.tables,
    Scan.Alike (((p.withFetchSize n).extractor source s).answer t)
      ((p.extractor source s).answer t)

theorem run_withFetchSize (h : p.FetchesAlike source n) (decide : Decider) :
    (p.withFetchSize n).run source decide = p.run source decide :=
  Report.andThen_congr fun (s, joins) hs => plan_withFetchSize joins decide (h s joins hs)

theorem runConfigured_withFetchSize (h : p.FetchesAlike source n) :
    (p.withFetchSize n).runConfigured source = p.runConfigured source :=
  Report.andThen_congr fun (s, joins) hs => Report.andThen_congr fun rules _ =>
    plan_withFetchSize joins rules.decide (h s joins hs)

/-- Sources that deliver the listed tables alike give the same entities and the same end, and a run does
not depend on how many rows are fetched at a time. -/
theorem batching_invisible :
    (∀ (x y : Extractor) (order : List TableId),
      x.schema = y.schema → x.strategies = y.strategies →
      (∀ id ∈ order, ∀ t, x.schema.table? id = some t → Scan.Alike (x.answer t) (y.answer t)) →
        (x.extract order).state.entities = (y.extract order).state.entities ∧
        (x.extract order).warnings = (y.extract order).warnings ∧
        (x.extract order).failure = (y.extract order).failure) ∧
    ∀ (p : Planner) (source : Source) (n : Nat), p.FetchesAlike source n →
      (∀ decide, (p.withFetchSize n).run source decide = p.run source decide) ∧
        (p.withFetchSize n).runConfigured source = p.runConfigured source := by
  refine ⟨?_, ?_⟩
  · intro x y order hschema hstrategies h
    exact Pass.mk.inj (Extractor.mapState_extract_congr hschema hstrategies h)
  · intro p source n h
    exact ⟨run_withFetchSize h, runConfigured_withFetchSize h⟩

/-! ### A sample

The sample of `Extractor`, whose tables have no primary keys, from a source that sends every row alone,
between empty batches, when one row is fetched at a time. -/

open Extractor (sampleSource sampleExtractor)

/-- The scan of the sample, cut by the number of rows that are fetched at a time. -/
def sampleScan (table : String) (fetchSize : Nat) : Scan :=
  let rows : List Row :=
    if table = "city" then [⟨["country", "name"], [.text "it", .text "rome"]⟩]
    else [⟨["country", "city"], [.text "it", .text "rome"]⟩,
      ⟨["country", "city"], [.text "it", .null]⟩]
  ⟨if fetchSize = 1 then [] :: rows.flatMap fun row => [[row], []] else [rows], none⟩

/-- The sample, cut by the number of rows that are fetched at a time. -/
def sampleCut : Source :=
  { sampleSource with scan := fun _ table fetchSize => .ok (sampleScan table fetchSize) }

theorem alike_sampleScan (table : String) (m n : Nat) :
    Scan.Alike (.ok (sampleScan table m)) (.ok (sampleScan table n)) := by
  have hrows : ∀ k, (sampleScan table k).rows = (sampleScan table 2).rows := by
    intro k
    unfold sampleScan
    by_cases hk : k = 1
    · by_cases htable : table = "city" <;> simp [Scan.rows, hk, htable]
    · simp [Scan.rows, hk]
  exact .scanned ((hrows m).trans (hrows n).symm) rfl

/-- What extracts the sample, some rows at a time. -/
def sampleCutExtractor (fetchSize : Nat) : Extractor :=
  ⟨sampleExtractor.schema, sampleCut, sampleExtractor.strategies, fetchSize⟩

/-- Rows are numbered through, past the empty batches. -/
theorem batching_invisible_sample :
    ((sampleCutExtractor 1).extract [0, 1]).state.entities =
        ((sampleCutExtractor 2).extract [0, 1]).state.entities ∧
      ((sampleCutExtractor 1).extract [0, 1]).state.entities.toList.map (·.label) =
        ["visit[#1]", "visit[#2]", "city[#1]"] ∧
      (samplePlanner.inspect sampleCut).result =
        .ok (Extractor.sampleSchema, Extractor.sampleSchema.joinShapes .verbatim) ∧
      (samplePlanner.withFetchSize 1).runConfigured sampleCut =
        samplePlanner.runConfigured sampleCut := by
  have hentities := (batching_invisible.1 (sampleCutExtractor 1) (sampleCutExtractor 2) [0, 1] rfl rfl
    fun _ _ t _ => alike_sampleScan _ _ _).1
  refine ⟨hentities, by decide, result_inspect_samplePlanner, ?_⟩
  exact (batching_invisible.2 samplePlanner sampleCut 1 fun _ _ _ t _ => alike_sampleScan _ _ _).2

end Planner

end FixturePlan
