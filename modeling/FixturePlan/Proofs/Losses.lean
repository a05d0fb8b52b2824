import FixturePlan.Proofs.Plan.Losses
import FixturePlan.Proofs.Run

/-!
# No link disappears in silence

The losses of a run are those of its resolution and of its inclusion, and each of these passes reports
its own (`EntitySet.reportedChange_resolve`, `Included.reportedChange_applyInclusion`). The other stages
warn of other things (`Report.WarnsOnly`), so that the warnings of a run about lost links are one for each
link that extraction has found and the plan has not (`losses_reported`).
-/

namespace FixturePlan

/-- Whether a warning is about a link that is removed or marked. -/
def Warning.isLoss : Warning → Bool
  | .optionalUnmatched .. => true
  | .requiredUnmatched .. => true
  | .optionalCleared .. => true
  | .foreignKeyDropped .. => false
  | .unnamedColumn .. => false
  | .tableCycle => false
  | .readUnquoted .. => false

namespace EntitySet.LossesReported

variable {before after : EntitySet} {reports : LinkPlace → Warning → Prop} {ws : List Warning}

theorem filter_isLoss (h : before.LossesReported after reports ws)
    (hreports : ∀ place w, reports place w → w.isLoss = true) : ws.filter (·.isLoss) = ws := by
  obtain ⟨lost, -, -, hws⟩ := h
  induction hws with
  | nil => rfl
  | cons hplace _ ih => rw [List.filter_cons_of_pos (hreports _ _ hplace), ih]

theorem exists_warning (h : before.LossesReported after reports ws) {place : LinkPlace}
    (hlost : before.Lost after place) : ∃ w ∈ ws, reports place w := by
  obtain ⟨lost, -, hmem, hws⟩ := h
  obtain ⟨i, hi⟩ := List.mem_iff_getElem?.1 ((hmem place).2 hlost)
  obtain ⟨w, hw, hreports⟩ := exists_getElem?_of_forall₂ hws hi
  exact ⟨w, List.mem_of_getElem? hw, hreports⟩

end EntitySet.LossesReported

theorem Resolving.ReportsUnmatched.isLoss {schema : Schema} {s : EntitySet} {place : LinkPlace}
    {w : Warning} (h : ReportsUnmatched schema s place w) : w.isLoss = true := by
  cases h <;> rfl

theorem Included.ReportsCleared.isLoss {s : EntitySet} {place : LinkPlace} {w : Warning}
    (h : ReportsCleared s place w) : w.isLoss = true := by
  cases h
  rfl

/-- A stage that has no losses to report leaves them to what follows it. -/
theorem Report.WarnsOnly.filter_isLoss_andThen {ε α β : Type} {r : Report ε α}
    {f : α → Report ε β} {a : α} (h : r.WarnsOnly (·.isLoss = false)) (ha : r.result = .ok a) :
    (r.andThen f).warnings.filter (·.isLoss) = (f a).warnings.filter (·.isLoss) := by
  have hnone : r.warnings.filter (·.isLoss) = [] := by
    rw [List.filter_eq_nil_iff]
    intro w hw
    simp [h w hw]
  rw [Report.warnings_andThen ha, List.filter_append, hnone, List.nil_append]

/-! ### Stages without losses

Only resolution and inclusion warn about links. The warnings of all other stages are of other kinds, and a
filter takes them out. -/

namespace Schema

theorem warnsOnly_loadTable (source : Source) (entry : TableInfo × TableId) :
    (loadTable source entry).WarnsOnly (·.isLoss = false) := by
  refine .andThen ?_ ?_
  · refine .andThen (.of_silent rfl) ?_
    intro columns _ w hw
    obtain ⟨_, -, rfl⟩ := List.mem_map.1 hw
    rfl
  · intro columns _
    refine .andThen ?_ fun _ _ => .of_silent rfl
    exact .andThen (.of_silent rfl) fun _ _ => .of_silent rfl

theorem warnsOnly_attach (s : Schema) (specs : List KeySpec) :
    (s.attach specs).toReport.WarnsOnly (·.isLoss = false) := by
  apply Pass.warnsOnly_run
  intro a spec w hw
  unfold attachOne at hw
  split at hw
  · obtain rfl := List.mem_singleton.1 hw
    rfl
  · split at hw <;> cases hw

theorem warnsOnly_loadAllKeys (source : Source) (s : Schema) (infos : List TableInfo) :
    (loadAllKeys source s infos).WarnsOnly (·.isLoss = false) := by
  induction infos generalizing s with
  | nil => exact .of_silent rfl
  | cons info rest ih =>
    refine .andThen ?_ fun s' _ => ih s'
    refine .andThen (.of_silent rfl) fun rows _ => ?_
    exact (warnsOnly_attach s _).andThen fun _ _ => .of_silent rfl

theorem warnsOnly_build (source : Source) (exclude : List Text.Pattern) (name : String) :
    (build source exclude name).WarnsOnly (·.isLoss = false) := by
  refine .andThen (.of_silent rfl) fun infos _ => ?_
  split
  · exact .of_silent rfl
  · refine .andThen (.mapList (warnsOnly_loadTable source) _) fun tables _ => ?_
    refine .andThen (warnsOnly_loadAllKeys source _ infos) fun s _ => ?_
    exact .andThen (.of_silent rfl) fun _ _ => .of_silent rfl

end Schema

theorem ColumnMap.warnsOnly_locate (t : Table) (reported : List String) (name : String) :
    (locate t reported name).WarnsOnly (·.isLoss = false) := by
  intro w hw
  unfold locate at hw
  split at hw
  · cases hw
  · simp only at hw
    split at hw
    · obtain rfl := List.mem_singleton.1 hw
      rfl
    · cases hw

namespace Extractor

theorem warnsOnly_rowEntities (x : Extractor) (t : Table) (rows : List Row) :
    (x.rowEntities t rows).WarnsOnly (·.isLoss = false) := by
  cases rows with
  | nil => exact .of_silent rfl
  | cons first rest =>
    refine .andThen ?_ fun _ _ => .of_silent rfl
    exact .andThen (.mapList (fun c => ColumnMap.warnsOnly_locate t _ _) _) fun _ _ => .of_silent rfl

theorem warnsOnly_tableEntities (x : Extractor) (t : Table) :
    (x.tableEntities t).WarnsOnly (·.isLoss = false) := by
  refine .andThen (.of_silent rfl) fun scan _ => ?_
  refine .andThen (x.warnsOnly_rowEntities t _) fun found _ => ?_
  split <;> exact .of_silent rfl

theorem warnsOnly_extract (x : Extractor) (order : List TableId) :
    (x.extract order).toReport.WarnsOnly (·.isLoss = false) := by
  apply Pass.warnsOnly_run
  intro done id w hw
  rw [extractTable_eq] at hw
  split at hw
  · cases hw
  · next t _ =>
    split at hw
    · next heq => exact x.warnsOnly_tableEntities t w (heq ▸ hw)
    · next heq => exact x.warnsOnly_tableEntities t w (heq ▸ hw)

end Extractor

namespace Planner

variable {p : Planner} {source : Source} {decide : Decider} {plan : Plan}

theorem warnsOnly_inspect (p : Planner) (source : Source) :
    (p.inspect source).WarnsOnly (·.isLoss = false) := by
  refine .andThen (.of_silent rfl) fun exclude _ => ?_
  exact .andThen (Schema.warnsOnly_build source exclude _) fun _ _ => .of_silent rfl

theorem warnsOnly_extractionOrder (p : Planner) (s : Schema) :
    (p.extractionOrder s).WarnsOnly (·.isLoss = false) := by
  unfold extractionOrder
  split
  · intro w hw
    change w ∈ s.creationWarnings at hw
    unfold Schema.creationWarnings at hw
    split at hw
    · obtain rfl := List.mem_singleton.1 hw
      rfl
    · cases hw
  · exact .of_silent rfl

/-- The warnings of a run about lost links are those of its resolution and of its inclusion. -/
theorem filter_isLoss_run {s : Schema} {joins : JoinShapes} {order : List TableId}
    (hinspect : (p.inspect source).result = .ok (s, joins))
    (horder : (p.extractionOrder s).result = .ok order)
    (hextract : ((p.extractor source s).extract order).failure = none)
    (hresolve : (((p.extractor source s).extract order).state.entities.resolve s
      p.settings.resolve.unresolvedRequired).failure = none) :
    (p.run source decide).warnings.filter (·.isLoss) =
      ((((p.extractor source s).extract order).state.entities.resolve s
        p.settings.resolve.unresolvedRequired).warnings ++
        (Plan.build s joins (((p.extractor source s).extract order).state.entities.resolve s
          p.settings.resolve.unresolvedRequired).state.entities decide).warnings).filter
            (·.isLoss) := by
  have hextraction : ((p.extractor source s).extract order).toReport.WarnsOnly (·.isLoss = false) :=
    (p.extractor source s).warnsOnly_extract order
  refine ((p.warnsOnly_inspect source).filter_isLoss_andThen hinspect).trans ?_
  refine ((p.warnsOnly_extractionOrder s).filter_isLoss_andThen horder).trans ?_
  refine (hextraction.mapError.filter_isLoss_andThen (Report.result_mapError_eq_ok_iff.2
    (Pass.result_toReport_eq_ok_iff.2 ⟨hextract, rfl⟩))).trans ?_
  rw [Report.warnings_andThen (Report.result_mapError_eq_ok_iff.2
    (Pass.result_toReport_eq_ok_iff.2 ⟨hresolve, rfl⟩))]
  rfl

end Planner

/-! ### The law

The losses of a run are those of its two stages, one after the other. -/

/-- A warning names the entity of a link that a run loses, and the attribute or the key. -/
def ReportsLoss (schema : Schema) (s : EntitySet) (place : LinkPlace) (w : Warning) : Prop :=
  Resolving.ReportsUnmatched schema s place w ∨ Included.ReportsCleared s place w

/-- **No link disappears in silence.** A resolution pass warns exactly once about each placeholder that
it removes or marks, an inclusion pass exactly once about each optional link that it removes, and
neither warns about anything else. What a plan has lost of the extracted links are these losses and no
others: the warnings of the run about losses are one for each of them. -/
theorem losses_reported :
    (∀ (schema : Schema) (policy : UnresolvedPolicy) (s : EntitySet),
      s.LossesReported (s.resolve schema policy).state.entities
        (Resolving.ReportsUnmatched schema s) (s.resolve schema policy).warnings) ∧
    (∀ (s : EntitySet) (order : List EntityId) (decide : Decider),
      s.LossesReported (s.applyInclusion order decide).state.entities
        (Included.ReportsCleared s) (s.applyInclusion order decide).warnings) ∧
    ∀ (p : Planner) (source : Source) (decide : Decider) (plan : Plan),
      (p.run source decide).result = .ok plan →
      ∃ schema joins order, (p.inspect source).result = .ok (schema, joins) ∧
        (p.extractionOrder schema).result = .ok order ∧
        let extracted := ((p.extractor source schema).extract order).state.entities
        extracted.LossesReported plan.entities (ReportsLoss schema extracted)
          ((p.run source decide).warnings.filter (·.isLoss)) := by
  refine ⟨?_, ?_, ?_⟩
  · intro schema policy s
    exact (s.reportedChange_resolve schema policy).losses
  · intro s order decide
    exact (Included.reportedChange_applyInclusion s order decide).losses
  · intro p source decide plan h
    obtain ⟨schema, joins, order, hinspect, horder, hextract, hresolve, hplan⟩ :=
      Planner.result_run_eq_ok_iff.1 h
    refine ⟨schema, joins, order, hinspect, horder, ?_⟩
    rw [Planner.filter_isLoss_run hinspect horder hextract hresolve]
    -- the proof needs of the extraction only that it is the set the matching starts from
    generalize ((p.extractor source schema).extract order).state.entities = extracted at *
    have hmatching := extracted.reportedChange_resolve schema p.settings.resolve.unresolvedRequired
    have hinclusion := Plan.reportedChange_build hplan
    have hlabel : ∀ id, (extracted.resolve schema
        p.settings.resolve.unresolvedRequired).state.entities.label id = extracted.label id := by
      intro id
      apply EntitySet.label_eq_of_map_bare_eq
      exact EntitySet.map_bare_get?_of_rows_eq (EntitySet.rows_resolve schema _ extracted) id
    generalize extracted.resolve schema p.settings.resolve.unresolvedRequired = matched at *
    have hall : extracted.ReportedChange plan.entities (ReportsLoss schema extracted)
        (matched.warnings ++ (Plan.build schema joins matched.state.entities decide).warnings) := by
      refine (hmatching.mono fun _ _ => Or.inl).trans (hinclusion.mono ?_)
      -- warnings of the inclusion name entities as the matching left them, with the same label
      rintro _ _ ⟨id, name⟩
      rw [hlabel]
      exact Or.inr (.optional id name)
    rw [hall.losses.filter_isLoss fun place w hw => hw.elim (·.isLoss) (·.isLoss)]
    exact hall.losses

open Extractor (sampleSource sampleSchema)
open Planner (samplePlanner sampleDecider)

/-- The second visit of the sample is to no known city, and the run says so. -/
theorem losses_reported_sample :
    ∃ plan, (samplePlanner.run sampleSource sampleDecider).result = .ok plan ∧
      Warning.requiredUnmatched "visit[#2]" "at" "city[country=it]" ∈
        (samplePlanner.run sampleSource sampleDecider).warnings := by
  obtain ⟨plan, h, -, hmarked⟩ := Planner.exists_run_sample_marked
  refine ⟨plan, h, ?_⟩
  obtain ⟨schema, joins, order, hinspect, hextraction, hreported⟩ := losses_reported.2.2 _ _ _ _ h
  obtain ⟨rfl, -⟩ := Prod.mk.inj
    (Except.ok.inj (Planner.result_inspect_samplePlanner.symm.trans hinspect))
  obtain rfl : [0, 1] = order := Except.ok.inj hextraction
  obtain ⟨l, hl, hmissed⟩ := Option.map_eq_some_iff.1 hmarked
  have hlost : EntitySet.sampleVisits.Lost plan.entities ⟨1, .required 0⟩ :=
    .marked rfl rfl hl hmissed
  obtain ⟨w, hw, hreports⟩ := hreported.exists_warning hlost
  rcases hreports with hreports | hreports
  · cases hreports with
    | required was looked =>
      obtain rfl := Option.some.inj was
      obtain rfl := Reference.placeholder.inj looked
      exact (List.mem_filter.1 hw).1
  · cases hreports

end FixturePlan
