import FixturePlan.Report
import Mathlib.Data.List.Forall2

/-!
# When reports and passes succeed

A `Report` succeeds if and only if each of its stages does, and a `Pass` if and only if each of its
steps does. The state of a pass keeps what every step keeps, whether or not the pass succeeds
(`state_run_of_step`), and its warnings are of a kind if those of its stages are (`WarnsOnly`).
-/

namespace FixturePlan

/-- Lists that are related element by element are related at every position. -/
theorem exists_getElem?_of_forall₂ {α β : Type} {R : α → β → Prop} {as : List α} {bs : List β}
    (h : List.Forall₂ R as bs) {i : Nat} {a : α} (ha : as[i]? = some a) :
    ∃ b, bs[i]? = some b ∧ R a b := by
  induction h generalizing i with
  | nil => simp at ha
  | @cons a' b' as bs hab _ ih =>
    cases i with
    | zero =>
      obtain rfl : a' = a := by simpa using ha
      exact ⟨b', by simp, hab⟩
    | succ i => simpa using ih (by simpa using ha)

/-- A list is related to some other list if and only if each of its elements is to something. -/
theorem exists_forall₂_iff {α β : Type} {R : α → β → Prop} {as : List α} :
    (∃ bs, List.Forall₂ R as bs) ↔ ∀ a ∈ as, ∃ b, R a b := by
  induction as with
  | nil => simp
  | cons a rest ih =>
    rw [List.forall_mem_cons, ← ih]
    constructor
    · rintro ⟨_, h⟩
      obtain ⟨b, bs, hab, hbs, rfl⟩ := List.forall₂_cons_left_iff.1 h
      exact ⟨⟨b, hab⟩, bs, hbs⟩
    · rintro ⟨⟨b, hab⟩, bs, hbs⟩
      exact ⟨b :: bs, .cons hab hbs⟩

namespace Report

variable {ε ε' α β σ : Type}

@[simp] theorem result_value (a : α) : (value a : Report ε α).result = .ok a := rfl

@[simp] theorem result_fail (e : ε) : (fail e : Report ε α).result = .error e := rfl

@[simp] theorem result_ofExcept (r : Except ε α) : (ofExcept r).result = r := rfl

theorem result_andThen_eq_ok_iff {r : Report ε α} {f : α → Report ε β} {b : β} :
    (r.andThen f).result = .ok b ↔ ∃ a, r.result = .ok a ∧ (f a).result = .ok b := by
  unfold andThen
  cases r.result with
  | error e => simp
  | ok a => simp

theorem result_mapError_eq_ok_iff {f : ε → ε'} {r : Report ε α} {a : α} :
    (r.mapError f).result = .ok a ↔ r.result = .ok a := by
  unfold mapError
  cases r.result with
  | error e => simp [Except.mapError]
  | ok b => simp [Except.mapError]

theorem result_mapList_eq_ok_iff {f : α → Report ε β} {as : List α} {bs : List β} :
    (mapList f as).result = .ok bs ↔ List.Forall₂ (fun a b => (f a).result = .ok b) as bs := by
  induction as generalizing bs with
  | nil => cases bs <;> simp [mapList]
  | cons a rest ih =>
    simp only [mapList, result_andThen_eq_ok_iff, result_value, Except.ok.injEq, ih,
      List.forall₂_cons_left_iff]
    constructor
    · rintro ⟨b, hb, others, hothers, rfl⟩
      exact ⟨b, others, hb, hothers, rfl⟩
    · rintro ⟨b, others, hb, hothers, rfl⟩
      exact ⟨b, hb, others, hothers, rfl⟩

/-- Reports that continue alike with the value that they would continue with are the same report. -/
theorem andThen_congr {r : Report ε α} {f g : α → Report ε β}
    (h : ∀ a, r.result = .ok a → f a = g a) : r.andThen f = r.andThen g := by
  unfold andThen
  cases hr : r.result with
  | error e => rfl
  | ok a => simp only [h a hr]

theorem warnings_andThen {r : Report ε α} {f : α → Report ε β} {a : α} (h : r.result = .ok a) :
    (r.andThen f).warnings = r.warnings ++ (f a).warnings := by
  rw [andThen, h]

/-- All warnings of a report are of a certain kind. -/
def WarnsOnly (P : Warning → Prop) (r : Report ε α) : Prop := ∀ w ∈ r.warnings, P w

theorem warnings_eq_nil_iff {r : Report ε α} : r.warnings = [] ↔ r.WarnsOnly fun _ => False :=
  List.eq_nil_iff_forall_not_mem

namespace WarnsOnly

variable {P : Warning → Prop}

theorem of_silent {r : Report ε α} (h : r.warnings = []) : r.WarnsOnly P := by
  intro w hw
  rw [h] at hw
  cases hw

theorem mapError {r : Report ε α} (h : r.WarnsOnly P) {f : ε → ε'} :
    (r.mapError f).WarnsOnly P := h

theorem andThen {r : Report ε α} {f : α → Report ε β} (h : r.WarnsOnly P)
    (hf : ∀ a, r.result = .ok a → (f a).WarnsOnly P) : (r.andThen f).WarnsOnly P := by
  intro w hw
  cases hr : r.result with
  | error e =>
    rw [Report.andThen, hr] at hw
    exact h w hw
  | ok a =>
    rw [warnings_andThen hr] at hw
    rcases List.mem_append.1 hw with hw | hw
    · exact h w hw
    · exact hf a hr w hw

theorem mapList {f : α → Report ε β} (hf : ∀ a, (f a).WarnsOnly P) (as : List α) :
    (mapList f as).WarnsOnly P := by
  induction as with
  | nil => exact .of_silent rfl
  | cons a rest ih => exact (hf a).andThen fun _ _ => ih.andThen fun _ _ => .of_silent rfl

end WarnsOnly

theorem warnings_andThen_eq_nil {r : Report ε α} {f : α → Report ε β} (h : r.warnings = [])
    (hf : ∀ a, r.result = .ok a → (f a).warnings = []) : (r.andThen f).warnings = [] := by
  simp only [warnings_eq_nil_iff] at *
  exact h.andThen hf

/-- Steps that are all silent make no warnings together. -/
theorem warnings_mapList_eq_nil {f : α → Report ε β} (hf : ∀ a, (f a).warnings = [])
    (as : List α) : (mapList f as).warnings = [] := by
  simp only [warnings_eq_nil_iff] at *
  exact .mapList hf as

end Report

namespace Pass

variable {ε σ α : Type}

@[simp] theorem state_done (s : σ) : (done s : Pass ε σ).state = s := rfl

@[simp] theorem failure_done (s : σ) : (done s : Pass ε σ).failure = none := rfl

@[simp] theorem state_noting (s : σ) (w : Warning) : (noting s w : Pass ε σ).state = s := rfl

@[simp] theorem failure_noting (s : σ) (w : Warning) : (noting s w : Pass ε σ).failure = none := rfl

@[simp] theorem state_failing (s : σ) (e : ε) : (failing s e).state = s := rfl

@[simp] theorem failure_failing (s : σ) (e : ε) : (failing s e).failure = some e := rfl

theorem result_toReport_eq_ok_iff {p : Pass ε σ} {s : σ} :
    p.toReport.result = .ok s ↔ p.failure = none ∧ p.state = s := by
  unfold toReport
  cases p.failure with
  | none => simp
  | some e => simp

section Run

variable {step : σ → α → Pass ε σ}

@[simp] theorem run_nil (s : σ) : run step s [] = done s := rfl

theorem toReport_run_cons (step : σ → α → Pass ε σ) (s : σ) (a : α) (rest : List α) :
    (run step s (a :: rest)).toReport =
      (step s a).toReport.andThen fun s' => (run step s' rest).toReport := by
  rw [run]
  split
  · next heq => simp only [heq, toReport, Report.andThen]
  · next heq => simp only [heq, toReport, Report.andThen]

theorem state_run_cons_of_failure {s : σ} {a : α} {e : ε} (h : (step s a).failure = some e)
    (rest : List α) : (run step s (a :: rest)).state = (step s a).state := by
  rw [run]
  split
  · next heq => rw [heq]
  · next heq => rw [heq] at h; cases h

theorem state_run_cons {s : σ} {a : α} (h : (step s a).failure = none) (rest : List α) :
    (run step s (a :: rest)).state = (run step (step s a).state rest).state := by
  rw [run]
  split
  · next heq => rw [heq] at h; cases h
  · next heq => rw [heq]

theorem failure_run_cons (s : σ) (a : α) (rest : List α) :
    (run step s (a :: rest)).failure = none ↔
      (step s a).failure = none ∧ (run step (step s a).state rest).failure = none := by
  rw [run]
  split
  · next heq => simp [heq]
  · next heq => simp [heq]

/-- What every step keeps, a whole pass keeps. -/
theorem state_run_of_step {P : σ → Prop} {as : List α}
    (hstep : ∀ s, ∀ a ∈ as, P s → P (step s a).state) {s : σ} (h : P s) :
    P (run step s as).state := by
  induction as generalizing s with
  | nil => exact h
  | cons a rest ih =>
    have hs : P (step s a).state := hstep s a List.mem_cons_self h
    cases hf : (step s a).failure with
    | none =>
      rw [state_run_cons hf]
      exact ih (fun s b hb => hstep s b (List.mem_cons_of_mem a hb)) hs
    | some e => rw [state_run_cons_of_failure hf]; exact hs

/-- Where every step warns of one kind only, so does a whole pass. -/
theorem warnsOnly_run {P : Warning → Prop} (hstep : ∀ s a, ∀ w ∈ (step s a).warnings, P w) (s : σ)
    (as : List α) : (run step s as).toReport.WarnsOnly P := by
  induction as generalizing s with
  | nil => exact .of_silent rfl
  | cons a rest ih =>
    rw [toReport_run_cons]
    exact .andThen (hstep s a) fun s' _ => ih s'

/-- Continue with the state of a pass, unless a step of it failed. -/
def andThen (p : Pass ε σ) (next : σ → Pass ε σ) : Pass ε σ :=
  match p with
  | ⟨s, ws, some e⟩ => ⟨s, ws, some e⟩
  | ⟨s, ws, none⟩ => ⟨(next s).state, ws ++ (next s).warnings, (next s).failure⟩

theorem andThen_assoc (p : Pass ε σ) (f g : σ → Pass ε σ) :
    (p.andThen f).andThen g = p.andThen fun s => (f s).andThen g := by
  obtain ⟨s, ws, failure⟩ := p
  cases failure with
  | some e => rfl
  | none =>
    simp only [andThen]
    obtain ⟨s', ws', failure⟩ := f s
    cases failure with
    | some e => rfl
    | none => simp only [List.append_assoc]

/-- Passes that continue alike from the state that they would continue from are the same pass. -/
theorem andThen_congr {p : Pass ε σ} {f g : σ → Pass ε σ}
    (h : p.failure = none → f p.state = g p.state) : p.andThen f = p.andThen g := by
  obtain ⟨s, ws, failure⟩ := p
  cases failure with
  | some e => rfl
  | none =>
    have hs : f s = g s := h rfl
    simp only [andThen, hs]

theorem run_cons (s : σ) (a : α) (rest : List α) :
    run step s (a :: rest) = (step s a).andThen fun s' => run step s' rest := rfl

/-- Steps that do the same to every element of a list make the same walk along it. -/
theorem run_congr {step' : σ → α → Pass ε σ} {as : List α}
    (h : ∀ a ∈ as, ∀ s, step s a = step' s a) (s : σ) : run step s as = run step' s as := by
  induction as generalizing s with
  | nil => rfl
  | cons a rest ih =>
    obtain ⟨ha, hrest⟩ := List.forall_mem_cons.1 h
    rw [run_cons, run_cons, ha]
    exact andThen_congr fun _ => ih hrest _

/-- A walk along two lists is a walk along the first and then along the second. -/
theorem run_append (s : σ) (as bs : List α) :
    run step s (as ++ bs) = (run step s as).andThen fun s' => run step s' bs := by
  induction as generalizing s with
  | nil => rfl
  | cons a rest ih =>
    rw [List.cons_append, run_cons, run_cons, andThen_assoc]
    congr 1
    funext s'
    exact ih s'

/-- A walk that stops has taken every step before the one that fails, and then that one. -/
theorem exists_of_failure_run {s : σ} {as : List α} (h : (run step s as).failure ≠ none) :
    ∃ before a after, as = before ++ a :: after ∧ (run step s before).failure = none ∧
      (step (run step s before).state a).failure ≠ none ∧
      run step s as = (run step s before).andThen fun s' => step s' a := by
  -- on the elements; the state differs from step to step
  induction as generalizing s with
  | nil => exact absurd rfl h
  | cons a rest ih =>
    -- the first element fails, or the run of the rest does
    cases hstep : (step s a).failure with
    | some e =>
      refine ⟨[], a, rest, rfl, rfl, ?_, ?_⟩
      · simp [hstep]
      · show (step s a).andThen _ = ⟨(step s a).state, (step s a).warnings, (step s a).failure⟩
        generalize step s a = p at hstep
        obtain ⟨s', ws, failure⟩ := p
        obtain rfl : failure = some e := hstep
        rfl
    | none =>
      have hrest : (run step (step s a).state rest).failure ≠ none := by
        intro hok
        exact h ((failure_run_cons s a rest).2 ⟨hstep, hok⟩)
      obtain ⟨before, b, after, rfl, hbefore, hb, hrun⟩ := ih hrest
      refine ⟨a :: before, b, after, rfl, ?_, ?_, ?_⟩
      · exact (failure_run_cons s a before).2 ⟨hstep, hbefore⟩
      · rwa [state_run_cons hstep]
      · rw [run_cons, run_cons, andThen_assoc]
        exact andThen_congr fun _ => hrun

theorem state_andThen {p : Pass ε σ} {next : σ → Pass ε σ} (h : p.failure = none) :
    (p.andThen next).state = (next p.state).state := by
  obtain ⟨s, ws, failure⟩ := p
  obtain rfl : failure = none := h
  rfl

theorem warnings_andThen {p : Pass ε σ} {next : σ → Pass ε σ} (h : p.failure = none) :
    (p.andThen next).warnings = p.warnings ++ (next p.state).warnings := by
  obtain ⟨s, ws, failure⟩ := p
  obtain rfl : failure = none := h
  rfl

theorem failure_andThen {p : Pass ε σ} {next : σ → Pass ε σ} (h : p.failure = none) :
    (p.andThen next).failure = (next p.state).failure := by
  obtain ⟨s, ws, failure⟩ := p
  obtain rfl : failure = none := h
  rfl

/-- A pass whose states are seen through a function. -/
def mapState {τ : Type} (f : σ → τ) (p : Pass ε σ) : Pass ε τ := ⟨f p.state, p.warnings, p.failure⟩

/-- What continues with no more of a state than a function shows of it. -/
theorem andThen_toReport_congr {τ ε' β : Type} {f : σ → τ} {p q : Pass ε σ}
    (h : p.mapState f = q.mapState f) (g : ε → ε') (next : τ → Report ε' β) :
    (p.toReport.mapError g).andThen (fun s => next (f s)) =
      (q.toReport.mapError g).andThen fun s => next (f s) := by
  obtain ⟨s, ws, failure⟩ := p
  obtain ⟨s', ws', failure'⟩ := q
  obtain ⟨hs, rfl, rfl⟩ := Pass.mk.inj h
  cases failure with
  | some e => rfl
  | none =>
    simp only [toReport, Report.mapError, Except.mapError, Report.andThen]
    rw [show f s = f s' from hs]

/-- Passes whose steps agree, as seen through a function and from states with an invariant, agree as a
whole. -/
theorem mapState_run {τ : Type} {f : σ → τ} {step' : τ → α → Pass ε τ} {P : σ → Prop}
    (hstep : ∀ s a, P s → (step s a).mapState f = step' (f s) a ∧ P (step s a).state) {s : σ}
    (h : P s) (as : List α) : (run step s as).mapState f = run step' (f s) as := by
  induction as generalizing s with
  | nil => rfl
  | cons a rest ih =>
    obtain ⟨heq, hnext⟩ := hstep s a h
    rw [run_cons, run_cons, ← heq]
    generalize step s a = p at hnext
    obtain ⟨s', ws, failure⟩ := p
    cases failure with
    | some e => rfl
    | none =>
      simp only [andThen, mapState]
      rw [← ih hnext]
      rfl

end Run

end Pass

end FixturePlan
