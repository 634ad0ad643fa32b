import TelemetryLab.Training.Reaping

/-! The selection metric of completed trials.

`UpdateTrialEligibility` writes `selection_metric_value` along with the
eligibility of a trial, in a transaction of its own that follows the one that
writes `COMPLETED`. The column is kept beside the service, which does not read it
outside of `GET /models`.
-/

set_option autoImplicit false
namespace TelemetryLab.Training
open Jobs JobManager Transition

/-- What `UpdateTrialEligibility` is called with. -/
inductive Metric where
  | artifactThreshold
  | zero
  deriving DecidableEq, Repr

structure Measured where
  world : World
  /-- The rows whose `selection_metric_value` is not null. -/
  metrics : Table String Metric

namespace Measured

def init : Measured := ⟨.init, ∅⟩

/-- The column after a statement. -/
def record (m : Measured) (world : World) : Statement → Measured
  | .insert modelRunId _ => ⟨world, m.metrics.erase modelRunId⟩
  | .trialEligibility modelRunId isEligible _ =>
    ⟨world, if modelRunId ∈ m.world.runs then
        m.metrics.insert modelRunId (if isEligible then .artifactThreshold else .zero)
      else m.metrics⟩
  | .nothing | .transitionStatus _ _ _ | .updateStatus _ _ _ _ | .heartbeat _ | .reconcile _ => ⟨world, m.metrics⟩

def step (m : Measured) (label : Label) : Option Measured :=
  if m.world.memory.jobs.terminated then none
  else (act m.world label).map fun result => m.record (m.world.after label result) result.1

@[simp] theorem record_world (m : Measured) (world : World) (statement : Statement) :
    (m.record world statement).world = world := by
  cases statement <;> rfl

/-- The column has no part in what happens. -/
theorem step_world (m : Measured) (label : Label) : (m.step label).map world = Training.step m.world label := by
  unfold step Training.step
  split
  · rfl
  · cases act m.world label with
    | none => rfl
    | some result => simp

theorem step_eq_some {m next : Measured} {label : Label} (taken : m.step label = some next) :
    ∃ statement memory, act m.world label = some (statement, memory) ∧
      next = m.record (m.world.after label (statement, memory)) statement := by
  unfold step at taken
  split at taken
  · cases taken
  · obtain ⟨⟨statement, memory⟩, acted, rfl⟩ := Option.map_eq_some_iff.mp taken
    exact ⟨statement, memory, acted, rfl⟩

end Measured

/-- A completed and eligible trial has a metric. -/
def Selectable (m : Measured) : Prop :=
  ∀ modelRunId row, m.world.runs.lookup modelRunId = some row → row.parentRunId.isSome = true →
    row.status = .completed → row.isEligible = true → modelRunId ∈ m.metrics

/-- The run for which a step stores the status `COMPLETED`. -/
def completedBy (w : World) (label : Label) : Option String :=
  match act w label with
  | some (.updateStatus modelRunId .completed _ _, _) => some modelRunId
  | _ => none

/-- A trial that is recorded as completed already has a metric, or is not eligible. -/
def MarkedFirst (m : Measured) (label : Label) : Prop :=
  ∀ modelRunId row, completedBy m.world label = some modelRunId → m.world.runs.lookup modelRunId = some row →
    row.parentRunId.isSome = true → row.isEligible = true → modelRunId ∈ m.metrics

/-! ## Which statements can break it -/

section Statements

variable {m : Measured} {world : World} {statement : Statement}

theorem mem_record_metrics {modelRunId : String} (marked : modelRunId ∈ m.metrics)
    (fresh : ∀ row, statement ≠ .insert modelRunId row) : modelRunId ∈ (m.record world statement).metrics := by
  cases statement with
  | insert id row =>
    refine AList.mem_erase.mpr ⟨?_, marked⟩
    rintro rfl
    exact fresh row rfl
  | trialEligibility id isEligible reason =>
    simp only [Measured.record]
    split
    · exact (AList.mem_insert _).mpr (.inr marked)
    · exact marked
  | nothing | transitionStatus id expected next | updateStatus id status artifactPath error => exact marked
  | heartbeat id | reconcile staleTtl => exact marked

/-- A row after a statement that does not store `COMPLETED`: it was completed and
eligible before, or its metric has just been written. -/
theorem completed_before {w : World} (issued : Issued w statement)
    (other : ∀ modelRunId artifactPath error, statement ≠ .updateStatus modelRunId .completed artifactPath error)
    {modelRunId : String} {after : ModelRun} (found : (statement.run w.clock w.runs).lookup modelRunId = some after)
    (completed : after.status = .completed) (eligible : after.isEligible = true) :
    ∃ row, w.runs.lookup modelRunId = some row ∧ row.parentRunId = after.parentRunId ∧ row.status = .completed ∧
      (row.isEligible = true ∨ ∃ reason, statement = .trialEligibility modelRunId true reason) := by
  rcases lookup_run_inv found with ⟨row, was⟩ | rfl
  swap
  · rw [(issued.insert _ _ rfl).2.1] at completed
    cases completed
  refine ⟨row, was, ?_⟩
  cases statement with
  | nothing =>
    cases found.symm.trans was
    exact ⟨rfl, completed, .inl eligible⟩
  | insert id new =>
    have different : modelRunId ≠ id := by
      rintro rfl
      exact (issued.insert _ _ rfl).1 (Table.mem_of_lookup was)
    rw [Statement.run, AList.lookup_insert_ne different] at found
    cases found.symm.trans was
    exact ⟨rfl, completed, .inl eligible⟩
  | transitionStatus id expected next =>
    rcases Table.lookup_modify_inv was found with ⟨rfl, rfl⟩ | ⟨-, rfl⟩
    · -- the move that is issued does not end in `COMPLETED`
      obtain ⟨rfl, rfl⟩ := issued.transition _ _ _ rfl
      simp only [ModelRun.transitionStatus] at completed eligible ⊢
      split at completed
      · cases completed
      next unmoved =>
        rw [if_neg unmoved] at eligible ⊢
        exact ⟨rfl, completed, .inl eligible⟩
    · exact ⟨rfl, completed, .inl eligible⟩
  | updateStatus id status artifactPath error =>
    rcases Table.lookup_modify_inv was found with ⟨rfl, rfl⟩ | ⟨-, rfl⟩
    · rw [ModelRun.updateStatus_status] at completed
      subst completed
      exact absurd rfl (other modelRunId artifactPath error)
    · exact ⟨rfl, completed, .inl eligible⟩
  | heartbeat id =>
    rcases Table.lookup_modify_inv was found with ⟨rfl, rfl⟩ | ⟨-, rfl⟩ <;> exact ⟨rfl, completed, .inl eligible⟩
  | trialEligibility id isEligible reason =>
    rcases Table.lookup_modify_inv was found with ⟨rfl, rfl⟩ | ⟨-, rfl⟩
    · cases eligible
      exact ⟨rfl, completed, .inr ⟨reason, rfl⟩⟩
    · exact ⟨rfl, completed, .inl eligible⟩
  | reconcile staleTtl =>
    -- a run that the sweep touches is failed by it
    rw [Statement.run, Table.lookup_update, was] at found
    cases found
    simp only [ModelRun.reconcile] at completed eligible ⊢
    split at completed
    · cases completed
    next spared =>
      rw [if_neg spared] at eligible ⊢
      exact ⟨rfl, completed, .inl eligible⟩

end Statements

theorem completedBy_eq_none {w : World} {label : Label} {statement : Statement} {memory : Memory}
    (acted : act w label = some (statement, memory))
    (other : ∀ modelRunId artifactPath error, statement ≠ .updateStatus modelRunId .completed artifactPath error) :
    completedBy w label = none := by
  unfold completedBy
  rw [acted]
  split
  next modelRunId artifactPath error _ same =>
    cases same
    exact absurd rfl (other modelRunId artifactPath error)
  next => rfl

/-! ## Whole runs -/

theorem step_selectable_iff {m next : Measured} {label : Label} (now : Selectable m) (taken : m.step label = some next) :
    Selectable next ↔ MarkedFirst m label := by
  obtain ⟨statement, memory, acted, rfl⟩ := Measured.step_eq_some taken
  have issued := act_issued acted
  by_cases completes :
      ∃ modelRunId artifactPath error, statement = .updateStatus modelRunId .completed artifactPath error
  · -- the worker's write: the metric can only be there already
    obtain ⟨id, path, error, rfl⟩ := completes
    have stored : completedBy m.world label = some id := by simp [completedBy, acted]
    constructor
    · intro selectable modelRunId row written found trial eligible
      cases stored.symm.trans written
      refine selectable id (row.updateStatus m.world.clock .completed path error) ?_ ?_ rfl ?_
      · simp [World.after, Statement.run, found]
      · rwa [ModelRun.updateStatus_parentRunId]
      · exact eligible
    · intro marked modelRunId after found trial completed eligible
      rw [Measured.record_world] at found
      obtain ⟨row, was⟩ := (lookup_run_inv found).resolve_right (by simp)
      rcases Table.lookup_modify_inv was found with ⟨rfl, rfl⟩ | ⟨-, rfl⟩
      · exact marked modelRunId row stored was (by rwa [ModelRun.updateStatus_parentRunId] at trial) eligible
      · exact now modelRunId _ was trial completed eligible
  · push Not at completes
    have silent := completedBy_eq_none acted completes
    refine iff_of_true ?_ fun modelRunId row written => by simp [silent] at written
    intro modelRunId after found trial completed eligible
    rw [Measured.record_world] at found
    obtain ⟨row, was, parent, already, marked⟩ := completed_before issued completes found completed eligible
    rcases marked with before | ⟨reason, rfl⟩
    · refine mem_record_metrics (now modelRunId row was (parent ▸ trial) already before) ?_
      rintro new rfl
      exact (issued.insert _ _ rfl).1 (Table.mem_of_lookup was)
    · simp [Measured.record, Table.mem_of_lookup was]

/-- Every completed and eligible trial has a metric in every state of a run if
and only if no worker records a trial as completed before its metric is there. -/
theorem selectable_iff_marked_first (schedule : List Label) :
    States Measured.step Selectable .init schedule ↔ Steps Measured.step MarkedFirst .init schedule :=
  states_iff_steps (fun _ holds => holds) (fun _ _ _ holds met taken => (step_selectable_iff holds taken).mpr met)
    (fun _ _ _ holds taken good => (step_selectable_iff holds taken).mp good) schedule
    fun _ _ found => by cases found

/-- A trial is recorded as completed; its metric is the next statement of its worker. -/
def completedUnmarked : List Label :=
  [.post "p" twoTrials fun _ => (0, 0), .postStart 0 true, .work 0 .done, .work 0 (.created "t"),
    .work 0 (.created "u"), .work 0 .done, .work 0 .done, .work 0 (.thread true), .work 1 .done, .work 1 .done,
    .work 1 .done, .work 1 .done]

theorem completed_before_its_metric : ¬ ∀ schedule, States Measured.step Selectable .init schedule := by
  intro all
  have exposed : (exec Measured.step .init completedUnmarked).any (fun m =>
      (m.world.runs.lookup "t").any (fun row =>
        row.parentRunId.isSome && decide (row.status = .completed) && row.isEligible) &&
      decide ("t" ∉ m.metrics)) = true := by decide +kernel
  obtain ⟨final, run, unmarked⟩ := (Option.any_eq_true _ _).mp exposed
  obtain ⟨stored, missing⟩ := Bool.and_eq_true_iff.mp unmarked
  obtain ⟨row, found, shape⟩ := (Option.any_eq_true _ _).mp stored
  simp only [Bool.and_eq_true, decide_eq_true_eq] at shape
  exact of_decide_eq_true missing ((all completedUnmarked).exec run "t" row found shape.1.1 shape.1.2 shape.2)

end TelemetryLab.Training
