import TelemetryLab.Jobs.StateMachine
import TelemetryLab.Lib.Table

/-! The `model_runs` table and the statements run on it (`db_client.cpp`).

Every database call of the training code is one statement in its own
transaction, so a `Statement` is applied as a whole or, when the call fails, not
at all. `NOW()` is a clock that the schedule advances.
-/

set_option autoImplicit false
namespace TelemetryLab.Training
open Jobs

structure ModelRun where
  datasetId : String
  name : String
  requestId : String
  status : JobState
  hpoConfig : Bool
  parentRunId : Option String
  trialIndex : Option Nat
  artifactPath : Option String
  error : Option String
  isEligible : Bool
  eligibilityReason : Option String
  updatedAt : Nat
  deriving DecidableEq, Repr

abbrev Runs := Table String ModelRun

/-- A row as the two `INSERT`s create it; `hpo_config` is non-null for the
parent of a tuning run only. -/
def ModelRun.inserted (datasetId name requestId : String) (hpoConfig : Bool) (parentRunId : Option String)
    (trialIndex : Option Nat) (now : Nat) : ModelRun where
  datasetId := datasetId
  name := name
  requestId := requestId
  status := .pending
  hpoConfig := hpoConfig
  parentRunId := parentRunId
  trialIndex := trialIndex
  artifactPath := none
  error := none
  isEligible := true
  eligibilityReason := none
  updatedAt := now

inductive Statement where
  | nothing
  | insert (modelRunId : String) (row : ModelRun)
  | transitionStatus (modelRunId : String) (expected next : JobState)
  | updateStatus (modelRunId : String) (status : JobState) (artifactPath error : String)
  | heartbeat (modelRunId : String)
  | trialEligibility (modelRunId : String) (isEligible : Bool) (reason : String)
  | reconcile (staleTtl : Option Nat)
  deriving DecidableEq, Repr

namespace ModelRun

/-- `UpdateModelRunStatus`: three statements, chosen by the status. -/
def updateStatus (now : Nat) (status : JobState) (artifactPath error : String) (row : ModelRun) : ModelRun :=
  if status = .completed then { row with status, artifactPath := some artifactPath, updatedAt := now }
  else if status = .failed ∨ status = .cancelled then { row with status, error := some error, updatedAt := now }
  else { row with status, updatedAt := now }

def transitionStatus (expected next : JobState) (row : ModelRun) : ModelRun :=
  if row.status = expected then { row with status := next } else row

def reconcile (staleTtl : Option Nat) (now : Nat) (row : ModelRun) : ModelRun :=
  if stale staleTtl now row.status row.updatedAt then
    { row with status := .failed, error := some (reconcileError staleTtl), updatedAt := now }
  else row

end ModelRun

namespace Statement

def run (now : Nat) (runs : Runs) : Statement → Runs
  | .nothing => runs
  | .insert modelRunId row => runs.insert modelRunId row
  | .transitionStatus modelRunId expected next => Table.modify modelRunId (ModelRun.transitionStatus expected next) runs
  | .updateStatus modelRunId status artifactPath error =>
    Table.modify modelRunId (ModelRun.updateStatus now status artifactPath error) runs
  | .heartbeat modelRunId => Table.modify modelRunId (fun row => { row with updatedAt := now }) runs
  | .trialEligibility modelRunId isEligible reason =>
    Table.modify modelRunId (fun row => { row with isEligible, eligibilityReason := some reason }) runs
  | .reconcile staleTtl => Table.update (fun _ => ModelRun.reconcile staleTtl now) runs

/-- The status a statement leaves in an existing row. -/
def statusAfter (now : Nat) (modelRunId : String) (row : ModelRun) : Statement → JobState
  | .transitionStatus id expected next => if modelRunId = id ∧ row.status = expected then next else row.status
  | .updateStatus id status _ _ => if modelRunId = id then status else row.status
  | .reconcile staleTtl => if stale staleTtl now row.status row.updatedAt then .failed else row.status
  | .nothing | .insert _ _ | .heartbeat _ | .trialEligibility _ _ _ => row.status

end Statement

theorem ModelRun.updateStatus_status (now : Nat) (status : JobState) (artifactPath error : String) (row : ModelRun) :
    (row.updateStatus now status artifactPath error).status = status := by
  simp only [ModelRun.updateStatus]
  split
  · rfl
  · split <;> rfl

theorem ModelRun.updateStatus_parentRunId (now : Nat) (status : JobState) (artifactPath error : String)
    (row : ModelRun) : (row.updateStatus now status artifactPath error).parentRunId = row.parentRunId := by
  simp only [ModelRun.updateStatus]
  split
  · rfl
  · split <;> rfl

/-- A statement that inserts nothing under this id keeps its row, its parent,
and changes its status as `statusAfter` says. -/
theorem Statement.lookup_run {statement : Statement} {now : Nat} {runs : Runs} {modelRunId : String} {row : ModelRun}
    (found : runs.lookup modelRunId = some row) (fresh : ∀ new, statement ≠ .insert modelRunId new) :
    ∃ after, (statement.run now runs).lookup modelRunId = some after ∧ after.parentRunId = row.parentRunId ∧
      after.status = statement.statusAfter now modelRunId row := by
  cases statement with
  | nothing => exact ⟨row, found, rfl, rfl⟩
  | insert id new =>
    have different : modelRunId ≠ id := by
      rintro rfl
      exact fresh new rfl
    exact ⟨row, (AList.lookup_insert_ne different).trans found, rfl, rfl⟩
  | transitionStatus id expected next =>
    by_cases same : modelRunId = id
    · subst same
      refine ⟨row.transitionStatus expected next, by simp [run, found], ?_, ?_⟩
      · simp only [ModelRun.transitionStatus]
        split <;> rfl
      · simp only [ModelRun.transitionStatus, statusAfter, true_and]
        split <;> rfl
    · exact ⟨row, (Table.lookup_modify_ne _ _ same).trans found, rfl, by simp [statusAfter, same]⟩
  | updateStatus id status artifactPath error =>
    by_cases same : modelRunId = id
    · subst same
      exact ⟨row.updateStatus now status artifactPath error, by simp [run, found], row.updateStatus_parentRunId ..,
        by simp [statusAfter, ModelRun.updateStatus_status]⟩
    · exact ⟨row, (Table.lookup_modify_ne _ _ same).trans found, rfl, by simp [statusAfter, same]⟩
  | heartbeat id =>
    by_cases same : modelRunId = id
    · subst same
      exact ⟨{ row with updatedAt := now }, by simp [run, found], rfl, rfl⟩
    · exact ⟨row, (Table.lookup_modify_ne _ _ same).trans found, rfl, rfl⟩
  | trialEligibility id isEligible reason =>
    by_cases same : modelRunId = id
    · subst same
      exact ⟨{ row with isEligible, eligibilityReason := some reason }, by simp [run, found], rfl, rfl⟩
    · exact ⟨row, (Table.lookup_modify_ne _ _ same).trans found, rfl, rfl⟩
  | reconcile staleTtl =>
    refine ⟨row.reconcile staleTtl now, by simp [run, found], ?_, ?_⟩
    · simp only [ModelRun.reconcile]
      split <;> rfl
    · simp only [ModelRun.reconcile, statusAfter]
      split <;> rfl

theorem Statement.mem_run {statement : Statement} {now : Nat} {runs : Runs} {modelRunId : String} :
    modelRunId ∈ statement.run now runs ↔ modelRunId ∈ runs ∨ ∃ row, statement = .insert modelRunId row := by
  cases statement with
  | insert id new =>
    rw [run, AList.mem_insert, or_comm]
    simp [eq_comm]
  | nothing => simp [run]
  | transitionStatus id expected next => simp [run]
  | updateStatus id status artifactPath error => simp [run]
  | heartbeat id => simp [run]
  | trialEligibility id isEligible reason => simp [run]
  | reconcile staleTtl => simp [run]

end TelemetryLab.Training
