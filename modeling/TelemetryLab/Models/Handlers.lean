import TelemetryLab.Jobs.StateMachine
import TelemetryLab.Lib.Arith
import TelemetryLab.Lib.Table

/-! The handlers of `GET /models` and `GET /models/{id}` (`HandleListModels` and
`HandleGetModelDetail` in `api_server.cpp`) and the queries behind them.

The rows of `model_runs` are kept apart by the two statements that create them:
runs of a user, whose `parent_run_id` is null, and trials of a tuning run. Of the
detail of a run the artifact file is left out, which cannot change the rest.
-/

set_option autoImplicit false
namespace TelemetryLab.Models
open Jobs

variable {R : Type}

structure ModelRun (R : Type) where
  modelRunId : String
  status : JobState
  /-- Whether `hpo_config` is not null. -/
  hpoConfig : Bool
  bestMetricValue : Option R
  bestMetricName : Option String

structure Trial (R : Type) where
  modelRunId : String
  parentRunId : String
  status : JobState
  trialIndex : Int
  /-- Empty for null. -/
  completedAt : String
  error : String
  isEligible : Bool
  selectionMetricValue : Option R
  /-- The field `code` of `error_summary`. -/
  errorCode : Option String

/-- `GetHpoTrials` reads this many trials of a run. -/
def maxTrials : Nat := 1000

structure ModelRuns (R : Type) where
  runs : List (ModelRun R)
  trials : List (Trial R)
  distinct : (runs.map ModelRun.modelRunId ++ trials.map Trial.modelRunId).Nodup
  /-- Trials are created by the orchestrator of a tuning run. -/
  tuned : ∀ trial ∈ trials, ∃ run ∈ runs, run.modelRunId = trial.parentRunId ∧ run.hpoConfig = true
  /-- The ids of trials are UUIDs. -/
  named : ∀ trial ∈ trials, trial.modelRunId ≠ ""
  few : ∀ parentRunId, (trials.filter fun trial => decide (trial.parentRunId = parentRunId)).length ≤ maxTrials

def ModelRuns.trialsOf (table : ModelRuns R) (parentRunId : String) : List (Trial R) :=
  table.trials.filter fun trial => decide (trial.parentRunId = parentRunId)

def ModelRuns.getHpoTrials (table : ModelRuns R) (parentRunId : String) : List (Trial R) :=
  ((table.trialsOf parentRunId).insertionSort fun a b => a.trialIndex ≤ b.trialIndex).take maxTrials

/-- The number of trials in a status. -/
def countStatus (trials : List (Trial R)) (status : JobState) : Nat :=
  trials.countP fun trial => decide (trial.status = status)

/-- The status both handlers show instead of the stored one. -/
def aggregateStatus (pending running completed failed : Nat) (stored : JobState) : JobState :=
  if running > 0 ∨ pending > 0 then .running
  else if completed > 0 then .completed
  else if failed > 0 then .failed
  else stored

/-! ## The list -/

/-- A row of the grouped query of `GetBulkHpoTrialSummaries`. -/
structure Group where
  parentRunId : String
  status : JobState
  count : Nat
  deriving DecidableEq

structure Summary where
  trialCount : Nat
  completedCount : Nat
  /-- A JSON object, with null as `none`. -/
  statusCounts : Table String (Option Nat)

def Summary.initial : Summary where
  trialCount := 0
  completedCount := 0
  statusCounts := ⟨[⟨"PENDING", some 0⟩, ⟨"RUNNING", some 0⟩, ⟨"COMPLETED", some 0⟩, ⟨"FAILED", some 0⟩,
    ⟨"converted_FAIL", some 0⟩], by unfold List.NodupKeys; decide⟩

/-- The body of the loop on the summary of its parent, and whether it throws. -/
def Summary.add (group : Group) (summary : Summary) : Summary × Bool :=
  let summary := { summary with trialCount := summary.trialCount + group.count }
  match summary.statusCounts.lookup group.status.stateToString with
  | some (some n) =>
    let summary := { summary with
      statusCounts := summary.statusCounts.insert group.status.stateToString (some (n + group.count)) }
    (if group.status = .completed then { summary with completedCount := summary.completedCount + group.count }
      else summary, false)
  -- reading a missing field creates it as null, and null is not a number
  | _ => ({ summary with statusCounts := summary.statusCounts.insert group.status.stateToString none }, true)

abbrev Summaries := Table String Summary

def addGroup (summaries : Summaries) (group : Group) : Summaries × Bool :=
  let (summary, threw) := ((summaries.lookup group.parentRunId).getD .initial).add group
  (summaries.insert group.parentRunId summary, threw)

/-- The loop over the result; an exception ends it and is logged. -/
def addGroups : List Group → Summaries → Summaries
  | [], summaries => summaries
  | group :: rest, summaries =>
    let (next, threw) := addGroup summaries group
    if threw then next else addGroups rest next

/-- The summaries, from the result of the grouped query. -/
def getBulkHpoTrialSummaries (result : List Group) : Summaries := addGroups result ∅

/-- `value(key, 0)` of the object `status_counts`. -/
def Summary.value (summary : Summary) (status : JobState) : Nat :=
  ((summary.statusCounts.lookup status.stateToString).getD (some 0)).getD 0

structure HpoSummary (R : Type) where
  trialCount : Nat
  completedCount : Nat
  bestMetricValue : Option R
  bestMetricName : Option String

structure ListItem (R : Type) where
  modelRunId : String
  status : JobState
  hpoSummary : Option (HpoSummary R)

/-- A row of `ListModelRuns`. -/
inductive Listed (R : Type) where
  | run (run : ModelRun R)
  | trial (trial : Trial R)

/-- The ids for which summaries are requested. -/
def requestedParents (models : List (Listed R)) : List String :=
  models.filterMap fun
    | .run run => some run.modelRunId
    | .trial _ => none

def ModelRun.listItem (summaries : Summaries) (run : ModelRun R) : ListItem R :=
  match summaries.lookup run.modelRunId with
  | some summary =>
    if summary.trialCount > 0 then
      ⟨run.modelRunId,
        aggregateStatus (summary.value .pending) (summary.value .running) (summary.value .completed)
          (summary.value .failed) run.status,
        some ⟨summary.trialCount, summary.completedCount, run.bestMetricValue, run.bestMetricName⟩⟩
    else ⟨run.modelRunId, run.status, none⟩
  | none => ⟨run.modelRunId, run.status, none⟩

def handleListModels (models : List (Listed R)) (result : List Group) : List (ListItem R) :=
  let summaries := getBulkHpoTrialSummaries result
  models.map fun
    | .run run => run.listItem summaries
    | .trial trial => ⟨trial.modelRunId, trial.status, none⟩

/-! ## The detail -/

/-- The handler's answers other than 200. -/
inductive Answer where
  | notFound
  | internalError (what : String)
  deriving DecidableEq, Repr

def numberOfNull : String := "[json.exception.type_error.302] type must be number, but is null"

/-- The local variables of the scan for the best trial. -/
structure Best (R : Type) where
  bestId : String
  minThreshold : R
  bestCompletedAt : String
  bestTrialIndex : Int

section Selection

variable [Arith R]

/-- Nothing is read of it before the first candidate. -/
def Best.none : Best R := ⟨"", 0, "", 2147483647⟩

def Best.improvedBy (best : Best R) (threshold : R) (completedAt : String) (trialIndex : Int) : Bool :=
  if best.bestId.isEmpty ∨ threshold < best.minThreshold then true
  else if threshold == best.minThreshold then
    if completedAt < best.bestCompletedAt then true
    else if completedAt = best.bestCompletedAt then decide (trialIndex < best.bestTrialIndex)
    else false
  else false

def Best.consider (best : Best R) (trial : Trial R) : Except Answer (Best R) :=
  if trial.status = .completed ∧ trial.isEligible then
    match trial.selectionMetricValue with
    | Option.none => .error (.internalError numberOfNull)
    | some threshold =>
      .ok (if best.improvedBy threshold trial.completedAt trial.trialIndex then
          ⟨trial.modelRunId, threshold, trial.completedAt, trial.trialIndex⟩
        else best)
  else .ok best

/-- The trial of the lowest threshold. -/
def selectBest (trials : List (Trial R)) : Except Answer (Best R) := trials.foldlM Best.consider .none

end Selection

def countError (counts : Table String Nat) (trial : Trial R) : Table String Nat :=
  if trial.status = .failed then
    match trial.errorCode with
    | some code => counts.insert code ((counts.lookup code).getD 0 + 1)
    | none => if trial.error.isEmpty then counts else counts.insert "UNKNOWN" ((counts.lookup "UNKNOWN").getD 0 + 1)
  else counts

structure TrialCounts where
  total : Nat
  pending : Nat
  running : Nat
  completed : Nat
  failed : Nat

structure Aggregates (R : Type) where
  trialCounts : TrialCounts
  errorAggregates : Table String Nat
  /-- Whether the error counts are written back to the parent. -/
  storesAggregates : Bool
  /-- Shown and written back if the id is not empty. -/
  best : Best R

structure Detail (R : Type) where
  modelRunId : String
  status : JobState
  aggregates : Option (Aggregates R)

/-- The detail of a tuning run. -/
def ModelRun.aggregated [Arith R] (trials : List (Trial R)) (run : ModelRun R) : Except Answer (Detail R) := do
  let pending := countStatus trials .pending
  let running := countStatus trials .running
  let completed := countStatus trials .completed
  let failed := countStatus trials .failed
  let errorCounts := trials.foldl countError ∅
  let best ← selectBest trials
  pure ⟨run.modelRunId, aggregateStatus pending running completed failed run.status,
    some ⟨⟨trials.length, pending, running, completed, failed⟩, errorCounts, running = 0 ∧ pending = 0, best⟩⟩

def handleGetModelDetail [Arith R] (table : ModelRuns R) (modelRunId : String) : Except Answer (Detail R) :=
  match table.runs.find? fun run => run.modelRunId = modelRunId with
  | some run =>
    if run.hpoConfig then run.aggregated (table.getHpoTrials modelRunId)
    else .ok ⟨run.modelRunId, run.status, none⟩
  | none =>
    match table.trials.find? fun trial => trial.modelRunId = modelRunId with
    | some trial => .ok ⟨trial.modelRunId, trial.status, none⟩
    | none => .error .notFound

end TelemetryLab.Models
