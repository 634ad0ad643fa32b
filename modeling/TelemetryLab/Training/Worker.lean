import Mathlib.Data.List.Sort
import TelemetryLab.Jobs.JobManager
import TelemetryLab.Training.Hpo
import TelemetryLab.Training.ModelRuns

/-! The job bodies of `RunPcaTraining` and `OrchestrateTuning` and the handler
of `DELETE /train/{id}` (`api_server.cpp`), one shared action at a time.

A control point is what the code does next; an event is how that call comes
back. A database call that fails is logged and otherwise ignored by the client,
except `CreateHpoTrialRun`, which rethrows, and the reads, which return a null
JSON value; reading a field of that value then throws.
-/

set_option autoImplicit false
namespace TelemetryLab.Training
open Jobs

inductive Event where
  | done
  | error (what : String)
  | heartbeat (stored : Bool)
  | created (modelRunId : String)
  /-- The commit has taken effect, but its confirmation is lost. -/
  | unconfirmed (modelRunId what : String)
  | empty
  | thread (starts : Bool)
  deriving DecidableEq, Repr

/-- A write of the client: a failed one leaves the table alone. -/
def Event.guarded (event : Event) (statement : Statement) : Option Statement :=
  match event with
  | .done => some statement
  | .error _ => some .nothing
  | _ => none

def valueOfNull : String := "[json.exception.type_error.306] cannot use value() with null"
def stringOfNull : String := "[json.exception.type_error.302] type must be string, but is null"

/-! ## Training -/

structure TrainCall where
  modelRunId : String
  config : TrainingConfig
  requestId : String
  deriving DecidableEq

inductive TrainPc where
  | transition
  | readBack
  | training
  | cancelling
  | saving
  | completing
  | marking
  | failing (what : String)
  | markingFailed (what : String)
  deriving DecidableEq, Repr

def artifactPath (modelRunId : String) : String := "artifacts/pca/" ++ modelRunId ++ "/model.json"

/-- The guard at the head of both bodies: a compare-and-set from `PENDING`. -/
def passesTransition (runs : Runs) (modelRunId : String) : Bool :=
  (runs.lookup modelRunId).any fun row => decide (row.status = .pending)

/-- The body of `RunPcaTraining`. `flagged` is the stop flag at the time of the
step; training itself is `.training` until it comes back, with heartbeats. -/
def trainStep (runs : Runs) (flagged : Bool) (call : TrainCall) :
    TrainPc → Event → Option (Statement × Progress TrainPc)
  | .transition, .done => some (.transitionStatus call.modelRunId .pending .running,
      .goto (if passesTransition runs call.modelRunId then .training else .readBack))
  | .transition, .error _ => some (.nothing, .goto .readBack)
  -- a row that another worker has taken is let through as well
  | .readBack, .done =>
    match runs.lookup call.modelRunId with
    | some row => some (.nothing, if row.status = .running then .goto .training else .returns)
    | none => some (.nothing, .throws valueOfNull)
  | .readBack, .error _ => some (.nothing, .throws valueOfNull)
  | .training, .heartbeat stored => some (if stored then .heartbeat call.modelRunId else .nothing, .goto .training)
  -- the stop flag is read once, after training
  | .training, .done => some (.nothing, .goto (if flagged then .cancelling else .saving))
  | .training, .error what => some (.nothing, .goto (.failing what))
  | .cancelling, event =>
    (event.guarded (.updateStatus call.modelRunId .cancelled "" "")).map fun statement => (statement, .returns)
  | .saving, .done => some (.nothing, .goto .completing)
  | .saving, .error what => some (.nothing, .goto (.failing what))
  -- unconditional, whatever the row says by now
  | .completing, event =>
    (event.guarded (.updateStatus call.modelRunId .completed (artifactPath call.modelRunId) "")).map
      fun statement => (statement, .goto .marking)
  | .marking, event =>
    (event.guarded (.trialEligibility call.modelRunId true "")).map fun statement => (statement, .returns)
  | .failing what, event =>
    (event.guarded (.updateStatus call.modelRunId .failed "" what)).map fun statement =>
      (statement, .goto (.markingFailed what))
  | .markingFailed what, event =>
    (event.guarded (.trialEligibility call.modelRunId false "FAILED")).map fun statement => (statement, .throws what)
  | _, _ => none

/-- Past the guard: the body trains, or is about to write its outcome. -/
def TrainPc.entered : TrainPc → Bool
  | .transition | .readBack => false
  | _ => true

/-! ## Tuning -/

structure TuningTask where
  parentRunId : String
  name : String
  datasetId : String
  requestId : String
  trials : List TrainingConfig
  maxConcurrency : Int
  deriving DecidableEq

/-- The local variables of the execution loop. `activeTrials` is the key set of
a `std::map`, kept in key order. -/
structure Dispatching where
  trialIds : List String
  nextTrial : Nat
  activeTrials : List String
  deriving DecidableEq, Repr

inductive TunePc where
  | transition
  | readBack
  | creating (idx : Nat) (trialIds : List String)
  | head (d : Dispatching)
  | cancelling (d : Dispatching)
  | dispatch (d : Dispatching)
  | heartbeat (d : Dispatching)
  | poll (d : Dispatching) (rest : List String)
  deriving DecidableEq, Repr

/-- Past the guard. -/
def TunePc.entered : TunePc → Bool
  | .transition | .readBack => false
  | _ => true

/-- The trial rows the orchestrator has created. -/
def TunePc.trialIds : TunePc → List String
  | .transition | .readBack => []
  | .creating _ trialIds => trialIds
  | .head d | .cancelling d | .dispatch d | .heartbeat d | .poll d _ => d.trialIds

/-- How many of them it has handed to `RunPcaTraining`. -/
def TunePc.nextTrial : TunePc → Nat
  | .transition | .readBack | .creating _ _ => 0
  | .head d | .cancelling d | .dispatch d | .heartbeat d | .poll d _ => d.nextTrial

inductive TuneAction where
  | statement (statement : Statement) (progress : Progress TunePc)
  | runPcaTraining (call : TrainCall) (threadStarts : Bool) (admitted : TunePc)

/-- `active_trials[tid] = true`. -/
def activate (trialId : String) (active : List String) : List String :=
  if trialId ∈ active then active else active.orderedInsert (· ≤ ·) trialId

def trialRow (task : TuningTask) (idx now : Nat) : ModelRun :=
  .inserted task.datasetId (task.name ++ "_trial_" ++ toString idx) task.requestId false
    (some task.parentRunId) (some idx) now

/-- The body of `OrchestrateTuning`. -/
def tuneStep (now : Nat) (runs : Runs) (flagged : Bool) (task : TuningTask) : TunePc → Event → Option TuneAction
  | .transition, .done => some (.statement (.transitionStatus task.parentRunId .pending .running)
      (.goto (if passesTransition runs task.parentRunId then .creating 0 [] else .readBack)))
  | .transition, .error _ => some (.statement .nothing (.goto .readBack))
  | .readBack, .done =>
    match runs.lookup task.parentRunId with
    | some row => some (.statement .nothing (if row.status = .running then .goto (.creating 0 []) else .returns))
    | none => some (.statement .nothing (.throws valueOfNull))
  | .readBack, .error _ => some (.statement .nothing (.throws valueOfNull))
  | .creating idx trialIds, event =>
    if idx < task.trials.length then
      match event with
      | .created modelRunId =>
        -- The key is generated by the database, so it is no key of the table.
        if modelRunId ∈ runs then none
        else some (.statement (.insert modelRunId (trialRow task idx now))
          (.goto (.creating (idx + 1) (trialIds ++ [modelRunId]))))
      -- an empty id is skipped
      | .empty => some (.statement .nothing (.goto (.creating (idx + 1) trialIds)))
      | .error what => some (.statement .nothing (.throws what))
      | .unconfirmed modelRunId what =>
        if modelRunId ∈ runs then none
        else some (.statement (.insert modelRunId (trialRow task idx now)) (.throws what))
      | _ => none
    else
      match event with
      | .done => some (.statement .nothing (.goto (.head ⟨trialIds, 0, []⟩)))
      | _ => none
  | .head d, .done =>
    if d.nextTrial < d.trialIds.length ∨ d.activeTrials ≠ [] then
      some (.statement .nothing (.goto (if flagged then .cancelling d else .dispatch d)))
    else some (.statement .nothing .returns)
  | .cancelling _, event =>
    (event.guarded (.updateStatus task.parentRunId .cancelled "" "")).map fun statement => .statement statement .returns
  | .dispatch d, event =>
    if (d.activeTrials.length : Int) < task.maxConcurrency then
      match d.trialIds[d.nextTrial]?, task.trials[d.nextTrial]? with
      | some trialId, some config =>
        match event with
        | .thread starts => some (.runPcaTraining ⟨trialId, { config with datasetId := task.datasetId }, task.requestId⟩
            starts (.dispatch { d with
              nextTrial := d.nextTrial + 1
              activeTrials := activate trialId d.activeTrials }))
        | _ => none
      | none, _ => if event = .done then some (.statement .nothing (.goto (.heartbeat d))) else none
      -- there are no more trial ids than configurations
      | some _, none => none
    else if event = .done then some (.statement .nothing (.goto (.heartbeat d)))
    else none
  | .heartbeat d, event =>
    (event.guarded (.heartbeat task.parentRunId)).map fun statement =>
      .statement statement (.goto (.poll d d.activeTrials))
  | .poll d [], .done => some (.statement .nothing (.goto (.head d)))
  | .poll d (trialId :: rest), .done =>
    match runs.lookup trialId with
    | some row =>
      let active := if row.status.isTerminal then d.activeTrials.erase trialId else d.activeTrials
      some (.statement .nothing (.goto (.poll { d with activeTrials := active } rest)))
    | none => some (.statement .nothing (.throws stringOfNull))
  | .poll _ (_ :: _), .error _ => some (.statement .nothing (.throws stringOfNull))
  | _, _ => none

/-! ## Cancellation -/

inductive DeletePc where
  | snapshot
  | trials (rest : List (String × JobState))
  | updateTrial (trialId : String) (rest : List (String × JobState))
  | markTrial (trialId : String) (rest : List (String × JobState))
  | cancelSelf
  | updateSelf
  | answering
  | answered
  deriving DecidableEq, Repr

structure DeleteCall where
  modelRunId : String
  pc : DeletePc
  deriving DecidableEq, Repr

/-- `GetHpoTrials`: the trials of a parent in order of their index, 1000 at most. -/
def getHpoTrials (runs : Runs) (parentRunId : String) : List (String × JobState) :=
  let trials := runs.entries.filter fun entry => decide (entry.2.parentRunId = some parentRunId)
  let ordered := trials.insertionSort fun first second => first.2.trialIndex.getD 0 ≤ second.2.trialIndex.getD 0
  (ordered.take 1000).map fun entry => (entry.1, entry.2.status)

structure DeleteAction where
  statement : Statement
  cancelJob : Option String
  pc : DeletePc

/-- The handler after it has found the run neither missing nor terminal.
`stored` is whether the database call of the step succeeds. -/
def deleteStep (runs : Runs) (stored : Bool) (call : DeleteCall) : Option DeleteAction :=
  match call.pc with
  | .snapshot => some ⟨.nothing, none, .trials (if stored then getHpoTrials runs call.modelRunId else [])⟩
  | .trials [] => some ⟨.nothing, none, .cancelSelf⟩
  | .trials ((trialId, status) :: rest) =>
    if status = .pending ∨ status = .running then
      some ⟨.nothing, some ("train-" ++ trialId), .updateTrial trialId rest⟩
    else some ⟨.nothing, none, .trials rest⟩
  | .updateTrial trialId rest => some ⟨if stored then
      .updateStatus trialId .cancelled "" "Cancelled by parent tuning run request" else .nothing, none,
      .markTrial trialId rest⟩
  | .markTrial trialId rest =>
    some ⟨if stored then .trialEligibility trialId false "CANCELED" else .nothing, none, .trials rest⟩
  -- also for a tuning run, whose job has another name
  | .cancelSelf => some ⟨.nothing, some ("train-" ++ call.modelRunId), .updateSelf⟩
  | .updateSelf => some ⟨if stored then .updateStatus call.modelRunId .cancelled "" "Cancelled by user request"
      else .nothing, none, .answering⟩
  | .answering => some ⟨.nothing, none, .answered⟩
  | .answered => none

/-- The first read of the handler: 404 for a missing run, 400 for a terminal one. -/
def openDelete (runs : Runs) (modelRunId : String) : Option DeleteCall :=
  match runs.lookup modelRunId with
  | some row =>
    if row.status.isTerminal then none
    else some ⟨modelRunId, if row.hpoConfig then .snapshot else .cancelSelf⟩
  | none => none

end TelemetryLab.Training
