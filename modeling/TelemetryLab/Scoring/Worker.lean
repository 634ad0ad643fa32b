import Mathlib.Data.List.Sort
import TelemetryLab.Jobs.JobManager
import TelemetryLab.Jobs.StateMachine

/-! Scoring jobs: the tables, the statements on them (`db_client.cpp`) and the
body of a scoring worker (`HandleScoreDatasetJob` in `api_server.cpp`).

Of a score only its key is kept: the dataset, the model run and the record. The
telemetry table is keyed by `record_id`, which a sequence generates.
-/

set_option autoImplicit false
namespace TelemetryLab.Scoring
open Jobs

structure ScoreJob where
  datasetId : String
  modelRunId : String
  requestId : String
  status : JobState
  totalRows : Int
  processedRows : Int
  lastRecordId : Int
  error : Option String
  updatedAt : Nat
  deriving DecidableEq, Repr

structure Score where
  datasetId : String
  modelRunId : String
  recordId : Int
  deriving DecidableEq, Repr

structure Db where
  clock : Nat
  jobs : Table String ScoreJob
  scores : List Score
  /-- The dataset of each telemetry record. -/
  telemetry : Table Int String

inductive Statement where
  | nothing
  | insertScoreJob (jobId : String) (row : ScoreJob)
  | transitionStatus (jobId : String) (expected next : JobState)
  | updateScoreJob (jobId : String) (status : JobState) (totalRows processedRows lastRecordId : Int) (error : String)
  | insertDatasetScores (datasetId modelRunId : String) (records : List Int)
  | reconcile (staleTtl : Option Nat)
  | insertTelemetry (recordId : Int) (datasetId : String)
  | tick

def ScoreJob.inserted (datasetId modelRunId requestId : String) (now : Nat) : ScoreJob :=
  ⟨datasetId, modelRunId, requestId, .pending, 0, 0, 0, none, now⟩

namespace ScoreJob

/-- `UpdateScoreJob`: three statements, chosen by the status and the error. -/
def update (now : Nat) (status : JobState) (totalRows processedRows lastRecordId : Int) (error : String)
    (row : ScoreJob) : ScoreJob :=
  let row := { row with status, totalRows, processedRows, lastRecordId, updatedAt := now }
  if status = .completed then row
  else if error ≠ "" then { row with error := some error }
  else row

def transition (now : Nat) (expected next : JobState) (row : ScoreJob) : ScoreJob :=
  if row.status = expected then { row with status := next, updatedAt := now } else row

def reconcile (staleTtl : Option Nat) (now : Nat) (row : ScoreJob) : ScoreJob :=
  if stale staleTtl now row.status row.updatedAt then
    { row with status := .failed, error := some (reconcileError staleTtl), updatedAt := now }
  else row

@[simp] theorem update_status (now : Nat) (status : JobState) (totalRows processedRows lastRecordId : Int)
    (error : String) (row : ScoreJob) :
    (row.update now status totalRows processedRows lastRecordId error).status = status := by
  simp only [update]
  split
  · rfl
  · split <;> rfl

end ScoreJob

namespace Db

def run (db : Db) : Statement → Db
  | .nothing => db
  | .insertScoreJob jobId row => { db with jobs := db.jobs.insert jobId row }
  | .transitionStatus jobId expected next =>
    { db with jobs := Table.modify jobId (ScoreJob.transition db.clock expected next) db.jobs }
  | .updateScoreJob jobId status totalRows processedRows lastRecordId error =>
    { db with jobs :=
        Table.modify jobId (ScoreJob.update db.clock status totalRows processedRows lastRecordId error) db.jobs }
  | .insertDatasetScores datasetId modelRunId records =>
    { db with scores := db.scores ++ records.map fun recordId => ⟨datasetId, modelRunId, recordId⟩ }
  | .reconcile staleTtl => { db with jobs := Table.update (fun _ => ScoreJob.reconcile staleTtl db.clock) db.jobs }
  | .insertTelemetry recordId datasetId => { db with telemetry := db.telemetry.insert recordId datasetId }
  | .tick => { db with clock := db.clock + 1 }

/-- `FetchScoringRowsAfterRecord`: the record ids of a dataset above the cursor. -/
def fetchScoringRowsAfterRecord (db : Db) (datasetId : String) (lastRecordId : Int) (limit : Nat) : List Int :=
  let rows := db.telemetry.entries.filter fun entry => decide (entry.2 = datasetId) && decide (lastRecordId < entry.1)
  ((rows.map Sigma.fst).insertionSort (· ≤ ·)).take limit

def getDatasetRecordCount (db : Db) (datasetId : String) : Int :=
  (db.telemetry.entries.countP fun entry => decide (entry.2 = datasetId) : Nat)

/-- `check_score_job_exists`: the live jobs of a pair. -/
def liveScoreJobs (db : Db) (datasetId modelRunId : String) : List String :=
  (db.jobs.entries.filter fun entry => decide (entry.2.datasetId = datasetId) &&
    decide (entry.2.modelRunId = modelRunId) &&
    (decide (entry.2.status = .pending) || decide (entry.2.status = .running))).map Sigma.fst

end Db

/-! ## The worker -/

inductive Event where
  | done
  | error (what : String)
  deriving DecidableEq, Repr

structure ScoreCall where
  jobId : String
  datasetId : String
  modelRunId : String
  requestId : String
  deriving DecidableEq, Repr

/-- The local counters of the body. -/
structure Cursor where
  total : Int
  processed : Int
  lastRecord : Int
  deriving DecidableEq, Repr

inductive ScorePc where
  | readJob
  | count (v : Cursor)
  | transition (v : Cursor)
  | readBack (v : Cursor)
  | announce (v : Cursor)
  | loadModel (v : Cursor)
  | loop (v : Cursor)
  | fetch (v : Cursor)
  | insert (v : Cursor) (records : List Int)
  | progress (v : Cursor)
  | finish (v : Cursor)
  | cancelling (v : Cursor)
  | completing (v : Cursor)
  | failing (what : String)
  | recordFailure (v : Cursor) (what : String)
  deriving DecidableEq, Repr

def batchSize : Nat := 5000

def valueOfNull : String := "[json.exception.type_error.306] cannot use value() with null"

def ScoreJob.cursor (row : ScoreJob) : Cursor := ⟨row.totalRows, row.processedRows, row.lastRecordId⟩

/-- `UpdateScoreJob` swallows database errors. -/
def updateOr (event : Event) (call : ScoreCall) (status : JobState) (v : Cursor) (error : String) : Statement :=
  match event with
  | .done => .updateScoreJob call.jobId status v.total v.processed v.lastRecord error
  | .error _ => .nothing

/-- The body of a scoring worker. Every exception in it is caught, and the
handler reads the row again before it records the failure. -/
def scoreStep (db : Db) (flagged : Bool) (call : ScoreCall) : ScorePc → Event → Statement × Progress ScorePc
  -- `GetScoreJob` answers with an empty object where there is no row
  | .readJob, .done =>
    match db.jobs.lookup call.jobId with
    | some row => (.nothing, .goto (.count row.cursor))
    | none => (.nothing, .goto (.failing valueOfNull))
  | .readJob, .error _ => (.nothing, .goto (.failing valueOfNull))
  | .count v, .done => (.nothing, .goto (.transition { v with total := db.getDatasetRecordCount call.datasetId }))
  | .count _, .error what => (.nothing, .goto (.failing what))
  | .transition v, .done => (.transitionStatus call.jobId .pending .running,
      .goto (if (db.jobs.lookup call.jobId).any (fun row => decide (row.status = .pending)) then .announce v
        else .readBack v))
  | .transition v, .error _ => (.nothing, .goto (.readBack v))
  -- a row that another worker has taken is let through as well
  | .readBack v, .done =>
    match db.jobs.lookup call.jobId with
    | some row => (.nothing, if row.status = .running then .goto (.announce v) else .returns)
    | none => (.nothing, .goto (.failing valueOfNull))
  | .readBack _, .error _ => (.nothing, .goto (.failing valueOfNull))
  | .announce v, event => (updateOr event call .running v "", .goto (.loadModel v))
  | .loadModel v, .done => (.nothing, .goto (.loop v))
  | .loadModel _, .error what => (.nothing, .goto (.failing what))
  | .loop v, _ => (.nothing, .goto (if flagged then .finish v else .fetch v))
  | .fetch v, .done =>
    let records := db.fetchScoringRowsAfterRecord call.datasetId v.lastRecord batchSize
    (.nothing, .goto (if records = [] then .finish v else .insert v records))
  | .fetch _, .error what => (.nothing, .goto (.failing what))
  -- the scores are committed before the cursor is
  | .insert v records, .done => (.insertDatasetScores call.datasetId call.modelRunId records,
      .goto (.progress ⟨v.total, v.processed + records.length, records.getLastD v.lastRecord⟩))
  | .insert _ _, .error what => (.nothing, .goto (.failing what))
  | .progress v, event => (updateOr event call .running v "", .goto (.loop v))
  | .finish v, _ => (.nothing, .goto (if flagged then .cancelling v else .completing v))
  | .cancelling v, event => (updateOr event call .cancelled v "", .returns)
  | .completing v, event => (updateOr event call .completed v "", .returns)
  | .failing what, .done =>
    match db.jobs.lookup call.jobId with
    | some row => (.nothing, .goto (.recordFailure row.cursor what))
    | none => (.nothing, .throws valueOfNull)
  | .failing _, .error _ => (.nothing, .throws valueOfNull)
  | .recordFailure v what, event => (updateOr event call .failed v what, .throws what)

/-- Up to the end of the guard. -/
def ScorePc.guarding : ScorePc → Bool
  | .readJob | .count _ | .transition _ | .readBack _ => true
  | _ => false

/-- The cursor of a worker between its guard and the end of its loop. -/
def ScorePc.scoring : ScorePc → Option Cursor
  | .announce v | .loadModel v | .loop v | .fetch v | .insert v _ | .progress v => some v
  | _ => none

end TelemetryLab.Scoring
