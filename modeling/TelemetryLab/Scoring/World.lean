import TelemetryLab.Lib.Transition
import TelemetryLab.Scoring.Worker

/-! The scoring service: requests, workers, the reconciler and the telemetry that
keeps coming in.

`CreateScoreJob` is a select and, if it finds nothing, an insert that becomes
visible at its commit, so a request is a small program of its own. Whether
`StartJob` admits a worker, and when its stop flag is set, is left to the
schedule; so is the number of server processes.
-/

set_option autoImplicit false
namespace TelemetryLab.Scoring
open Jobs

structure Worker where
  call : ScoreCall
  pc : ScorePc
  flagged : Bool
  ended : Bool
  deriving DecidableEq

inductive RequestPc where
  | select
  | insert
  | load (jobId : String)
  | start (jobId : String)
  deriving DecidableEq, Repr

structure Request where
  datasetId : String
  modelRunId : String
  requestId : String
  pc : RequestPc
  deriving DecidableEq, Repr

inductive RequestEvent where
  | done
  | error
  | chosen (jobId : String)
  | created (jobId : String)
  deriving DecidableEq, Repr

structure World where
  db : Db
  workers : List Worker
  requests : List Request

def World.init : World := ⟨⟨0, ∅, [], ∅⟩, [], []⟩

inductive Label where
  | tick
  | ingest (recordId : Int) (datasetId : String)
  | reconcile (staleTtl : Option Nat)
  | request (datasetId modelRunId requestId : String)
  | requestStep (i : Nat) (event : RequestEvent)
  | work (i : Nat) (event : Event)
  | cancel (i : Nat)

/-- What a request does next: a statement, then its next point, a worker it
starts, or its answer. -/
inductive RequestAction where
  | goto (statement : Statement) (pc : RequestPc)
  | start (call : ScoreCall)
  | answer

/-- `HandleScoreDatasetJob` up to the call of `StartJob`. A job that is already
running or completed is only reported. -/
def requestStep (db : Db) (request : Request) : RequestPc → RequestEvent → Option RequestAction
  | .select, .chosen jobId =>
    if jobId ∈ db.liveScoreJobs request.datasetId request.modelRunId then some (.goto .nothing (.load jobId)) else none
  | .select, .done =>
    if db.liveScoreJobs request.datasetId request.modelRunId = [] then some (.goto .nothing .insert) else none
  -- the id comes from the database, so it is a new one
  | .insert, .created jobId =>
    if jobId ∈ db.jobs then none
    else some (.goto (.insertScoreJob jobId
      (.inserted request.datasetId request.modelRunId request.requestId db.clock)) (.load jobId))
  -- a failed or cancelled job is started again, with the cursor it has stored
  | .load jobId, .done =>
    match db.jobs.lookup jobId with
    | some row =>
      some (if row.status = .running ∨ row.status = .completed then .answer else .goto .nothing (.start jobId))
    | none => some .answer
  | .start jobId, .done => some (.start ⟨jobId, request.datasetId, request.modelRunId, request.requestId⟩)
  | _, .error => some .answer
  | _, _ => none

/-- Continue the body of a worker, or end it. -/
def Worker.advance (worker : Worker) : Progress ScorePc → Worker
  | .goto pc => { worker with pc }
  | .returns | .throws _ => { worker with ended := true }

theorem Worker.advance_alive {worker : Worker} {progress : Progress ScorePc}
    (alive : (worker.advance progress).ended = false) : ∃ pc, progress = .goto pc := by
  cases progress with
  | goto pc => exact ⟨pc, rfl⟩
  | returns => cases alive
  | throws what => cases alive

def act (w : World) : Label → Option (Statement × List Worker × List Request)
  | .tick => some (.tick, w.workers, w.requests)
  | .ingest recordId datasetId =>
    if recordId ∈ w.db.telemetry then none else some (.insertTelemetry recordId datasetId, w.workers, w.requests)
  | .reconcile staleTtl => some (.reconcile staleTtl, w.workers, w.requests)
  | .request datasetId modelRunId requestId =>
    some (.nothing, w.workers, w.requests ++ [⟨datasetId, modelRunId, requestId, .select⟩])
  | .requestStep i event =>
    match w.requests[i]? with
    | none => none
    | some request =>
      (requestStep w.db request request.pc event).map fun action =>
        match action with
        | .goto statement pc => (statement, w.workers, w.requests.set i { request with pc })
        | .start call => (.nothing, w.workers ++ [⟨call, .readJob, false, false⟩], w.requests.eraseIdx i)
        | .answer => (.nothing, w.workers, w.requests.eraseIdx i)
  | .work i event =>
    match w.workers[i]? with
    | none => none
    | some worker =>
      if worker.ended then none
      else
        let result := scoreStep w.db worker.flagged worker.call worker.pc event
        some (result.1, w.workers.set i (worker.advance result.2), w.requests)
  | .cancel i => some (.nothing, w.workers.modify i fun worker => { worker with flagged := true }, w.requests)

def step (w : World) (label : Label) : Option World :=
  (act w label).map fun result => ⟨w.db.run result.1, result.2.1, result.2.2⟩

theorem step_eq_some {w next : World} {label : Label} (taken : step w label = some next) :
    ∃ statement workers requests, act w label = some (statement, workers, requests) ∧
      next = ⟨w.db.run statement, workers, requests⟩ := by
  obtain ⟨⟨statement, workers, requests⟩, acted, rfl⟩ := Option.map_eq_some_iff.mp taken
  exact ⟨statement, workers, requests, acted, rfl⟩

/-! ## Where workers and statements come from -/

/-- The origin of worker `j` in a step. -/
inductive Origin (w : World) (label : Label) (statement : Statement) (j : Nat) (after : Worker) : Prop
  | kept (before : Worker) (found : w.workers[j]? = some before) (call : after.call = before.call)
      (pc : after.pc = before.pc) (ended : after.ended = before.ended)
      (idle : ∀ event, label ≠ .work j event)
  | started (pc : after.pc = .readJob) (ended : after.ended = false)
  | moved (before : Worker) (event : Event) (here : label = .work j event) (found : w.workers[j]? = some before)
      (alive : before.ended = false) (issued : (scoreStep w.db before.flagged before.call before.pc event).1 = statement)
      (now : after = before.advance (scoreStep w.db before.flagged before.call before.pc event).2)

theorem act_origin {w : World} {label : Label} {statement : Statement} {workers : List Worker}
    {requests : List Request} (acted : act w label = some (statement, workers, requests)) {j : Nat} {after : Worker}
    (found : workers[j]? = some after) : Origin w label statement j after := by
  have kept (same : workers = w.workers) (idle : ∀ event, label ≠ .work j event) : Origin w label statement j after :=
    .kept after (same ▸ found) rfl rfl rfl idle
  cases label with
  | tick =>
    cases acted
    exact kept rfl (by simp)
  | ingest recordId datasetId =>
    simp only [act] at acted
    split at acted <;> cases acted
    exact kept rfl (by simp)
  | reconcile staleTtl =>
    cases acted
    exact kept rfl (by simp)
  | request datasetId modelRunId requestId =>
    cases acted
    exact kept rfl (by simp)
  | requestStep i event =>
    simp only [act] at acted
    split at acted
    · cases acted
    · obtain ⟨action, _, same⟩ := Option.map_eq_some_iff.mp acted
      cases action with
      | goto issued pc =>
        cases same
        exact kept rfl (by simp)
      | answer =>
        cases same
        exact kept rfl (by simp)
      | start call =>
        -- the only step that adds a worker, behind those that are there
        cases same
        rw [List.getElem?_append] at found
        split at found
        · exact .kept after found rfl rfl rfl (by simp)
        · rw [List.getElem?_singleton] at found
          split at found <;> cases found
          exact .started rfl rfl
  | work i event =>
    simp only [act] at acted
    split at acted
    · cases acted
    next worker present =>
      split at acted
      · cases acted
      next alive =>
        cases acted
        by_cases here : i = j
        · subst here
          rw [List.getElem?_set_self (List.getElem?_eq_some_iff.mp present).1] at found
          cases found
          exact .moved worker event rfl present (by simpa using alive) rfl rfl
        · rw [List.getElem?_set_ne here] at found
          exact .kept after found rfl rfl rfl (by simp [here])
  | cancel i =>
    -- the flag has no part in what is kept of a worker
    cases acted
    rw [List.getElem?_modify] at found
    obtain ⟨before, present, rfl⟩ := Option.map_eq_some_iff.mp found
    refine .kept before present ?_ ?_ ?_ (by simp) <;> split <;> rfl

/-- The statements that touch score jobs or scores, and who issues them. -/
inductive Issued (w : World) (label : Label) : Statement → Prop
  | other (statement : Statement) (jobs : ∀ db : Db, (db.run statement).jobs = db.jobs)
      (scores : ∀ db : Db, (db.run statement).scores = db.scores) : Issued w label statement
  | created (jobId : String) (row : ScoreJob) (fresh : jobId ∉ w.db.jobs) (pending : row.status = .pending) :
      Issued w label (.insertScoreJob jobId row)
  | reconciled (staleTtl : Option Nat) (here : label = .reconcile staleTtl) : Issued w label (.reconcile staleTtl)
  | worked (i : Nat) (event : Event) (worker : Worker) (here : label = .work i event)
      (found : w.workers[i]? = some worker) (alive : worker.ended = false) :
      Issued w label (scoreStep w.db worker.flagged worker.call worker.pc event).1

theorem act_issued {w : World} {label : Label} {statement : Statement} {workers : List Worker}
    {requests : List Request} (acted : act w label = some (statement, workers, requests)) : Issued w label statement := by
  cases label with
  | tick =>
    cases acted
    exact .other _ (fun _ => rfl) fun _ => rfl
  | ingest recordId datasetId =>
    simp only [act] at acted
    split at acted <;> cases acted
    exact .other _ (fun _ => rfl) fun _ => rfl
  | reconcile staleTtl =>
    cases acted
    exact .reconciled staleTtl rfl
  | request datasetId modelRunId requestId =>
    cases acted
    exact .other _ (fun _ => rfl) fun _ => rfl
  | requestStep i event =>
    simp only [act] at acted
    split at acted
    · cases acted
    next request present =>
      obtain ⟨action, ran, same⟩ := Option.map_eq_some_iff.mp acted
      cases action with
      | goto issued pc =>
        cases same
        simp only [requestStep] at ran
        split at ran <;> grind [Issued, Db.run, ScoreJob.inserted]
      | answer =>
        cases same
        exact .other _ (fun _ => rfl) fun _ => rfl
      | start call =>
        cases same
        exact .other _ (fun _ => rfl) fun _ => rfl
  | work i event =>
    simp only [act] at acted
    split at acted
    · cases acted
    next worker present =>
      split at acted
      · cases acted
      next alive =>
        cases acted
        exact .worked i event worker rfl present (by simpa using alive)
  | cancel i =>
    cases acted
    exact .other _ (fun _ => rfl) fun _ => rfl

end TelemetryLab.Scoring
