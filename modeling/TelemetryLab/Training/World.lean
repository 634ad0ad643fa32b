import TelemetryLab.Jobs.JobManager
import TelemetryLab.Training.Worker

/-! The training service: the `model_runs` table, the job manager with its
bodies, the requests in progress, and the reconciler.

A step is one SQL statement and one change of the memory of the process, either
of which may be trivial. The body of a job is stored with its thread and moves
from control point to control point; when it ends it keeps the last one.
-/

set_option autoImplicit false
namespace TelemetryLab.Training
open Jobs

inductive Body where
  | train (call : TrainCall) (pc : TrainPc)
  | tune (task : TuningTask) (pc : TunePc)
  | other
  deriving DecidableEq

/-- A job between the creation of its row and the call of `StartJob`. -/
inductive Post where
  | train (call : TrainCall)
  | tune (task : TuningTask)
  deriving DecidableEq

namespace Post

def jobId : Post → String
  | .train call => "train-" ++ call.modelRunId
  | .tune task => "tuning-" ++ task.parentRunId

def requestId : Post → String
  | .train call => call.requestId
  | .tune task => task.requestId

def body : Post → Body
  | .train call => .train call .transition
  | .tune task => .tune task .transition

end Post

structure Memory where
  jobs : Jobs.World Body
  posts : List Post
  deletes : List DeleteCall

structure World where
  clock : Nat
  runs : Runs
  memory : Memory

def World.init : World := ⟨0, ∅, ⟨.init, [], []⟩⟩

/-- The fields of a `POST /train` body that `HandleTrainModel` reads. -/
structure TrainRequest where
  requestId : String
  datasetId : String
  name : String
  nComponents : Int
  percentile : ℚ
  hpoConfig : Option HpoConfig
  deriving DecidableEq

/-- The guardrails of `HandleTrainModel`; a request that fails one is answered 400. -/
def TrainRequest.accepted (request : TrainRequest) : Bool :=
  !nComponentsOutside request.nComponents && !percentileOutside request.percentile &&
    request.hpoConfig.all fun hpo => decide (validateHpoConfig hpo = [])

def TrainRequest.tuningTask (request : TrainRequest) (modelRunId : String) (hpo : HpoConfig)
    (draws : Nat → Nat × Nat) : TuningTask where
  parentRunId := modelRunId
  name := request.name
  datasetId := request.datasetId
  requestId := request.requestId
  trials := generateTrials hpo request.datasetId draws
  maxConcurrency := max 1 (min hpo.maxConcurrency 10)

/-- The job an accepted request starts once its row exists. -/
def TrainRequest.post (request : TrainRequest) (modelRunId : String) (draws : Nat → Nat × Nat) : Post :=
  match request.hpoConfig with
  | none => .train ⟨modelRunId, ⟨request.datasetId, request.nComponents, request.percentile⟩, request.requestId⟩
  | some hpo => .tune (request.tuningTask modelRunId hpo draws)

inductive Label where
  | tick
  | reconcile (staleTtl : Option Nat)
  | post (modelRunId : String) (request : TrainRequest) (draws : Nat → Nat × Nat)
  | postStart (i : Nat) (threadStarts : Bool)
  | delete (modelRunId : String)
  | deleteStep (i : Nat) (stored : Bool)
  | work (k : Nat) (event : Event)
  | job (label : Jobs.Label Body)

namespace Memory

def manager (memory : Memory) : JobManager Body := memory.jobs.manager

def withManager (memory : Memory) (manager : JobManager Body) : Memory :=
  { memory with jobs := { memory.jobs with manager } }

/-- `StartJob`, called by a handler or by a body. -/
def startJob (memory : Memory) (jobId requestId : String) (body : Body) (threadStarts : Bool) :
    StartOutcome × Memory :=
  let result := memory.manager.startJob jobId requestId body threadStarts
  (result.1, { memory with jobs :=
    { memory.jobs with manager := result.2, terminated := decide (result.1 = .terminated) } })

def setWork (memory : Memory) (k : Nat) (body : Body) : Memory :=
  memory.withManager { memory.manager with
    started := memory.manager.started.modify k fun thread => { thread with work := body } }

/-- Continue the body of thread `k`, or end it. -/
def advance {Pc : Type} (memory : Memory) (k : Nat) (body : Pc → Body) : Progress Pc → Memory
  | .goto pc => memory.setWork k (body pc)
  | .returns => memory.withManager (memory.manager.setPhase k .returned)
  | .throws what => memory.withManager (memory.manager.setPhase k (.threw what))

/-- What `RunPcaTraining` throws at the orchestrator when `StartJob` does. -/
def refusal : StartOutcome → String
  | .rejected what => what
  | _ => "Resource temporarily unavailable"

/-- `RunPcaTraining` is one call of `StartJob` with the training body. -/
def runPcaTraining (memory : Memory) (call : TrainCall) (threadStarts : Bool) : StartOutcome × Memory :=
  memory.startJob ("train-" ++ call.modelRunId) call.requestId (.train call .transition) threadStarts

/-- The orchestrator hands a trial to `RunPcaTraining`: the job starts, or the
exception of `StartJob` ends the orchestrator. -/
def dispatch (memory : Memory) (k : Nat) (task : TuningTask) (call : TrainCall) (threadStarts : Bool)
    (admitted : TunePc) : Memory :=
  let (outcome, after) := memory.runPcaTraining call threadStarts
  if outcome = .admitted ∨ outcome = .terminated then after.advance k (.tune task) (.goto admitted)
  else after.advance k (.tune task) (.throws (refusal outcome))

end Memory

/-- Steps of the job manager that are not steps of a training or tuning body. -/
def foreign (memory : Memory) : Jobs.Label Body → Bool
  | .startJob _ _ body _ => decide (body = .other)
  | .bodyReturn k | .bodyThrow k _ => (memory.manager.started[k]?).any fun thread => decide (thread.work = .other)
  | .finalSection _ | .cancelJob _ | .setMaxConcurrentJobs _ | .stop | .stopSection | .stopJoin | .stopReturn => true

/-- One action of the body of thread `k`. -/
def workStep (w : World) (k : Nat) (event : Event) : Option (Statement × Memory) :=
  match w.memory.manager.started[k]? with
  | none => none
  | some thread =>
    if thread.phase = .body then
      let flagged := w.memory.manager.flagSet thread.flag
      match thread.work with
      | .train call pc => (trainStep w.runs flagged call pc event).map fun result =>
          (result.1, w.memory.advance k (.train call) result.2)
      | .tune task pc => (tuneStep w.clock w.runs flagged task pc event).map fun action =>
          match action with
          | .statement statement progress => (statement, w.memory.advance k (.tune task) progress)
          | .runPcaTraining call threadStarts admitted =>
            (.nothing, w.memory.dispatch k task call threadStarts admitted)
      | .other => none
    else none

/-- The statement a step runs and the memory it leaves. -/
def act (w : World) : Label → Option (Statement × Memory)
  | .tick => some (.nothing, w.memory)
  | .reconcile staleTtl => some (.reconcile staleTtl, w.memory)
  | .post modelRunId request draws =>
    if request.accepted = true ∧ modelRunId ∉ w.runs then
      -- the row is created by the handler, the job is started afterwards
      some (.insert modelRunId (.inserted request.datasetId request.name request.requestId
          request.hpoConfig.isSome none none w.clock),
        { w.memory with posts := w.memory.posts ++ [request.post modelRunId draws] })
    else none
  | .postStart i threadStarts =>
    match w.memory.posts[i]? with
    | none => none
    | some post =>
      -- a refused job leaves its row `PENDING`
      let started := (w.memory.startJob post.jobId post.requestId post.body threadStarts).2
      some (.nothing, { started with posts := started.posts.eraseIdx i })
  | .delete modelRunId =>
    (openDelete w.runs modelRunId).map fun call =>
      (.nothing, { w.memory with deletes := w.memory.deletes ++ [call] })
  | .deleteStep i stored =>
    match w.memory.deletes[i]? with
    | none => none
    | some call =>
      (deleteStep w.runs stored call).map fun action =>
        let manager := match action.cancelJob with
          | some jobId => w.memory.manager.cancelJob jobId
          | none => w.memory.manager
        (action.statement, { w.memory.withManager manager with
          deletes := w.memory.deletes.set i { call with pc := action.pc } })
  | .work k event => workStep w k event
  | .job label =>
    if foreign w.memory label then (Jobs.stepLive w.memory.jobs label).map fun jobs => (.nothing, { w.memory with jobs })
    else none

def World.after (w : World) (label : Label) (result : Statement × Memory) : World where
  clock := if label matches .tick then w.clock + 1 else w.clock
  runs := result.1.run w.clock w.runs
  memory := result.2

/-- After `std::terminate` nothing runs. -/
def step (w : World) (label : Label) : Option World :=
  if w.memory.jobs.terminated then none else (act w label).map (w.after label)

theorem step_eq_some {w next : World} {label : Label} (taken : step w label = some next) :
    ∃ result, act w label = some result ∧ next = w.after label result := by
  unfold step at taken
  split at taken
  · cases taken
  · obtain ⟨result, acted, rfl⟩ := Option.map_eq_some_iff.mp taken
    exact ⟨result, acted, rfl⟩

end TelemetryLab.Training
