import TelemetryLab.Jobs.Consistency
import TelemetryLab.Server.Requests
import TelemetryLab.Training.Steps

/-! The handler of `POST /train` (`HandleTrainModel` in `api_server.cpp`).

It reads and checks the whole body before it stores anything. Then the row is
stored and committed, and only then the job is started, which can be refused.
-/

set_option autoImplicit false
namespace TelemetryLab.Server
open Pca (Json bind_eq_ok)
open Jobs (StartOutcome)
open Training Transition

variable {Text : Type}

/-! ## The request -/

/-- The answer for an exception, whichever line it comes from. -/
def trainError (raised : Raised) : ErrorAnswer :=
  if mentions raised.what "Job queue full" then
    sendError ("Error: " ++ raised.what) 503 "E_HTTP_RESOURCE_EXHAUSTED"
  else
    let code := classifyHttpError raised
    sendError ("Error: " ++ raised.what) (if isClientError code then 400 else 500) code

def readHpoConfig (config : Json ℚ) : Except Raised HpoConfig := do
  let algorithm ← valueOr "algorithm" getString "grid" config
  let maxTrials ← valueOr "max_trials" getInt 10 config
  let maxConcurrency ← valueOr "max_concurrency" getInt 2 config
  let seed ← (contained "seed" config).mapM getInt
  let ss := contained "search_space" config
  let nComponents ← (ss.bind (contained "n_components")).mapM (getVector getInt)
  let percentile ← (ss.bind (contained "percentile")).mapM (getVector getRational)
  pure ⟨algorithm, maxTrials, maxConcurrency, seed, ⟨nComponents.getD [], percentile.getD []⟩⟩

/-- The tuning configuration of a body, if there is one, with its own answer for an invalid one. -/
def readTuning (j : Json ℚ) : Except ErrorAnswer (Option HpoConfig) :=
  match contained "hpo_config" j with
  | none => .ok none
  | some config => do
    let hpo ← (readHpoConfig config).mapError trainError
    let errors := validateHpoConfig hpo
    if errors = [] then .ok (some hpo)
    else .error ⟨"Invalid HPO configuration", 400, "E_HTTP_INVALID_ARGUMENT",
      errors.map fun error => (error.field, error.message)⟩

def readTrainRequest (parse : Text → Except Raised (Json ℚ)) (requestId : String) (body : Text) :
    Except ErrorAnswer TrainRequest := do
  let j ← (parse body).mapError trainError
  let datasetId ← ((atKey "dataset_id" j).bind getString).mapError trainError
  let name ← (valueOr "name" getString "pca_default" j).mapError trainError
  let nComponents ← (valueOr "n_components" getInt 3 j).mapError trainError
  let percentile ← (valueOr "percentile" getRational (199 / 2) j).mapError trainError
  if nComponentsOutside nComponents then
    .error (sendError "n_components must be between 1 and 5" 400 "E_HTTP_BAD_REQUEST")
  else if percentileOutside percentile then
    .error (sendError "percentile must be between 50.0 and 99.99" 400 "E_HTTP_BAD_REQUEST")
  else do
    let hpoConfig ← readTuning j
    pure ⟨requestId, datasetId, name, nComponents, percentile, hpoConfig⟩

theorem readTuning_accepted {j : Json ℚ} {tuning : Option HpoConfig} (read : readTuning j = .ok tuning) :
    tuning.all (fun hpo => decide (validateHpoConfig hpo = [])) = true := by
  unfold readTuning at read
  split at read
  · cases read
    rfl
  · obtain ⟨hpo, _, checked⟩ := bind_eq_ok read
    dsimp only at checked
    split at checked
    next valid =>
      cases checked
      simpa using valid
    · cases checked

/-- A request that is read has passed every check. -/
theorem readTrainRequest_accepted {parse : Text → Except Raised (Json ℚ)} {requestId : String} {body : Text}
    {request : TrainRequest} (read : readTrainRequest parse requestId body = .ok request) :
    request.accepted = true := by
  unfold readTrainRequest at read
  obtain ⟨j, _, read⟩ := bind_eq_ok read
  obtain ⟨datasetId, _, read⟩ := bind_eq_ok read
  obtain ⟨name, _, read⟩ := bind_eq_ok read
  obtain ⟨nComponents, _, read⟩ := bind_eq_ok read
  obtain ⟨percentile, _, read⟩ := bind_eq_ok read
  split at read
  · cases read
  next inside =>
    split at read
    · cases read
    next below =>
      obtain ⟨tuning, checked, done⟩ := bind_eq_ok read
      cases done
      simp only [TrainRequest.accepted, Bool.and_eq_true, Bool.not_eq_true', Bool.eq_false_of_not_eq_true inside,
        Bool.eq_false_of_not_eq_true below, readTuning_accepted checked, and_self]

/-! ## The handler -/

inductive TrainAnswer where
  | submitted (modelRunId : String) (hpoPreflight : Option HpoPreflight)
  | error (answer : ErrorAnswer)
  deriving DecidableEq, Repr

def TrainAnswer.status : TrainAnswer → Nat
  | .submitted _ _ => 202
  | .error answer => answer.status

/-- The answer after the call of `StartJob`; none if it has ended the process. -/
def startAnswer (request : TrainRequest) (modelRunId : String) : StartOutcome → Option TrainAnswer
  | .admitted => some (.submitted modelRunId (request.hpoConfig.map preflightHpoConfig))
  | .rejected what => some (.error (trainError (.thrown (.runtimeError what))))
  | .systemError => some (.error (trainError (.systemError "Resource temporarily unavailable")))
  | .terminated => none

def insertedRow (request : TrainRequest) (now : Nat) : ModelRun :=
  .inserted request.datasetId request.name request.requestId request.hpoConfig.isSome none none now

/-- The handler on the state of the service. -/
def handleTrainModel (parse : Text → Except Raised (Json ℚ)) (requestId : String) (body : Text) (w : World)
    (created : Created w.runs) (draws : Nat → Nat × Nat) (threadStarts : Bool) : Option TrainAnswer × World :=
  match readTrainRequest parse requestId body with
  | .error answer => (some (.error answer), w)
  | .ok request =>
    match created with
    | .failed raised => (some (.error (trainError raised)), w)
    | .empty => (some (.error (sendError "Failed to create model run in DB" 500 "E_DB_INSERT_FAILED")), w)
    | .unconfirmed key raised =>
      (some (.error (trainError raised)), { w with runs := w.runs.insert key.id (insertedRow request w.clock) })
    | .stored key =>
      let post := request.post key.id draws
      let started := w.memory.startJob post.jobId post.requestId post.body threadStarts
      (startAnswer request key.id started.1,
        { w with runs := w.runs.insert key.id (insertedRow request w.clock), memory := started.2 })

/-- The handler stores the row and starts the job as two steps of the service. -/
theorem handleTrainModel_steps {parse : Text → Except Raised (Json ℚ)} {requestId : String} {body : Text}
    {w : World} {request : TrainRequest} (alive : w.memory.jobs.terminated = false)
    (read : readTrainRequest parse requestId body = .ok request) (key : NewKey w.runs) (draws : Nat → Nat × Nat)
    (threadStarts : Bool) :
    exec step w [.post key.id request draws, .postStart w.memory.posts.length threadStarts] =
      some (handleTrainModel parse requestId body w (.stored key) draws threadStarts).2 := by
  let post := request.post key.id draws
  let posted : World :=
    ⟨w.clock, w.runs.insert key.id (insertedRow request w.clock), { w.memory with posts := w.memory.posts ++ [post] }⟩
  have first : step w (.post key.id request draws) = some posted := by
    simp [step, alive, act, readTrainRequest_accepted read, key.fresh, World.after, Statement.run, insertedRow, posted,
      post]
  have last : posted.memory.posts[w.memory.posts.length]? = some post := List.getElem?_concat_length
  have erased : posted.memory.posts.eraseIdx w.memory.posts.length = w.memory.posts := by
    show (w.memory.posts ++ [post]).eraseIdx _ = _
    rw [List.eraseIdx_append_of_length_le (Nat.le_refl _), Nat.sub_self, List.eraseIdx_zero, List.tail_cons,
      List.append_nil]
  have second : act posted (.postStart w.memory.posts.length threadStarts) =
      some (.nothing, (w.memory.startJob post.jobId post.requestId post.body threadStarts).2) := by
    simp only [act, last, Memory.startJob, erased]
    rfl
  have handled : (handleTrainModel parse requestId body w (.stored key) draws threadStarts).2 =
      { posted with memory := (w.memory.startJob post.jobId post.requestId post.body threadStarts).2 } := by
    simp [handleTrainModel, read, posted, post]
  have alive' : posted.memory.jobs.terminated = false := alive
  rw [exec, first, Option.bind_some, exec_singleton, handled]
  simp only [step, alive', second]
  rfl

/-! ## What an error leaves behind -/

/-- Every row that waits or runs afterwards was there before. -/
def NoNewLive (before after : Runs) : Prop :=
  ∀ id row, after.lookup id = some row → row.status = .pending ∨ row.status = .running → id ∈ before

theorem NoNewLive.refl (runs : Runs) : NoNewLive runs runs :=
  fun _ _ found _ => Table.mem_of_lookup found

theorem insert_newLive {runs : Runs} (key : NewKey runs) (request : TrainRequest) (now : Nat) :
    ¬ NoNewLive runs (runs.insert key.id (insertedRow request now)) := by
  intro noNew
  exact key.fresh (noNew key.id (insertedRow request now) (AList.lookup_insert _) (.inl rfl))

theorem trainError_status (raised : Raised) : 400 ≤ (trainError raised).status := by
  unfold trainError
  split
  · exact Nat.le_of_ble_eq_true rfl
  · cases client : isClientError (classifyHttpError raised) with
    | true => simp [sendError, client]
    | false => simp [sendError, client]

theorem startAnswer_error (request : TrainRequest) (modelRunId : String) {outcome : StartOutcome}
    (throws : outcome.throws = true) :
    ∃ raised, startAnswer request modelRunId outcome = some (.error (trainError raised)) := by
  cases outcome with
  | rejected what => exact ⟨_, rfl⟩
  | systemError => exact ⟨_, rfl⟩
  | admitted => cases throws
  | terminated => cases throws

theorem startAnswer_accepted {request : TrainRequest} {modelRunId : String} {outcome : StartOutcome}
    (returns : outcome.throws = false) {answer : TrainAnswer}
    (answered : startAnswer request modelRunId outcome = some answer) : answer.status = 202 := by
  cases outcome with
  | admitted =>
    cases answered
    rfl
  | terminated => cases answered
  | rejected what => cases returns
  | systemError => cases returns

/-- No row is stored, or its key is returned and then `starts` holds. -/
def Created.FollowedBy {A : Type} {rows : Table String A} (starts : Prop) : Created rows → Prop
  | .stored _ => starts
  | .unconfirmed _ _ => False
  | .empty | .failed _ => True

/-- An error leaves no new live row behind exactly if the request is refused before
the row is stored, or the stored row gets its job. -/
theorem train_error_atomic (parse : Text → Except Raised (Json ℚ)) (requestId : String) (body : Text) (w : World)
    (created : Created w.runs) (draws : Nat → Nat × Nat) (threadStarts : Bool) :
    (∀ answer, (handleTrainModel parse requestId body w created draws threadStarts).1 = some answer →
        400 ≤ answer.status →
        NoNewLive w.runs (handleTrainModel parse requestId body w created draws threadStarts).2.runs) ↔
      ∀ request, readTrainRequest parse requestId body = .ok request →
        created.FollowedBy (w.memory.manager.Admits ∧ threadStarts = true) := by
  unfold handleTrainModel
  cases read : readTrainRequest parse requestId body with
  | error answer =>
    refine iff_of_true ?_ ?_
    · exact fun _ _ _ => .refl w.runs
    · intro request accepted
      cases accepted
  | ok request =>
    have gets : (∀ accepted, Except.ok request = (.ok accepted : Except ErrorAnswer TrainRequest) →
        created.FollowedBy (w.memory.manager.Admits ∧ threadStarts = true)) ↔
        created.FollowedBy (w.memory.manager.Admits ∧ threadStarts = true) :=
      ⟨fun all => all request rfl, fun followed _ _ => followed⟩
    rw [gets]
    cases created with
    | failed raised => exact iff_of_true (fun _ _ _ => .refl w.runs) trivial
    | empty => exact iff_of_true (fun _ _ _ => .refl w.runs) trivial
    | unconfirmed key raised =>
      refine iff_of_false ?_ id
      intro atomic
      exact insert_newLive key request w.clock (atomic _ rfl (trainError_status raised))
    | stored key =>
      let post := request.post key.id draws
      have starts := Jobs.JobManager.startJob_throws w.memory.manager post.jobId post.requestId post.body threadStarts
      refine Iff.trans ⟨?_, ?_⟩ starts
      · intro atomic
        by_contra throws
        rw [Bool.not_eq_false] at throws
        obtain ⟨raised, answered⟩ := startAnswer_error request key.id throws
        exact insert_newLive key request w.clock (atomic _ answered (trainError_status raised))
      · intro returns answer answered refused
        rw [startAnswer_accepted returns answered] at refused
        exact absurd refused (by decide)

/-- One job is allowed, and one is running. -/
def queueFull : List Label :=
  [.job (.setMaxConcurrentJobs 1), .post "m" ⟨"q", "d", "pca_default", 3, 199 / 2, none⟩ fun _ => (0, 0),
    .postStart 0 true]

def fullWorld : World := (exec step World.init queueFull).get (by decide +kernel)

def nextKey : NewKey fullWorld.runs := ⟨"n", by decide, by decide +kernel⟩

/-- The next request: its answer, and the state it leaves. -/
def nextRequest : Option TrainAnswer × World :=
  handleTrainModel .ok "r" (.object [("dataset_id", .string "d")]) fullWorld (.stored nextKey)
    (fun _ => (0, 0)) true

theorem full_queue_leaves_pending_row :
    exec step World.init queueFull = some fullWorld ∧
    nextRequest.1 = some (.error (sendError "Error: Job queue full: max concurrent jobs reached" 503
      "E_HTTP_RESOURCE_EXHAUSTED")) ∧
    nextRequest.2.runs.lookup "n" = some (insertedRow ⟨"r", "d", "pca_default", 3, 199 / 2, none⟩ 0) ∧
    ¬ NoNewLive fullWorld.runs nextRequest.2.runs := by
  have stays : nextRequest.2.runs.lookup "n" = some (insertedRow ⟨"r", "d", "pca_default", 3, 199 / 2, none⟩ 0) := by
    decide +kernel
  refine ⟨(Option.some_get _).symm, by decide +kernel, stays, ?_⟩
  intro noNew
  exact nextKey.fresh (noNew "n" _ stays (.inl rfl))

end TelemetryLab.Server
