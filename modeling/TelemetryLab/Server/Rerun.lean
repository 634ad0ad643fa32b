import TelemetryLab.Jobs.Threads
import TelemetryLab.Pca.Agreement
import TelemetryLab.Server.Requests
import TelemetryLab.Training.World

/-! The handler of `POST /models/{id}/rerun_failed` (`api_server.cpp`) and the JSON
objects that `GetModelRun` and `GetHpoTrials` make of the rows of `model_runs`.

A `JSONB` column is the value that its text is read as. The handler has no
`catch`: an exception leaves it, after whatever it has stored and started.
-/

set_option autoImplicit false
namespace TelemetryLab.Server
open Jobs (JobState)
open Pca (Json)
open Training (Body Memory TrainingConfig)

/-! ## Rows -/

/-- A row of `model_runs` under its id. -/
structure RunRow where
  datasetId : String
  name : String
  status : JobState
  artifactPath : Option String
  error : Option String
  createdAt : String
  completedAt : Option String
  requestId : Option String
  trainingConfig : Json ℚ
  hpoConfig : Option (Json ℚ)
  parentRunId : Option String
  trialIndex : Option Int
  trialParams : Option (Json ℚ)
  bestTrialRunId : Option String
  bestMetricValue : Option ℚ
  bestMetricName : Option String
  selectionMetricDirection : Option String
  tieBreakBasis : Option String
  isEligible : Bool
  eligibilityReason : Option String
  selectionMetricValue : Option ℚ
  candidateFingerprint : Option String
  generatorVersion : Option String
  seedUsed : Option Int
  errorSummary : Option (Json ℚ)
  errorAggregates : Option (Json ℚ)
  selectionMetricSource : Option String
  selectionMetricComputedAt : Option String

abbrev RunRows := Table String RunRow

/-- The row `CreateHpoTrialRun` inserts. -/
def RunRow.trial (datasetId name requestId parentRunId createdAt : String) (trainingConfig : Json ℚ) (trialIndex : Int)
    (trialParams : Json ℚ) : RunRow where
  datasetId := datasetId
  name := name
  status := .pending
  artifactPath := none
  error := none
  createdAt := createdAt
  completedAt := none
  requestId := some requestId
  trainingConfig := trainingConfig
  hpoConfig := none
  parentRunId := some parentRunId
  trialIndex := some trialIndex
  trialParams := some trialParams
  bestTrialRunId := none
  bestMetricValue := none
  bestMetricName := none
  selectionMetricDirection := none
  tieBreakBasis := none
  isEligible := true
  eligibilityReason := none
  selectionMetricValue := none
  candidateFingerprint := none
  generatorVersion := none
  seedUsed := none
  errorSummary := none
  errorAggregates := none
  selectionMetricSource := none
  selectionMetricComputedAt := none

/-- A null column is null in the object. -/
def nullable {A : Type} (write : A → Json ℚ) (column : Option A) : Json ℚ := (column.map write).getD .null

/-- A null column is the empty text in the object. -/
def orEmpty (column : Option String) : Json ℚ := .string (column.getD "")

/-- The assignments `j[key] = value` on a null value. -/
def assigned (fields : List (String × Json ℚ)) : Json ℚ := fields.foldl (fun j field => j.put [field.1] field.2) .null

def RunRow.modelRunFields (modelRunId : String) (row : RunRow) : List (String × Json ℚ) :=
  [("model_run_id", .string modelRunId), ("dataset_id", .string row.datasetId), ("name", .string row.name),
    ("status", .string (row.status.stateToString)), ("artifact_path", orEmpty row.artifactPath),
    ("error", orEmpty row.error), ("created_at", .string row.createdAt), ("completed_at", orEmpty row.completedAt),
    ("request_id", orEmpty row.requestId), ("training_config", row.trainingConfig),
    ("hpo_config", nullable id row.hpoConfig), ("parent_run_id", nullable .string row.parentRunId),
    ("trial_index", nullable .integer row.trialIndex), ("trial_params", nullable id row.trialParams),
    ("best_trial_run_id", nullable .string row.bestTrialRunId),
    ("best_metric_value", nullable .number row.bestMetricValue),
    ("best_metric_name", nullable .string row.bestMetricName),
    ("selection_metric_direction", nullable .string row.selectionMetricDirection),
    ("tie_break_basis", nullable .string row.tieBreakBasis), ("is_eligible", .bool row.isEligible),
    ("eligibility_reason", nullable .string row.eligibilityReason),
    ("selection_metric_value", nullable .number row.selectionMetricValue),
    ("candidate_fingerprint", nullable .string row.candidateFingerprint),
    ("generator_version", nullable .string row.generatorVersion), ("seed_used", nullable .integer row.seedUsed),
    ("error_summary", nullable id row.errorSummary), ("error_aggregates", nullable id row.errorAggregates),
    ("selection_metric_source", nullable .string row.selectionMetricSource),
    ("selection_metric_computed_at", nullable .string row.selectionMetricComputedAt)]

/-- A run that is not there gives the null value. -/
def getModelRun (runs : RunRows) (modelRunId : String) : Json ℚ :=
  match runs.lookup modelRunId with
  | some row => assigned (row.modelRunFields modelRunId)
  | none => .null

/-- The object of a trial. A null index or null parameters are an exception. -/
def RunRow.trialJson (modelRunId : String) (row : RunRow) : Option (Json ℚ) :=
  match row.trialIndex, row.trialParams with
  | some trialIndex, some trialParams => some (assigned
      [("model_run_id", .string modelRunId), ("status", .string (row.status.stateToString)),
        ("trial_index", .integer trialIndex), ("trial_params", trialParams), ("created_at", .string row.createdAt),
        ("completed_at", orEmpty row.completedAt), ("error", orEmpty row.error), ("is_eligible", .bool row.isEligible),
        ("eligibility_reason", nullable .string row.eligibilityReason),
        ("selection_metric_value", nullable .number row.selectionMetricValue),
        ("selection_metric_source", nullable .string row.selectionMetricSource),
        ("error_summary", nullable id row.errorSummary), ("dataset_id", .string row.datasetId),
        ("name", .string row.name), ("training_config", row.trainingConfig)])
  | _, _ => none

/-- `ORDER BY trial_index ASC`, where null is last. -/
def indexLe : Option Int → Option Int → Bool
  | some a, some b => decide (a ≤ b)
  | none, some _ => false
  | _, none => true

/-- The rows of the query; `GetHpoTrials` asks for the first thousand. -/
def selectTrials (runs : RunRows) (parentRunId : String) : List (String × RunRow) :=
  let trials := (runs.entries.map fun entry => (entry.1, entry.2)).filter fun entry =>
    decide (entry.2.parentRunId = some parentRunId)
  (trials.insertionSort fun a b => indexLe a.2.trialIndex b.2.trialIndex).take 1000

/-- The loop over the result, which an exception ends. -/
def readTrials : List (String × RunRow) → List (Json ℚ)
  | [] => []
  | (modelRunId, row) :: rest =>
    match row.trialJson modelRunId with
    | some j => j :: readTrials rest
    | none => []

def getHpoTrials (runs : RunRows) (parentRunId : String) : List (Json ℚ) := readTrials (selectTrials runs parentRunId)

/-! ## The handler -/

/-- `j[key]` -/
def index (key : String) (j : Json ℚ) : Except Raised (Json ℚ) := (j.get key).mapError .thrown

/-- The test of a trial's status, where a text is compared. -/
def isFailedOrCancelled (t : Json ℚ) : Bool :=
  match index "status" t with
  | .ok (.string status) => decide (status = "FAILED" ∨ status = "CANCELLED")
  | _ => false

/-- The arguments of `CreateHpoTrialRun` that come from the trial. -/
structure TrialArguments where
  name : String
  datasetId : String
  trainingConfig : Json ℚ
  trialIndex : Int
  trialParams : Json ℚ

def trialArguments (t : Json ℚ) : Except Raised TrialArguments := do
  let name ← (index "name" t).bind getString
  let datasetId ← (index "dataset_id" t).bind getString
  let trainingConfig ← index "training_config" t
  let trialIndex ← (index "trial_index" t).bind getInt
  let trialParams ← index "trial_params" t
  pure { name, datasetId, trainingConfig, trialIndex, trialParams }

/-- What `RunPcaTraining` is called with. -/
def trialConfig (datasetId : String) (trainingConfig : Json ℚ) : Except Raised TrainingConfig := do
  let nComponents ← (index "n_components" trainingConfig).bind getInt
  let percentile ← (index "percentile" trainingConfig).bind getRational
  pure { datasetId, nComponents, percentile }

/-- A text that names a rerun already is kept. -/
def rerunName (name uuid : String) : String :=
  if mentions name "_rerun_" then name else name ++ "_rerun_" ++ String.ofList (uuid.toList.take 4)

structure Service where
  runs : RunRows
  memory : Memory

/-- What surrounds the handler: the id of the request, the time, and for each
round the UUID of the name, the outcome of the insert and whether the thread starts. -/
structure Surroundings where
  requestId : String
  now : String
  uuid : Nat → String
  create : Nat → (runs : RunRows) → Created runs
  threadStarts : Nat → Bool

/-- How the handler is left when it does not come to its end. -/
inductive Left where
  | uncaught (raised : Raised)
  | terminated

/-- One round of the loop, with the id that `CreateHpoTrialRun` returns. -/
def rerunTrial (around : Surroundings) (parentRunId : String) (count : Nat) (t : Json ℚ) (s : Service) :
    Except Left String × Service :=
  match trialArguments t with
  | .error raised => (.error (.uncaught raised), s)
  | .ok arguments =>
    let row := RunRow.trial arguments.datasetId (rerunName arguments.name (around.uuid count)) around.requestId
      parentRunId around.now arguments.trainingConfig arguments.trialIndex arguments.trialParams
    match around.create count s.runs with
    | .failed raised => (.error (.uncaught raised), s)
    | .unconfirmed key raised => (.error (.uncaught raised), { s with runs := s.runs.insert key.id row })
    | .empty => (.ok "", s)
    | .stored key =>
      let runs := s.runs.insert key.id row
      -- from here on the row stays, whatever happens
      match trialConfig arguments.datasetId arguments.trainingConfig with
      | .error raised => (.error (.uncaught raised), { s with runs })
      | .ok config =>
        let started := s.memory.runPcaTraining ⟨key.id, config, around.requestId⟩ (around.threadStarts count)
        let next : Service := { runs, memory := started.2 }
        match started.1 with
        | .admitted => (.ok key.id, next)
        | .rejected what => (.error (.uncaught (.thrown (.runtimeError what))), next)
        | .systemError => (.error (.uncaught (.systemError "Resource temporarily unavailable")), next)
        | .terminated => (.error .terminated, next)

def rerunLimit : Nat := 10

def rerunTrials (around : Surroundings) (parentRunId : String) :
    List (Json ℚ) → Nat → List String → Service → Except Left (Nat × List String) × Service
  | [], count, newTrialIds, s => (.ok (count, newTrialIds), s)
  | t :: rest, count, newTrialIds, s =>
    if rerunLimit ≤ count then (.ok (count, newTrialIds), s)
    else
      match rerunTrial around parentRunId count t s with
      | (.error left, s) => (.error left, s)
      | (.ok newTid, s) =>
        rerunTrials around parentRunId rest (count + 1) (if newTid = "" then newTrialIds else newTrialIds ++ [newTid]) s

inductive RerunAnswer where
  | rerun (rerunCount : Nat) (newTrialIds : List String)
  | error (answer : ErrorAnswer)
  | left (left : Left)

/-- The handler behind the test of the type. -/
def rerunFailed (around : Surroundings) (modelRunId : String) (s : Service) : RerunAnswer × Service :=
  let failedTrials := (getHpoTrials s.runs modelRunId).filter isFailedOrCancelled
  if failedTrials = [] then
    (.error (sendError "No failed or cancelled trials to rerun" 400 "E_NO_FAILED_TRIALS"), s)
  else
    match rerunTrials around modelRunId failedTrials 0 [] s with
    | (.ok (count, newTrialIds), s) => (.rerun count newTrialIds, s)
    | (.error left, s) => (.left left, s)

def handleRerunFailed (around : Surroundings) (modelRunId : String) (s : Service) : RerunAnswer × Service :=
  match getModelRun s.runs modelRunId with
  | .null => (.error (sendError "Model run not found" 404 "E_HTTP_NOT_FOUND"), s)
  | j =>
    -- the object has no such field, and `operator[]` makes it null
    match index "type" j with
    | .error raised => (.left (.uncaught raised), s)
    | .ok (.string "TUNING") => rerunFailed around modelRunId s
    | .ok _ => (.error (sendError "Not a tuning run" 400 "E_NOT_TUNING"), s)

/-! ## Objects -/

theorem field_assigned (fields : List (String × Json ℚ)) (key : String) :
    (assigned fields).field key = (fields.reverse.lookup key).getD .null := by
  have general : ∀ (j : Json ℚ), (fields.foldl (fun j field => j.put [field.1] field.2) j).field key =
      (fields.reverse.lookup key).getD (j.field key) := by
    induction fields with
    | nil => exact fun _ => rfl
    | cons field rest ih =>
      intro j
      rw [List.foldl_cons, ih, List.reverse_cons, List.lookup_append, Pca.Json.field_put, Pca.Json.put_nil]
      cases rest.reverse.lookup key with
      | some value => rfl
      | none =>
        rw [List.lookup_cons]
        by_cases same : key = field.1
        · simp [same]
        · simp [same, beq_eq_false_iff_ne.mpr same]
  exact general .null

/-- Assignments make an object, or leave null. -/
theorem index_assigned (fields : List (String × Json ℚ)) (key : String) :
    index key (assigned fields) = .ok ((assigned fields).field key) := by
  rcases fields.eq_nil_or_concat with rfl | ⟨rest, field, rfl⟩
  · rfl
  · rw [assigned, List.concat_eq_append, List.foldl_append]
    rfl

/-- The object of a run has no field `type`. -/
theorem index_type_modelRun (modelRunId : String) (row : RunRow) :
    index "type" (assigned (row.modelRunFields modelRunId)) = .ok .null := by
  rw [index_assigned, field_assigned]
  simp [RunRow.modelRunFields, List.lookup_cons]

theorem index_trialJson {modelRunId : String} {row : RunRow} {t : Json ℚ} (read : row.trialJson modelRunId = some t) :
    ∃ trialIndex trialParams, row.trialIndex = some trialIndex ∧ row.trialParams = some trialParams ∧
      index "status" t = .ok (.string row.status.stateToString) ∧ index "name" t = .ok (.string row.name) ∧
      index "dataset_id" t = .ok (.string row.datasetId) ∧ index "training_config" t = .ok row.trainingConfig ∧
      index "trial_index" t = .ok (.integer trialIndex) ∧ index "trial_params" t = .ok trialParams := by
  unfold RunRow.trialJson at read
  split at read
  next trialIndex trialParams indexed given =>
    cases read
    refine ⟨trialIndex, trialParams, indexed, given, ?_⟩
    simp only [index_assigned, field_assigned]
    simp [List.lookup_cons]
  next => cases read

/-! ## What a rerun is -/

/-- The trials of a run that failed or were cancelled, with their ids. -/
def failedTrials (runs : RunRows) (parentRunId : String) : List (String × RunRow) :=
  (runs.entries.map fun entry => (entry.1, entry.2)).filter fun entry =>
    decide (entry.2.parentRunId = some parentRunId ∧ (entry.2.status = .failed ∨ entry.2.status = .cancelled))

/-- Under the new id stands a row like the trial's, and its training is started. -/
structure Copied (requestId parentRunId : String) (after : Service) (trial : RunRow) (newId : String) : Prop where
  stored : ∃ row, after.runs.lookup newId = some row ∧ row.parentRunId = some parentRunId ∧
    row.trialIndex = trial.trialIndex ∧ row.trialParams = trial.trialParams
  started : ∃ config, trialConfig trial.datasetId trial.trainingConfig = .ok config ∧
    ∃ thread ∈ after.memory.manager.started, thread.work = .train ⟨newId, config, requestId⟩ .transition

/-- The new rows are copies of these trials, and no other row is new or changed. -/
structure Reran (requestId parentRunId : String) (before after : Service) (trials : List RunRow)
    (newIds : List String) : Prop where
  copied : List.Forall₂ (Copied requestId parentRunId after) trials newIds
  distinct : newIds.Nodup
  fresh : ∀ id ∈ newIds, id ∉ before.runs
  present : ∀ id, id ∈ after.runs ↔ id ∈ before.runs ∨ id ∈ newIds
  kept : ∀ id row, before.runs.lookup id = some row → after.runs.lookup id = some row

/-- Ten of the failed trials are run again, or all of them. -/
def RerunsFailed (requestId parentRunId : String) (before after : Service) : Prop :=
  ∃ (trials : List (String × RunRow)) (newIds : List String), trials ⊆ failedTrials before.runs parentRunId ∧
    (trials.map Prod.fst).Nodup ∧ trials.length = min rerunLimit (failedTrials before.runs parentRunId).length ∧
    Reran requestId parentRunId before after (trials.map Prod.snd) newIds

/-! ## The loop -/

section Loop

variable {around : Surroundings} {parentRunId : String} {count : Nat} {t : Json ℚ} {s next : Service}

/-- A row as `CreateHpoTrialRun` leaves it: it has an index, a 32-bit integer, and parameters. -/
def RunRow.Indexed (row : RunRow) : Prop :=
  ∃ trialIndex, row.trialIndex = some trialIndex ∧ toInt trialIndex = trialIndex ∧ row.trialParams ≠ none

theorem RunRow.Indexed.trialJson {row : RunRow} (indexed : row.Indexed) (modelRunId : String) :
    ∃ t, row.trialJson modelRunId = some t := by
  obtain ⟨trialIndex, stored, -, given⟩ := indexed
  obtain ⟨trialParams, given⟩ := Option.ne_none_iff_exists'.mp given
  exact ⟨_, by rw [RunRow.trialJson, stored, given]⟩

theorem trialArguments_trialJson {modelRunId : String} {row : RunRow} (indexed : row.Indexed)
    (read : row.trialJson modelRunId = some t) : ∃ trialIndex trialParams, row.trialIndex = some trialIndex ∧
      row.trialParams = some trialParams ∧
      trialArguments t = .ok ⟨row.name, row.datasetId, row.trainingConfig, trialIndex, trialParams⟩ := by
  obtain ⟨trialIndex, trialParams, stored, given, -, name, datasetId, trainingConfig, index, params⟩ :=
    index_trialJson read
  obtain ⟨same, stored', fits, -⟩ := indexed
  cases stored.symm.trans stored'
  refine ⟨trialIndex, trialParams, stored, given, ?_⟩
  simp [trialArguments, name, datasetId, trainingConfig, index, params, getString, getInt, fits, Except.bind, bind,
    pure, Except.pure]

/-- A job that is admitted has its own thread. -/
theorem runPcaTraining_admitted {memory : Memory} {call : Training.TrainCall} {threadStarts : Bool}
    (admitted : (memory.runPcaTraining call threadStarts).1 = .admitted) :
    ∃ thread, (memory.runPcaTraining call threadStarts).2.manager.started = memory.manager.started ++ [thread] ∧
      thread.work = .train call .transition := by
  have returns : (memory.manager.startJob ("train-" ++ call.modelRunId) call.requestId (.train call .transition)
      threadStarts).1.throws = false := by
    have outcome : (memory.manager.startJob ("train-" ++ call.modelRunId) call.requestId (.train call .transition)
        threadStarts).1 = .admitted := admitted
    rw [outcome]
    rfl
  rw [Jobs.JobManager.startJob_throws] at returns
  rcases Jobs.JobManager.startJob_started memory.manager ("train-" ++ call.modelRunId) call.requestId
    (Body.train call .transition) threadStarts with ⟨_, refused⟩ | ⟨grown, _⟩
  · exact absurd returns refused
  · exact ⟨_, grown, rfl⟩

/-- A round that comes to its end has stored a copy of its trial and started the training. -/
theorem rerunTrial_ok {modelRunId newTid : String} {row : RunRow} (indexed : row.Indexed)
    (read : row.trialJson modelRunId = some t) (inserts : ∀ count runs, around.create count runs ≠ .empty)
    (done : rerunTrial around parentRunId count t s = (.ok newTid, next)) :
    newTid ≠ "" ∧ newTid ∉ s.runs ∧ (∃ copy, next.runs = s.runs.insert newTid copy) ∧
      s.memory.manager.started ⊆ next.memory.manager.started ∧
      Copied around.requestId parentRunId next row newTid := by
  obtain ⟨trialIndex, trialParams, stored, given, arguments⟩ := trialArguments_trialJson indexed read
  unfold rerunTrial at done
  rw [arguments] at done
  dsimp only at done
  split at done
  next => cases done
  next => cases done
  next empty => exact absurd empty (inserts count s.runs)
  next key _ =>
    split at done
    next => cases done
    next config configured =>
      split at done
      next admitted =>
        cases done
        obtain ⟨thread, grown, work⟩ := runPcaTraining_admitted admitted
        refine ⟨key.nonempty, key.fresh, ⟨_, rfl⟩, ?_, ?_, config, configured, thread, ?_, work⟩
        · rw [grown]
          exact List.subset_append_left _ _
        · exact ⟨_, AList.lookup_insert _, rfl, stored.symm, given.symm⟩
        · rw [grown]
          exact List.mem_append_right _ (List.mem_singleton_self _)
      next => cases done
      next => cases done
      next => cases done

theorem Copied.later {requestId newId : String} {row : RunRow} {after : Service}
    (copied : Copied requestId parentRunId next row newId)
    (kept : ∀ id row, next.runs.lookup id = some row → after.runs.lookup id = some row)
    (threads : next.memory.manager.started ⊆ after.memory.manager.started) :
    Copied requestId parentRunId after row newId := by
  obtain ⟨⟨copy, stored, same⟩, config, configured, thread, member, work⟩ := copied
  exact ⟨⟨copy, kept newId copy stored, same⟩, config, configured, thread, threads member, work⟩

theorem Reran.nil (requestId parentRunId : String) (s : Service) : Reran requestId parentRunId s s [] [] where
  copied := .nil
  distinct := .nil
  fresh := by simp
  present := by simp
  kept := fun _ _ found => found

/-- A round before the others. -/
theorem Reran.cons {requestId newId : String} {row copy : RunRow} {after : Service} {trials : List RunRow}
    {newIds : List String} (rest : Reran requestId parentRunId next after trials newIds) (fresh : newId ∉ s.runs)
    (inserted : next.runs = s.runs.insert newId copy) (copied : Copied requestId parentRunId next row newId)
    (threads : next.memory.manager.started ⊆ after.memory.manager.started) :
    Reran requestId parentRunId s after (row :: trials) (newId :: newIds) := by
  have member : ∀ id, id ∈ next.runs ↔ id = newId ∨ id ∈ s.runs := fun id => by rw [inserted, AList.mem_insert]
  have later : ∀ id ∈ newIds, id ≠ newId ∧ id ∉ s.runs := by
    intro id listed
    have absent := rest.fresh id listed
    rw [member, not_or] at absent
    exact absent
  refine ⟨.cons (copied.later rest.kept threads) rest.copied, ?_, ?_, ?_, ?_⟩
  · exact List.nodup_cons.mpr ⟨fun listed => (later newId listed).1 rfl, rest.distinct⟩
  · intro id listed
    rcases List.mem_cons.mp listed with rfl | listed
    · exact fresh
    · exact (later id listed).2
  · intro id
    rw [rest.present, member, List.mem_cons]
    tauto
  · intro id row found
    have different : id ≠ newId := by
      rintro rfl
      exact fresh (Table.mem_of_lookup found)
    exact rest.kept id row (by rw [inserted, AList.lookup_insert_ne different, found])

/-- The loop copies the trials until it has counted to its limit. -/
theorem rerunTrials_ok {trials : List (String × RunRow)} {newTrialIds answered : List String} {total : Nat}
    (indexed : ∀ trial ∈ trials, trial.2.Indexed) (inserts : ∀ count runs, around.create count runs ≠ .empty)
    (done : rerunTrials around parentRunId (readTrials trials) count newTrialIds s = (.ok (total, answered), next)) :
    ∃ newIds, Reran around.requestId parentRunId s next ((trials.take (rerunLimit - count)).map Prod.snd) newIds ∧
      answered = newTrialIds ++ newIds ∧ s.memory.manager.started ⊆ next.memory.manager.started := by
  induction trials generalizing count newTrialIds s with
  | nil =>
    cases done
    exact ⟨[], by simpa using Reran.nil around.requestId parentRunId next, by simp, List.Subset.refl _⟩
  | cons trial rest ih =>
    obtain ⟨modelRunId, row⟩ := trial
    obtain ⟨first, others⟩ := List.forall_mem_cons.mp indexed
    obtain ⟨t, read⟩ := first.trialJson modelRunId
    rw [readTrials, read] at done
    dsimp only at done
    unfold rerunTrials at done
    split at done
    next limit =>
      cases done
      rw [Nat.sub_eq_zero_of_le limit]
      exact ⟨[], Reran.nil around.requestId parentRunId next, by simp, List.Subset.refl _⟩
    next below =>
      -- the first round, and by induction the others from where it has come
      split at done
      next => cases done
      next newTid middle round =>
        obtain ⟨named, fresh, ⟨copy, inserted⟩, threads, copied⟩ := rerunTrial_ok first read inserts round
        rw [if_neg named] at done
        obtain ⟨newIds, reran, rfl, grown⟩ := ih others done
        have left : rerunLimit - count = (rerunLimit - (count + 1)) + 1 := by omega
        rw [left, List.take_succ_cons, List.map_cons]
        exact ⟨newTid :: newIds, reran.cons fresh inserted copied grown, by simp, List.Subset.trans threads grown⟩

theorem isFailedOrCancelled_trialJson {modelRunId : String} {row : RunRow} (read : row.trialJson modelRunId = some t) :
    isFailedOrCancelled t = decide (row.status = .failed ∨ row.status = .cancelled) := by
  obtain ⟨-, -, -, -, status, -⟩ := index_trialJson read
  rw [isFailedOrCancelled, status]
  cases row.status <;> decide

/-- The test of the objects is the test of the rows. -/
theorem filter_readTrials {trials : List (String × RunRow)} (indexed : ∀ trial ∈ trials, trial.2.Indexed) :
    (readTrials trials).filter isFailedOrCancelled = readTrials (trials.filter fun trial =>
      decide (trial.2.status = .failed ∨ trial.2.status = .cancelled)) := by
  induction trials with
  | nil => rfl
  | cons trial rest ih =>
    obtain ⟨modelRunId, row⟩ := trial
    obtain ⟨first, others⟩ := List.forall_mem_cons.mp indexed
    obtain ⟨t, read⟩ := first.trialJson modelRunId
    rw [readTrials, read, List.filter_cons, List.filter_cons, isFailedOrCancelled_trialJson read, ih others]
    dsimp only
    split
    · rw [readTrials, read]
    · rfl

/-- The trials of a run, with their ids. -/
def trialsOf (runs : RunRows) (parentRunId : String) : List (String × RunRow) :=
  (runs.entries.map fun entry => (entry.1, entry.2)).filter fun entry =>
    decide (entry.2.parentRunId = some parentRunId)

theorem failedTrials_eq (runs : RunRows) (parentRunId : String) : failedTrials runs parentRunId =
    (trialsOf runs parentRunId).filter fun trial =>
      decide (trial.2.status = .failed ∨ trial.2.status = .cancelled) := by
  rw [failedTrials, trialsOf, List.filter_filter]
  congr 1
  funext entry
  rw [Bool.decide_and, Bool.and_comm]

theorem nodup_failedTrials (runs : RunRows) (parentRunId : String) :
    ((failedTrials runs parentRunId).map Prod.fst).Nodup := by
  have keys : (runs.entries.map fun entry => (entry.1, entry.2)).map Prod.fst = runs.keys := by
    rw [List.map_map]
    rfl
  have all : ((runs.entries.map fun entry => (entry.1, entry.2)).map Prod.fst).Nodup := keys ▸ runs.nodupKeys
  exact all.sublist (List.filter_sublist.map _)

/-- Behind the test of the type the endpoint does what it is for, if no insert and no start of a job fails. -/
theorem rerunFailed_reruns {total : Nat} {newTrialIds : List String}
    (indexed : ∀ trial ∈ trialsOf s.runs parentRunId, trial.2.Indexed)
    (few : (trialsOf s.runs parentRunId).length ≤ 1000) (inserts : ∀ count runs, around.create count runs ≠ .empty)
    (answered : rerunFailed around parentRunId s = (.rerun total newTrialIds, next)) :
    RerunsFailed around.requestId parentRunId s next := by
  let sorted := (trialsOf s.runs parentRunId).insertionSort fun a b => indexLe a.2.trialIndex b.2.trialIndex
  let failed := sorted.filter fun trial => decide (trial.2.status = .failed ∨ trial.2.status = .cancelled)
  have order : sorted.Perm (trialsOf s.runs parentRunId) := List.perm_insertionSort _ _
  have same : failed.Perm (failedTrials s.runs parentRunId) := by
    rw [failedTrials_eq]
    exact order.filter _
  have read : (getHpoTrials s.runs parentRunId).filter isFailedOrCancelled = readTrials failed := by
    have all : selectTrials s.runs parentRunId = sorted :=
      List.take_of_length_le (order.length_eq.trans_le few)
    rw [getHpoTrials, all]
    exact filter_readTrials fun trial member => indexed trial (order.subset member)
  unfold rerunFailed at answered
  rw [read] at answered
  dsimp only at answered
  split at answered
  next => cases answered
  next =>
    split at answered
    next count ids after looped =>
      cases answered
      have indexed' : ∀ trial ∈ failed, trial.2.Indexed := fun trial member =>
        indexed trial (order.subset (List.mem_of_mem_filter member))
      obtain ⟨newIds, reran, -⟩ := rerunTrials_ok indexed' inserts looped
      refine ⟨failed.take rerunLimit, newIds, ?_, ?_, ?_, reran⟩
      · exact List.Subset.trans (List.take_subset _ _) same.subset
      · exact (same.map Prod.fst).nodup_iff.mpr (nodup_failedTrials s.runs parentRunId) |>.sublist
          ((List.take_sublist _ _).map _)
      · rw [List.length_take, same.length_eq]
    next => cases answered

end Loop

/-! ## Never a rerun -/

section Never

variable {around : Surroundings} {parentRunId : String} {s : Service}

/-- A run that is there is not a tuning run, and nothing is stored or started. -/
theorem handleRerunFailed_of_mem (present : parentRunId ∈ s.runs) :
    handleRerunFailed around parentRunId s = (.error (sendError "Not a tuning run" 400 "E_NOT_TUNING"), s) := by
  obtain ⟨row, found⟩ := Option.isSome_iff_exists.mp (AList.lookup_isSome.mpr present)
  have read : getModelRun s.runs parentRunId = assigned (row.modelRunFields parentRunId) := by
    rw [getModelRun, found]
  have typed := index_type_modelRun parentRunId row
  rw [handleRerunFailed, read]
  split
  next null => cases null
  next j _ => rw [typed]

theorem handleRerunFailed_unchanged : (handleRerunFailed around parentRunId s).2 = s := by
  by_cases present : parentRunId ∈ s.runs
  · rw [handleRerunFailed_of_mem present]
  · have read : getModelRun s.runs parentRunId = .null := by
      rw [getModelRun, AList.lookup_eq_none.mpr present]
    rw [handleRerunFailed, read]

/-- What stays as it is has run nothing again. -/
theorem not_rerunsFailed_self {requestId : String} (some_ : 0 < (failedTrials s.runs parentRunId).length) :
    ¬ RerunsFailed requestId parentRunId s s := by
  rintro ⟨trials, newIds, -, -, size, reran⟩
  have copies : 0 < newIds.length := by
    rw [← reran.copied.length_eq, List.length_map, size]
    exact lt_min (by decide) some_
  obtain ⟨id, listed⟩ := List.exists_mem_of_length_pos copies
  exact reran.fresh id listed ((reran.present id).mpr (.inr listed))

/-- Whenever there is a trial to run again, the endpoint does not run it. -/
theorem never_reruns_failed {row : RunRow} (present : s.runs.lookup parentRunId = some row)
    (some_ : 0 < (failedTrials s.runs parentRunId).length) :
    (handleRerunFailed around parentRunId s).1 = .error (sendError "Not a tuning run" 400 "E_NOT_TUNING") ∧
      ¬ RerunsFailed around.requestId parentRunId s (handleRerunFailed around parentRunId s).2 := by
  constructor
  · rw [handleRerunFailed_of_mem (Table.mem_of_lookup present)]
  · rw [handleRerunFailed_unchanged]
    exact not_rerunsFailed_self some_

end Never

/-! ## A failed trial -/

def threeComponents : Json ℚ := .object [("n_components", .integer 3), ("percentile", .number (199 / 2))]

/-- A tuning run and its only trial, which has failed. -/
def failedTuning : Service where
  runs :=
    let trial := RunRow.trial "d" "pca_trial_0" "q" "p" "2026-01-01 00:00:00+00" threeComponents 0 threeComponents
    let parent : RunRow := { trial with
      name := "pca", parentRunId := none, trialIndex := none, trialParams := none, hpoConfig := some (.object []) }
    ((∅ : RunRows).insert "p" { parent with status := .failed }).insert "t" { trial with status := .failed }
  memory := ⟨.init, [], []⟩

/-- The next row gets the id `new`, and threads start. -/
def aroundRerun : Surroundings where
  requestId := "r"
  now := "2026-01-01 01:00:00+00"
  uuid _ := "0f8c2d4e-0000-4000-8000-000000000000"
  create _ runs := if fresh : "new" ∉ runs then .stored ⟨"new", by decide, fresh⟩ else .empty
  threadStarts _ := true

theorem failed_trial_refused :
    (handleRerunFailed aroundRerun "p" failedTuning).1 = .error (sendError "Not a tuning run" 400 "E_NOT_TUNING") ∧
      ¬ RerunsFailed "r" "p" failedTuning (handleRerunFailed aroundRerun "p" failedTuning).2 :=
  never_reruns_failed rfl (by decide +kernel)

/-- The run has a tuning configuration and a failed trial, which the loop would run again; the endpoint
leaves everything as it is. -/
theorem failed_trial_not_rerun :
    (failedTuning.runs.lookup "p").any (fun row => row.hpoConfig.isSome) = true ∧
      (failedTrials failedTuning.runs "p").map Prod.fst = ["t"] ∧
      (rerunFailed aroundRerun "p" failedTuning).1 = .rerun 1 ["new"] ∧
      ¬ RerunsFailed "r" "p" failedTuning (handleRerunFailed aroundRerun "p" failedTuning).2 := by
  refine ⟨by decide +kernel, by decide +kernel, rfl, ?_⟩
  rw [handleRerunFailed_unchanged]
  exact not_rerunsFailed_self (by decide +kernel)

end TelemetryLab.Server
