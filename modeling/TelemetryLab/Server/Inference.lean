import TelemetryLab.Jobs.StateMachine
import TelemetryLab.Pca.Agreement
import TelemetryLab.Server.Requests

/-! The handler of `POST /inference` (`HandleInference` in `api_server.cpp`) and the
rows of `inference_runs`.

A row is inserted as `RUNNING` before the samples are read one after the other,
and only the end of the loop updates it.
-/

set_option autoImplicit false
namespace TelemetryLab.Server
open Pca (Json PcaModel StreamText bind_ok_iff score_ok_iff)
open Jobs (JobState)

structure SampleResult (R : Type) where
  isAnomaly : Bool
  score : R

structure InferenceRun (R : Type) where
  modelRunId : String
  status : JobState
  anomalyCount : Nat
  details : Option (List (SampleResult R))
  latencyMs : Option R

abbrev InferenceRuns (R : Type) := Table String (InferenceRun R)

/-- The row `CreateInferenceRun` inserts. -/
def InferenceRun.inserted {R : Type} (modelRunId : String) : InferenceRun R := ⟨modelRunId, .running, 0, none, none⟩

/-- `UpdateInferenceRunStatus` -/
def InferenceRun.updateStatus {R : Type} (status : JobState) (anomalyCount : Nat) (details : List (SampleResult R))
    (latencyMs : R) (row : InferenceRun R) : InferenceRun R :=
  { row with status, anomalyCount, details := some details, latencyMs := some latencyMs }

variable {R Text : Type} [Arith R]

/-! ## Samples -/

def readSample (s : Json R) : Except Raised (FeatureVector R) := do
  let cpuUsage ← valueOr "cpu_usage" getDouble 0 s
  let memoryUsage ← valueOr "memory_usage" getDouble 0 s
  let diskUtilization ← valueOr "disk_utilization" getDouble 0 s
  let networkRxRate ← valueOr "network_rx_rate" getDouble 0 s
  let networkTxRate ← valueOr "network_tx_rate" getDouble 0 s
  pure ⟨#v[cpuUsage, memoryUsage, diskUtilization, networkRxRate, networkTxRate]⟩

variable [StreamText R]

def scoreSample (pca : PcaModel R) (s : Json R) : Except Raised (SampleResult R) := do
  let v ← readSample s
  let score ← (pca.score v).mapError .thrown
  pure ⟨score.isAnomaly, score.reconstructionError⟩

/-- The loop over the samples, with its counter and its list of results. -/
def processSamples (pca : PcaModel R) : List (Json R) → Nat → List (SampleResult R) →
    Except Raised (Nat × List (SampleResult R))
  | [], anomalyCount, results => .ok (anomalyCount, results)
  | s :: rest, anomalyCount, results => do
    let r ← scoreSample pca s
    processSamples pca rest (if r.isAnomaly then anomalyCount + 1 else anomalyCount) (results ++ [r])

/-- An object whose features, where it has them, are numbers. -/
def Readable : Json R → Prop
  | .object fields => ∀ key ∈ getFeatureNames, ∀ value, fields.lookup key = some value → isNumber value = true
  | _ => False

omit [StreamText R] in
theorem readSample_ok_iff (s : Json R) : (∃ v, readSample s = .ok v) ↔ Readable s := by
  cases s with
  | object fields =>
    have reads (key : String) : (∃ x : R, valueOr key getDouble 0 (.object fields) = .ok x) ↔
        ∀ value, fields.lookup key = some value → isNumber value = true := by
      simp only [valueOr_ok_iff, getDouble_ok_iff]
    simp only [Readable, getFeatureNames, List.forall_mem_cons, ← reads, readSample, bind_ok_iff, pure, Except.pure,
      Except.ok.injEq, exists_eq', and_true, exists_and_right, List.not_mem_nil, false_implies, implies_true]
  | _ => exact iff_of_false (by rintro ⟨v, read⟩; cases read) id

theorem scoreSample_ok_iff (pca : PcaModel R) (s : Json R) :
    (∃ r, scoreSample pca s = .ok r) ↔ Readable s ∧ (pca.loaded = true → pca.Fits) := by
  simp only [scoreSample, bind_ok_iff, pure, Except.pure, Except.ok.injEq, exists_eq', and_true, mapError_ok_iff,
    score_ok_iff, exists_and_right, readSample_ok_iff]

theorem processSamples_ok_iff (pca : PcaModel R) (samples : List (Json R)) (anomalyCount : Nat)
    (results : List (SampleResult R)) : (∃ final, processSamples pca samples anomalyCount results = .ok final) ↔
      ∀ s ∈ samples, Readable s ∧ (pca.loaded = true → pca.Fits) := by
  induction samples generalizing anomalyCount results with
  | nil => exact iff_of_true ⟨(anomalyCount, results), rfl⟩ (by simp)
  | cons s rest ih =>
    simp only [List.forall_mem_cons, ← scoreSample_ok_iff pca s, processSamples, bind_ok_iff, ih, exists_and_right]

/-! ## The handler -/

def inferenceError (raised : Raised) : ErrorAnswer :=
  let code := classifyHttpError raised
  sendError ("Error: " ++ raised.what) (if isClientError code then 400 else if code = "E_HTTP_NOT_FOUND" then 404 else 500)
    code

/-- A request that has come to the insertion of its row. -/
structure Inference (R : Type) where
  modelRunId : String
  samples : List (Json R)
  pca : PcaModel R

/-- Everything before the row. `artifactPath` is what `GetModelRun` knows of a model, empty
without an artifact, and `getOrCreate` is the model cache. -/
def prepareInference (parse : Text → Except Raised (Json R)) (artifactPath : String → Option String)
    (getOrCreate : String → String → Except Raised (PcaModel R)) (body : Text) : Except ErrorAnswer (Inference R) := do
  let j ← (parse body).mapError inferenceError
  let modelRunId ← ((atKey "model_run_id" j).bind getString).mapError inferenceError
  let samples ← (atKey "samples" j).mapError inferenceError
  if 1000 < (elements samples).length then
    .error (sendError "Too many samples (max 1000)" 400 "E_HTTP_INVALID_ARGUMENT")
  else
    match artifactPath modelRunId with
    | none => .error (sendError "Model not found" 404 "E_HTTP_NOT_FOUND")
    | some path =>
      if path = "" then .error (sendError "Model is not yet complete or has no artifact" 400 "E_HTTP_BAD_REQUEST")
      else
        match getOrCreate modelRunId path with
        | .error raised =>
          .error (sendError ("Failed to load PCA model artifact: " ++ raised.what) 500 "E_MODEL_LOAD_FAILED")
        | .ok pca => .ok ⟨modelRunId, elements samples, pca⟩

inductive InferenceAnswer (R : Type) where
  | scored (results : List (SampleResult R)) (modelRunId inferenceId : String) (anomalyCount : Nat)
  | error (answer : ErrorAnswer)

/-- The loop and the answer, with the table after the update that follows the loop. `updated`
is whether that statement succeeds; its failure is logged only. -/
def Inference.score (inference : Inference R) (inferenceId : String) (updated : Bool) (latencyMs : R)
    (runs : InferenceRuns R) : InferenceAnswer R × InferenceRuns R :=
  match processSamples inference.pca inference.samples 0 [] with
  | .error raised => (.error (inferenceError raised), runs)
  | .ok (anomalyCount, results) =>
    (.scored results inference.modelRunId inferenceId anomalyCount,
      if updated && decide (inferenceId ≠ "") then
        Table.modify inferenceId (.updateStatus .completed anomalyCount results latencyMs) runs
      else runs)

def handleInference (parse : Text → Except Raised (Json R)) (artifactPath : String → Option String)
    (getOrCreate : String → String → Except Raised (PcaModel R)) (body : Text) (runs : InferenceRuns R)
    (created : Created runs) (updated : Bool) (latencyMs : R) : InferenceAnswer R × InferenceRuns R :=
  match prepareInference parse artifactPath getOrCreate body with
  | .error answer => (.error answer, runs)
  | .ok inference =>
    match created with
    | .failed raised => (.error (inferenceError raised), runs)
    | .unconfirmed key raised => (.error (inferenceError raised), runs.insert key.id (.inserted inference.modelRunId))
    | .empty => inference.score "" updated latencyMs runs
    | .stored key => inference.score key.id updated latencyMs (runs.insert key.id (.inserted inference.modelRunId))

/-! ## What becomes of the row -/

/-- Every row that was not there before is in a final status. -/
def NewSettled (before after : InferenceRuns R) : Prop :=
  ∀ id row, id ∉ before → after.lookup id = some row → row.status = .completed ∨ row.status = .failed

omit [Arith R] [StreamText R] in
theorem NewSettled.refl (runs : InferenceRuns R) : NewSettled runs runs :=
  fun _ _ absent found => absurd (Table.mem_of_lookup found) absent

omit [Arith R] [StreamText R] in
theorem inserted_unsettled {runs : InferenceRuns R} (key : NewKey runs) (modelRunId : String) :
    ¬ NewSettled runs (runs.insert key.id (.inserted modelRunId)) := by
  intro settled
  rcases settled key.id _ key.fresh (AList.lookup_insert _) with completed | failed
  · cases completed
  · cases failed

omit [Arith R] [StreamText R] in
theorem updated_settled {runs : InferenceRuns R} (key : NewKey runs) (row : InferenceRun R) (anomalyCount : Nat)
    (results : List (SampleResult R)) (latencyMs : R) :
    NewSettled runs (Table.modify key.id (.updateStatus .completed anomalyCount results latencyMs)
      (runs.insert key.id row)) := by
  intro id after absent found
  by_cases same : id = key.id
  · subst same
    rw [Table.lookup_modify_self, AList.lookup_insert] at found
    cases found
    exact .inl rfl
  · rw [Table.lookup_modify_ne _ _ same, AList.lookup_insert_ne same] at found
    exact absurd (Table.mem_of_lookup found) absent

/-- Without a key nothing is updated. -/
theorem score_without_row (inference : Inference R) (updated : Bool) (latencyMs : R) (runs : InferenceRuns R) :
    (inference.score "" updated latencyMs runs).2 = runs := by
  unfold Inference.score
  split
  · rfl
  · simp

theorem score_settles_iff (inference : Inference R) (latencyMs : R) {runs : InferenceRuns R} (key : NewKey runs) :
    NewSettled runs (inference.score key.id true latencyMs (runs.insert key.id (.inserted inference.modelRunId))).2 ↔
      ∃ final, processSamples inference.pca inference.samples 0 [] = .ok final := by
  unfold Inference.score
  cases processed : processSamples inference.pca inference.samples 0 [] with
  | error raised => exact iff_of_false (inserted_unsettled key _) nofun
  | ok final =>
    obtain ⟨anomalyCount, results⟩ := final
    simp only [Bool.true_and, decide_eq_true key.nonempty, if_true]
    exact iff_of_true (updated_settled key _ anomalyCount results latencyMs) ⟨_, rfl⟩

/-- If no statement fails, a created row ends in a final status exactly if every sample
can be read and the model can score. -/
theorem inference_runs_settle (parse : Text → Except Raised (Json R)) (artifactPath : String → Option String)
    (getOrCreate : String → String → Except Raised (PcaModel R)) (body : Text) (runs : InferenceRuns R)
    (created : Created runs) (latencyMs : R) :
    (created.Succeeded → NewSettled runs
        (handleInference parse artifactPath getOrCreate body runs created true latencyMs).2) ↔
      ∀ inference key, prepareInference parse artifactPath getOrCreate body = .ok inference → created = .stored key →
        ∀ s ∈ inference.samples, Readable s ∧ (inference.pca.loaded = true → inference.pca.Fits) := by
  unfold handleInference
  cases prepared : prepareInference parse artifactPath getOrCreate body with
  | error answer => exact iff_of_true (fun _ => .refl runs) (fun _ _ absent => nomatch absent)
  | ok inference =>
    cases created with
    | failed raised => exact iff_of_true nofun (fun _ _ _ absent => nomatch absent)
    | unconfirmed key raised => exact iff_of_true nofun (fun _ _ _ absent => nomatch absent)
    | empty =>
      refine iff_of_true (fun _ => ?_) (fun _ _ _ absent => nomatch absent)
      rw [score_without_row]
      exact .refl runs
    | stored key =>
      dsimp only
      constructor
      · intro settles prepared' key' same stored
        cases same
        cases stored
        exact (processSamples_ok_iff _ _ _ _).mp ((score_settles_iff inference latencyMs key).mp (settles trivial))
      · intro readable _
        exact (score_settles_iff inference latencyMs key).mpr
          ((processSamples_ok_iff _ _ _ _).mpr (readable inference key rfl rfl))

/-- A text where a number is expected. -/
def unreadableBody : Json ℝ :=
  .object [("model_run_id", .string "m"), ("samples", .array [.object [("cpu_usage", .string "high")]])]

noncomputable def flatModel : PcaModel ℝ := ⟨true, [0, 0, 0, 0, 0], [1, 1, 1, 1, 1], .zeros 1 5, [0, 0, 0, 0, 0], 0⟩

theorem unreadable_sample_leaves_running :
    let _ : StreamText ℝ := ⟨fun _ => "", fun _ => ""⟩
    let key : NewKey (∅ : InferenceRuns ℝ) := ⟨"i", by decide, AList.notMem_empty "i"⟩
    let handled := handleInference .ok (fun _ => some "m.json") (fun _ _ => .ok flatModel) unreadableBody ∅
      (.stored key) true 0
    handled.1 = .error (sendError "Error: [json.exception.type_error.302] type must be number, but is string" 500
      "E_INTERNAL") ∧
    handled.2.lookup "i" = some (.inserted "m") ∧ ¬ NewSettled ∅ handled.2 := by
  intro _ key handled
  have raised : handled.1 = .error (inferenceError (typeError 302 "type must be number, but is string")) := rfl
  have answered : inferenceError (typeError 302 "type must be number, but is string") =
      sendError "Error: [json.exception.type_error.302] type must be number, but is string" 500 "E_INTERNAL" := by
    decide +kernel
  exact ⟨raised.trans (congrArg InferenceAnswer.error answered), rfl, inserted_unsettled key "m"⟩

end TelemetryLab.Server
