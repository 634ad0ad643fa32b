import TelemetryLab.Alerts.AlertManager
import TelemetryLab.Alerts.DetectorA
import TelemetryLab.Pca.Agreement

/-! The scoring loop of `scorer_main.cpp`, and sharding by the hash of the host.

Three maps are kept between records, each read and written at the host of the
record. An exception of `PcaModel::Score` is not caught and ends the process, so
it reaches the other hosts as well; a model that throws does so on every vector
and lets no alert through, whatever the shard.
-/

set_option autoImplicit false
namespace TelemetryLab.Alerts
open Pca (StreamText PcaModel PcaScore Thrown)

variable {R : Type} [Arith R] [StreamText R]

structure Scorer (R : Type) where
  config : DetectorConfig R
  pcaModel : PcaModel R
  alertManager : AlertManager

/-- The configuration that `main` uses. -/
def scorerConfig : DetectorConfig R :=
  ⟨⟨false⟩, {}, { OutlierConfig.default with robustZThreshold := 3.0, enablePoisonMitigation := true },
    ⟨true, 10000⟩⟩

/-- The scorer that `main` runs; a model that could not be loaded scores nothing. -/
def mainScorer (loaded : Except Thrown (PcaModel R)) : Scorer R :=
  ⟨scorerConfig, match loaded with | .ok model => model | .error _ => .empty, ⟨1, 10⟩⟩

structure ScorerState (R : Type) where
  detectorsA : Table String (DetectorA R)
  /-- `last_b_run` of each host -/
  hostStates : Table String Int
  alertStates : Table String FusionState

/-- Two hosts have their detector before the loop, the others on their first record. -/
def ScorerState.init : ScorerState R :=
  ⟨((∅ : Table String (DetectorA R)).insert "host-1" .init).insert "host-2" .init, ∅, ∅⟩

namespace Scorer

variable (scorer : Scorer R)

/-- Whether detector B runs, and the time it last ran afterwards. -/
def gate (flagA : Bool) (currentTime lastBRun : Int) : Bool × Int :=
  if scorer.config.gating.enableGating then
    let msSince := (currentTime - lastBRun).tdiv 1000000
    let scheduled := decide (msSince ≥ scorer.config.gating.periodMs)
    if !flagA && !scheduled then (false, lastBRun) else (true, currentTime)
  else (true, lastBRun)

/-- The flag, the score and the details of detector B. -/
def detectB (vec : FeatureVector R) (runB : Bool) : Except Thrown (Bool × R × String) :=
  if runB then
    (scorer.pcaModel.score vec).map fun result =>
      if result.isAnomaly then (true, result.reconstructionError, result.details) else (false, 0, "")
  else .ok (false, -1.0, "")

/-- The call of `Evaluate` for a record. -/
def fuse (record : TelemetryRecord R) (scoreA : AnomalyScore R) (runB : Bool) (scoreB : Bool × R × String) : Call R :=
  let detailsA := if scoreA.isAnomaly then "[A:" ++ scoreA.details ++ "] " else ""
  let detailsB := if runB && scoreB.1 then "[B:" ++ scoreB.2.2 ++ "] " else ""
  let skipped := if !runB then "[B:SKIPPED] " else ""
  ⟨record.hostId, record.runId, record.metricTimestamp, scoreA.isAnomaly,
    if scoreA.isAnomaly then scoreA.maxZScore else 0, scoreB.1, scoreB.2.1, detailsA ++ detailsB ++ skipped⟩

/-- The body of the loop for one record. -/
def scoreRecord (state : ScorerState R) (record : TelemetryRecord R) :
    Except Thrown (ScorerState R × List (Alert R)) := do
  let vec := scorer.config.preprocessing.apply (FeatureVector.fromRecord record)
  let detector := (state.detectorsA.lookup record.hostId).getD .init
  let (detector, scoreA) := detector.update scorer.config.window scorer.config.outliers vec
  let lastBRun := (state.hostStates.lookup record.hostId).getD 0
  let (runB, lastBRun) := scorer.gate scoreA.isAnomaly record.metricTimestamp lastBRun
  let scoreB ← scorer.detectB vec runB
  let (alertStates, alerts) := scorer.alertManager.evaluate state.alertStates (fuse record scoreA runB scoreB)
  let hostStates := if scorer.config.gating.enableGating then state.hostStates.insert record.hostId lastBRun
    else state.hostStates
  pure (⟨state.detectorsA.insert record.hostId detector, hostStates, alertStates⟩, alerts)

/-- The records that are scored before the process ends, each with its alerts. -/
def run (state : ScorerState R) : List (TelemetryRecord R) → List (TelemetryRecord R × List (Alert R))
  | [] => []
  | record :: rest =>
    match scorer.scoreRecord state record with
    | .ok (next, alerts) => (record, alerts) :: run next rest
    | .error _ => []

/-- The sharding check. -/
def inShard (hash : String → Nat) (numShards shardId : Nat) (record : TelemetryRecord R) : Bool :=
  hash record.hostId % numShards == shardId

/-- A whole run of the process of one shard. -/
def runShard (hash : String → Nat) (numShards shardId : Nat) (records : List (TelemetryRecord R)) :
    List (TelemetryRecord R × List (Alert R)) :=
  scorer.run .init (records.filter (inShard hash numShards shardId))

end Scorer

/-- The alerts that a run emits for a host, in order. -/
def alertsFor (host : String) (scored : List (TelemetryRecord R × List (Alert R))) : List (Alert R) :=
  (scored.filter fun entry => decide (entry.1.hostId = host)).flatMap Prod.snd

/-! ## The scorer of a single host -/

structure HostView (R : Type) where
  detector : DetectorA R
  lastBRun : Int
  fusion : FusionState

/-- What the three maps hold for a host. -/
def ScorerState.view (state : ScorerState R) (host : String) : HostView R :=
  ⟨(state.detectorsA.lookup host).getD .init, (state.hostStates.lookup host).getD 0,
    AlertManager.stateOf state.alertStates host⟩

namespace Scorer

variable (scorer : Scorer R)

/-- One step of the loop, which an exception leaves without effect. -/
def step (state : ScorerState R) (record : TelemetryRecord R) : ScorerState R × List (Alert R) :=
  match scorer.scoreRecord state record with
  | .ok result => result
  | .error _ => (state, [])

def hostStep (view : HostView R) (record : TelemetryRecord R) : HostView R × List (Alert R) :=
  let vec := scorer.config.preprocessing.apply (FeatureVector.fromRecord record)
  let (detector, scoreA) := view.detector.update scorer.config.window scorer.config.outliers vec
  let (runB, lastBRun) := scorer.gate scoreA.isAnomaly record.metricTimestamp view.lastBRun
  match scorer.detectB vec runB with
  | .ok scoreB =>
    let (fusion, alerts) := scorer.alertManager.evaluateHost view.fusion (fuse record scoreA runB scoreB)
    (⟨detector, lastBRun, fusion⟩, alerts)
  | .error _ => (view, [])

omit [Arith R] [StreamText R] in
/-- The clock of a host after a step; without gating there is no entry for it. -/
theorem lastBRun_of_gate (flagA : Bool) (currentTime : Int) (hostStates : Table String Int) (host other : String) :
    ((if scorer.config.gating.enableGating then
        hostStates.insert host (scorer.gate flagA currentTime ((hostStates.lookup host).getD 0)).2
      else hostStates).lookup other).getD 0 =
      if other = host then (scorer.gate flagA currentTime ((hostStates.lookup host).getD 0)).2
      else (hostStates.lookup other).getD 0 := by
  by_cases gating : scorer.config.gating.enableGating = true
  · rw [if_pos gating, Table.getD_lookup_insert]
  · rw [if_neg gating]
    split
    next same =>
      subst same
      simp [gate, gating]
    · rfl

/-- Each of the three components is used at the host of the record only. -/
theorem step_local : Keyed.Local scorer.step TelemetryRecord.hostId ScorerState.view scorer.hostStep where
  here state record := by
    simp only [step, hostStep, scoreRecord, ScorerState.view]
    cases scored : scorer.detectB _ _ with
    | error what => rfl
    | ok scoreB =>
      simp only [bind, Except.bind, pure, Except.pure, Table.getD_lookup_insert, lastBRun_of_gate, if_true]
      congr 1
      exact (scorer.alertManager.evaluate_local).here _ _
  answer state record := by
    simp only [step, hostStep, scoreRecord, ScorerState.view]
    cases scored : scorer.detectB _ _ with
    | error what => rfl
    | ok scoreB => rfl
  elsewhere state record host other := by
    simp only [step, scoreRecord, ScorerState.view]
    cases scored : scorer.detectB _ _ with
    | error what => rfl
    | ok scoreB =>
      simp only [bind, Except.bind, pure, Except.pure, Table.getD_lookup_insert, lastBRun_of_gate, if_neg other]
      congr 1
      exact (scorer.alertManager.evaluate_local).elsewhere _ _ _ other

variable {scorer}

theorem run_eq_trace (sound : ∀ vec, ∃ score, scorer.pcaModel.score vec = .ok score) (state : ScorerState R)
    (records : List (TelemetryRecord R)) : scorer.run state records = Keyed.trace scorer.step state records := by
  induction records generalizing state with
  | nil => rfl
  | cons record rest ih =>
    obtain ⟨result, scored⟩ : ∃ result, scorer.scoreRecord state record = .ok result := by
      simp only [scoreRecord, detectB]
      split
      · obtain ⟨score, ok⟩ := sound (scorer.config.preprocessing.apply (FeatureVector.fromRecord record))
        simp [ok, Except.map, bind, Except.bind, pure, Except.pure]
      · simp [bind, Except.bind, pure, Except.pure]
    simp only [run, scored, Keyed.trace, step, ih]

omit [Arith R] [StreamText R] in
/-- Detector B is skipped only after detector A has found nothing. -/
theorem flag_of_skipped {flagA : Bool} {currentTime lastBRun : Int}
    (skipped : (scorer.gate flagA currentTime lastBRun).1 = false) : flagA = false := by
  cases flagA with
  | false => rfl
  | true =>
    simp only [gate] at skipped
    split at skipped <;> simp at skipped

section Throwing

variable (throws : ∀ vec, ∃ what, scorer.pcaModel.score vec = .error what)
include throws

theorem hostStep_silent (view : HostView R) (record : TelemetryRecord R) : (scorer.hostStep view record).2 = [] := by
  simp only [hostStep]
  split
  next scoreB scored =>
    simp only [detectB] at scored
    split at scored
    next run =>
      obtain ⟨what, thrown⟩ := throws (scorer.config.preprocessing.apply (FeatureVector.fromRecord record))
      simp [thrown, Except.map] at scored
    next skipped =>
      cases scored
      have clear := flag_of_skipped (Bool.eq_false_iff.mpr skipped)
      simp [AlertManager.evaluateHost, Call.anyFlag, fuse, clear]
  · rfl

theorem run_silent (state : ScorerState R) (records : List (TelemetryRecord R)) :
    ∀ entry ∈ scorer.run state records, entry.2 = [] := by
  induction records generalizing state with
  | nil => simp [run]
  | cons record rest ih =>
    intro entry mem
    have silent : (scorer.step state record).2 = [] := by
      rw [scorer.step_local.answer]
      exact hostStep_silent throws _ _
    cases scored : scorer.scoreRecord state record with
    | error what => simp [run, scored] at mem
    | ok result =>
      simp only [step, scored] at silent
      simp only [run, scored] at mem
      rcases List.mem_cons.mp mem with rfl | later
      · exact silent
      · exact ih result.1 entry later

theorem alertsFor_silent (state : ScorerState R) (records : List (TelemetryRecord R)) (host : String) :
    alertsFor host (scorer.run state records) = [] := by
  apply List.flatMap_eq_nil_iff.mpr
  intro entry mem
  exact run_silent throws state records entry (List.mem_of_mem_filter mem)

end Throwing

theorem alertsFor_filter (scorer : Scorer R) (records : List (TelemetryRecord R)) (host : String)
    {keep : TelemetryRecord R → Bool} (all : ∀ record, record.hostId = host → keep record = true) :
    alertsFor host (scorer.run .init (records.filter keep)) = alertsFor host (scorer.run .init records) := by
  rcases Pca.score_uniform scorer.pcaModel with sound | throws
  · rw [run_eq_trace sound, run_eq_trace sound, alertsFor, alertsFor]
    rw [scorer.step_local.trace_filter .init records host all]
  · rw [alertsFor_silent throws, alertsFor_silent throws]

omit [Arith R] [StreamText R] in
theorem inShard_iff {hash : String → Nat} {numShards shardId : Nat} {record : TelemetryRecord R} :
    inShard hash numShards shardId record = true ↔ hash record.hostId % numShards = shardId := by
  simp [inShard]

/-- Every record is scored in exactly one shard, and the shard of a host emits
the alerts that a single scorer emits for it. -/
theorem sharding_keeps_alerts (scorer : Scorer R) (hash : String → Nat) {numShards : Nat} (some : 1 ≤ numShards)
    (records : List (TelemetryRecord R)) :
    (∀ record ∈ records, ∃! shardId, shardId < numShards ∧ inShard hash numShards shardId record = true) ∧
    ((∀ vec, ∃ score, scorer.pcaModel.score vec = .ok score) → ∀ shardId,
      (scorer.runShard hash numShards shardId records).map Prod.fst = records.filter (inShard hash numShards shardId)) ∧
    ∀ host, alertsFor host (scorer.runShard hash numShards (hash host % numShards) records) =
      alertsFor host (scorer.runShard hash 1 0 records) := by
  refine ⟨?_, ?_, ?_⟩
  · intro record _
    refine ⟨hash record.hostId % numShards, ⟨Nat.mod_lt _ some, inShard_iff.mpr rfl⟩, ?_⟩
    rintro shardId ⟨-, mine⟩
    exact (inShard_iff.mp mine).symm
  · intro sound shardId
    rw [runShard, run_eq_trace sound, Keyed.map_fst_trace]
  · intro host
    rw [runShard, runShard, alertsFor_filter, alertsFor_filter]
    · exact fun record _ => inShard_iff.mpr (Nat.mod_one _)
    · intro record mine
      exact inShard_iff.mpr (by rw [mine])

omit [StreamText R] in
/-- A model with one component, along the first feature. -/
def firstAxis (mean scale : List R) (threshold : R) : PcaModel R :=
  ⟨true, mean, scale, ⟨1, 5, [1, 0, 0, 0, 0], rfl⟩, [0, 0, 0, 0, 0], threshold⟩

theorem firstAxis_score [StreamText ℝ] {vec : FeatureVector ℝ} (values : vec.data.toList = [50, 90, 30, 140, 50]) :
    ∃ text, (firstAxis [50, 60, 30, 100, 50] [10, 10, 10, 10, 10] 3).score vec =
      .ok ⟨true, 5, [0, 3, 0, 4, 0], text⟩ := by
  set model : PcaModel ℝ := firstAxis [50, 60, 30, 100, 50] [10, 10, 10, 10, 10] 3 with built
  have shifted : Pca.vecSub vec.data.toList model.curMean = .ok [0, 30, 0, 40, 0] := by
    norm_num [values, built, firstAxis, Pca.vecSub, Pca.entrywise]
  have scaled : Pca.vecDiv [0, 30, 0, 40, 0] model.curScale = .ok [0, 3, 0, 4, 0] := by
    norm_num [built, firstAxis, Pca.vecDiv, Pca.entrywise]
  have centered : Pca.vecSub [0, 3, 0, 4, 0] model.pcaMean = .ok [0, 3, 0, 4, 0] := by
    norm_num [built, firstAxis, Pca.vecSub, Pca.entrywise]
  have proj : Pca.matvec model.components [0, 3, 0, 4, 0] = .ok [0] := by
    norm_num [built, firstAxis, Pca.matvec, Pca.Matrix.get, List.range_succ]
  have recon : Pca.matvec (Pca.transpose model.components) [0] = .ok [0, 0, 0, 0, 0] := by
    norm_num [built, firstAxis, Pca.matvec, Pca.transpose, List.range_succ]
  have added : Pca.vecAdd [0, 0, 0, 0, 0] model.pcaMean = .ok [0, 0, 0, 0, 0] := by
    norm_num [built, firstAxis, Pca.vecAdd, Pca.entrywise]
  have diff : Pca.vecSub [0, 3, 0, 4, 0] [0, 0, 0, 0, 0] = .ok ([0, 3, 0, 4, 0] : List ℝ) := by
    norm_num [Pca.vecSub, Pca.entrywise]
  have norm : Pca.l2Norm [0, 3, 0, 4, 0] = .ok (5 : ℝ) := by
    have root : Arith.sqrt (25 : ℝ) = 5 := by
      show Real.sqrt 25 = 5
      rw [show (25 : ℝ) = 5 ^ 2 by norm_num]
      exact Real.sqrt_sq (by norm_num)
    norm_num [Pca.l2Norm, Pca.dot, Except.map, root]
  simp only [PcaModel.score, bind, Except.bind, pure, Except.pure, shifted, scaled, centered, proj, recon, added, diff,
    norm]
  have far : (5 : ℝ) > model.threshold := by norm_num [built, firstAxis]
  exact ⟨_, by rw [if_neg (by simp [built, firstAxis]), if_pos far]⟩

omit [StreamText R] in
/-- A host without a state raises an alert on a flagged call, unless it waits for more of them. -/
theorem evaluateHost_init {manager : AlertManager} (single : manager.hysteresisThreshold ≤ 1) {call : Call R}
    (flagged : call.anyFlag = true) : manager.evaluateHost .init call = (⟨0, call.ts⟩, [call.alert]) := by
  rw [AlertManager.evaluateHost, if_pos flagged]
  simp [FusionState.init, not_lt.mpr single]

/-- Two hosts in two shards. The first record of one of them is far from the model and raises an alert. -/
theorem sharding_keeps_alerts_twoShards :
    let _ : StreamText ℝ := ⟨fun _ => "", fun _ => ""⟩
    let scorer : Scorer ℝ := mainScorer (.ok (firstAxis [50, 60, 30, 100, 50] [10, 10, 10, 10, 10] 3))
    let hash : String → Nat := fun host => if host = "host-1" then 6 else 7
    let records : List (TelemetryRecord ℝ) := [⟨20000000000, "host-1", "sim-run-001", 50, 90, 30, 140, 50⟩,
      ⟨20000000000, "host-2", "sim-run-001", 70, 60, 30, 100, 50⟩,
      ⟨35000000000, "host-1", "sim-run-001", 50, 60, 30, 100, 50⟩]
    (scorer.runShard hash 2 0 records).length = 2 ∧ alertsFor "host-1" (scorer.runShard hash 2 0 records) ≠ [] ∧
      alertsFor "host-1" (scorer.runShard hash 2 0 records) = alertsFor "host-1" (scorer.runShard hash 1 0 records) := by
  intro _ scorer hash records
  obtain ⟨-, all, same⟩ := sharding_keeps_alerts scorer hash (by decide : 1 ≤ 2) records
  have kept : records.filter (inShard hash 2 0) = [records[0], records[2]] := by simp [records, inShard, hash]
  have mine : hash "host-1" % 2 = 0 := by simp [hash]
  have sound : ∀ vec, ∃ score, scorer.pcaModel.score vec = .ok score :=
    fun vec => (Pca.score_ok_iff scorer.pcaModel vec).mpr fun _ => ⟨rfl, rfl, rfl, rfl⟩
  refine ⟨?_, ?_, mine ▸ same "host-1"⟩
  · calc (scorer.runShard hash 2 0 records).length
        = ((scorer.runShard hash 2 0 records).map Prod.fst).length := by rw [List.length_map]
      _ = (records.filter (inShard hash 2 0)).length := by rw [all sound]
      _ = 2 := by rw [kept]; rfl
  · have values : (scorer.config.preprocessing.apply (FeatureVector.fromRecord records[0])).data.toList =
        [50, 90, 30, 140, 50] := by
      have clamped (vec : FeatureVector ℝ) : (scorer.config.preprocessing.apply vec).data.toList =
          vec.data.toList.map fun x => if x < 0 then 0 else x := Vector.toList_map
      have raw : (FeatureVector.fromRecord records[0]).data.toList = [50, 90, 30, 140, 50] := rfl
      rw [clamped, raw]
      norm_num
    obtain ⟨text, far⟩ := firstAxis_score values
    rw [show firstAxis [50, 60, 30, 100, 50] [10, 10, 10, 10, 10] 3 = scorer.pcaModel from rfl] at far
    rw [runShard, kept, run]
    have due (flag : Bool) : scorer.gate flag 20000000000 0 = (true, 20000000000) := by
      cases flag <;> decide
    obtain ⟨next, alert, scored⟩ : ∃ next alert, scorer.scoreRecord .init records[0] = .ok (next, [alert]) := by
      have clock : records[0].metricTimestamp = 20000000000 := rfl
      have idle : ((ScorerState.init : ScorerState ℝ).hostStates.lookup records[0].hostId).getD 0 = 0 := rfl
      have calm : AlertManager.stateOf (ScorerState.init : ScorerState ℝ).alertStates records[0].hostId = .init := rfl
      simp only [scoreRecord, clock, idle, due, detectB, if_true, far, Except.map, bind, Except.bind, pure, Except.pure,
        AlertManager.evaluate]
      rw [show (fuse _ _ _ _ : Call ℝ).hostId = records[0].hostId from rfl, calm, evaluateHost_init le_rfl]
      · exact ⟨_, _, rfl⟩
      · simp [fuse, Call.anyFlag]
    simp [scored, alertsFor, show records[0].hostId = "host-1" from rfl]

end Scorer

end TelemetryLab.Alerts
