import Mathlib.Data.List.Chain
import TelemetryLab.Contract
import TelemetryLab.Lib.Keyed
import TelemetryLab.Lib.Table

/-! The alert manager (`alert_manager.cpp`): hysteresis and cooldown per host, and
the law of its traces.

A counter that is not reset grows with the calls, so the `int` of the source
does not overflow within 2^31 of them (`consecutiveAnomalies_le`).
-/

set_option autoImplicit false
namespace TelemetryLab.Alerts

variable {R : Type} [Arith R]

inductive Severity where
  | low
  | medium
  | high
  | critical
  deriving DecidableEq, Repr

/-- `FUSION_A_B`, `DETECTOR_B_PCA` and `DETECTOR_A_STATS` -/
inductive Source where
  | fusionAB
  | detectorBPca
  | detectorAStats
  deriving DecidableEq, Repr

structure Alert (R : Type) where
  hostId : String
  runId : String
  timestamp : Int
  severity : Severity
  source : Source
  score : R
  detailsJson : String

structure FusionState where
  consecutiveAnomalies : Int
  lastAlertTime : Int
  deriving DecidableEq, Repr

/-- A new entry of the map: no anomaly yet, and the epoch as the time of the last alert. -/
def FusionState.init : FusionState := ⟨0, 0⟩

structure AlertManager where
  hysteresisThreshold : Int
  cooldownSeconds : Int
  deriving DecidableEq, Repr

/-- The arguments of `Evaluate`. -/
structure Call (R : Type) where
  hostId : String
  runId : String
  ts : Int
  detectorAFlag : Bool
  scoresA : R
  detectorBFlag : Bool
  scoresB : R
  details : String

def Call.anyFlag (call : Call R) : Bool := call.detectorAFlag || call.detectorBFlag

def Call.severity (call : Call R) : Severity :=
  if call.detectorAFlag && call.detectorBFlag then .critical
  else if call.detectorBFlag then .high
  else if call.scoresA > 10.0 then .high else .medium

def Call.source (call : Call R) : Source :=
  if call.detectorAFlag && call.detectorBFlag then .fusionAB
  else if call.detectorBFlag then .detectorBPca
  else .detectorAStats

def Call.score (call : Call R) : R :=
  if call.detectorAFlag && call.detectorBFlag then Arith.max call.scoresA call.scoresB
  else if call.detectorBFlag then call.scoresB
  else call.scoresA

def Call.alert (call : Call R) : Alert R :=
  ⟨call.hostId, call.runId, call.ts, call.severity, call.source, call.score, call.details⟩

namespace AlertManager

variable (manager : AlertManager)

/-- The cooldown in the unit of the time points. -/
def cooldown : Int := manager.cooldownSeconds * 1000000000

/-- `Evaluate` on the state of the host. -/
def evaluateHost (state : FusionState) (call : Call R) : FusionState × List (Alert R) :=
  if call.anyFlag then
    let state := { state with consecutiveAnomalies := state.consecutiveAnomalies + 1 }
    if state.consecutiveAnomalies < manager.hysteresisThreshold then (state, [])
    -- the time of the last alert counts only once it is after the epoch
    else if state.lastAlertTime > 0 ∧ call.ts - state.lastAlertTime < manager.cooldown then (state, [])
    else (⟨0, call.ts⟩, [call.alert])
  else ({ state with consecutiveAnomalies := 0 }, [])

/-- `states_[host_id]` -/
def stateOf (states : Table String FusionState) (host : String) : FusionState := (states.lookup host).getD .init

def evaluate (states : Table String FusionState) (call : Call R) : Table String FusionState × List (Alert R) :=
  let result := manager.evaluateHost (stateOf states call.hostId) call
  (states.insert call.hostId result.1, result.2)

/-- The calls made on a new manager, each with the alerts it returned. -/
def history (calls : List (Call R)) : List (Call R × List (Alert R)) := Keyed.trace manager.evaluate ∅ calls

/-- The states after calls made on a new manager. -/
def statesAfter (calls : List (Call R)) : Table String FusionState := Keyed.after manager.evaluate ∅ calls

/-- The part of a history that belongs to a host. -/
def hostHistory (host : String) (calls : List (Call R)) : List (Call R × List (Alert R)) :=
  (manager.history calls).filter fun event => decide (event.1.hostId = host)

def alertsOf (host : String) (calls : List (Call R)) : List (Alert R) :=
  (manager.hostHistory host calls).flatMap Prod.snd

theorem evaluate_local : Keyed.Local (manager.evaluate (R := R)) Call.hostId stateOf manager.evaluateHost where
  here states call := by simp [evaluate, stateOf]
  answer _ _ := rfl
  elsewhere states call host other := by simp [evaluate, stateOf, AList.lookup_insert_ne other]

end AlertManager

/-! ## What a history says of the next call -/

section Past

/-- A call of the host that was unflagged or that raised an alert. -/
def resets (event : Call R × List (Alert R)) : Bool := !event.1.anyFlag || !event.2.isEmpty

/-- The flagged calls since the later of the last unflagged call and the last alert. -/
def flaggedSince (past : List (Call R × List (Alert R))) : Nat :=
  (past.reverse.takeWhile fun event => !resets event).countP fun event => event.1.anyFlag

/-- The timestamp of the last alert. -/
def lastAlert (past : List (Call R × List (Alert R))) : Option Int :=
  (past.reverse.find? fun event => !event.2.isEmpty).map fun event => event.1.ts

variable (past : List (Call R × List (Alert R))) {event : Call R × List (Alert R)}

omit [Arith R] in
theorem flaggedSince_reset (reset : resets event = true) : flaggedSince (past ++ [event]) = 0 := by
  simp [flaggedSince, reset]

omit [Arith R] in
theorem flaggedSince_flagged (counts : resets event = false) :
    flaggedSince (past ++ [event]) = flaggedSince past + 1 := by
  have flagged : event.1.anyFlag = true := by
    simp only [resets, Bool.or_eq_false_iff, Bool.not_eq_false'] at counts
    exact counts.1
  simp [flaggedSince, counts, flagged]

omit [Arith R] in
theorem lastAlert_silent (silent : event.2 = []) : lastAlert (past ++ [event]) = lastAlert past := by
  simp [lastAlert, silent]

omit [Arith R] in
theorem lastAlert_raised (raised : event.2 ≠ []) : lastAlert (past ++ [event]) = some event.1.ts := by
  simp [lastAlert, raised]

end Past

namespace AlertManager

variable (manager : AlertManager)

/-- The conditions under which a call raises an alert. -/
structure Due (past : List (Call R × List (Alert R))) (call : Call R) : Prop where
  flagged : call.anyFlag = true
  confirmed : manager.hysteresisThreshold ≤ (flaggedSince past + 1 : Nat)
  cooled : ∀ time, lastAlert past = some time → manager.cooldown ≤ call.ts - time

/-- The state of a host says of its past what the next call asks for. -/
structure Reflects (state : FusionState) (past : List (Call R × List (Alert R))) : Prop where
  count : state.consecutiveAnomalies = flaggedSince past
  time : state.lastAlertTime = (lastAlert past).getD 0
  afterEpoch : ∀ time, lastAlert past = some time → 0 < time

variable {manager} {state : FusionState} {past : List (Call R × List (Alert R))} {call : Call R}

omit [Arith R] in
theorem Reflects.hot_iff (reflects : Reflects state past) (call : Call R) :
    (state.lastAlertTime > 0 ∧ call.ts - state.lastAlertTime < manager.cooldown) ↔
      ¬ ∀ time, lastAlert past = some time → manager.cooldown ≤ call.ts - time := by
  rw [reflects.time]
  cases last : lastAlert past with
  | none => simp
  | some time =>
    have positive := reflects.afterEpoch time last
    simp [positive]

theorem Reflects.due (reflects : Reflects state past) (due : manager.Due past call) :
    manager.evaluateHost state call = (⟨0, call.ts⟩, [call.alert]) := by
  have confirmed : ¬ state.consecutiveAnomalies + 1 < manager.hysteresisThreshold := by
    have enough := due.confirmed
    rw [reflects.count]
    push_cast at enough
    omega
  have cold := fun hot => (reflects.hot_iff call).mp hot due.cooled
  simp only [evaluateHost, due.flagged, if_true]
  rw [if_neg confirmed, if_neg cold]

theorem Reflects.not_due (reflects : Reflects state past) (not : ¬ manager.Due past call) :
    manager.evaluateHost state call =
      (⟨if call.anyFlag then state.consecutiveAnomalies + 1 else 0, state.lastAlertTime⟩, []) := by
  unfold evaluateHost
  split
  next flagged =>
    simp only
    split
    · rfl
    next confirmed =>
      split
      · rfl
      next cold =>
        refine absurd ⟨flagged, ?_, ?_⟩ not
        · rw [reflects.count] at confirmed
          push_cast
          omega
        · by_contra hot
          exact cold ((reflects.hot_iff call).mpr hot)
  next => rfl

theorem Reflects.step (reflects : Reflects state past) (positive : 0 < call.ts) :
    Reflects (manager.evaluateHost state call).1 (past ++ [(call, (manager.evaluateHost state call).2)]) := by
  by_cases due : manager.Due past call
  · rw [reflects.due due]
    have reset : flaggedSince (past ++ [(call, [call.alert])]) = 0 := flaggedSince_reset past (by simp [resets])
    have raised : lastAlert (past ++ [(call, [call.alert])]) = some call.ts := lastAlert_raised past (by simp)
    exact ⟨by simp [reset], by simp [raised], by simp [raised, positive]⟩
  · rw [reflects.not_due due]
    have silent : lastAlert (past ++ [(call, [])]) = lastAlert past := lastAlert_silent past rfl
    refine ⟨?_, by simp [silent, reflects.time], by simpa [silent] using reflects.afterEpoch⟩
    by_cases flagged : call.anyFlag = true
    · have counted : flaggedSince (past ++ [(call, [])]) = flaggedSince past + 1 :=
        flaggedSince_flagged past (by simp [resets, flagged])
      simp [flagged, counted, reflects.count]
    · have reset : flaggedSince (past ++ [(call, [])]) = 0 := flaggedSince_reset past (by simp [resets, flagged])
      simp [flagged, reset]

/-! ## Runs on a new manager -/

theorem reflects_run (manager : AlertManager) {calls : List (Call R)} (afterEpoch : ∀ call ∈ calls, 0 < call.ts) :
    Reflects (Keyed.after manager.evaluateHost .init calls) (Keyed.trace manager.evaluateHost .init calls) := by
  induction calls using List.reverseRecOn with
  | nil => exact ⟨rfl, rfl, by simp [Keyed.trace, lastAlert]⟩
  | append_singleton calls call ih =>
    rw [Keyed.after_append, Keyed.trace_append]
    exact (ih fun other mem => afterEpoch other (by simp [mem])).step (afterEpoch call (by simp))

/-- The alerts of a run end with the one at the time of the last alert. -/
theorem getLast?_alerts {calls : List (Call R)} (afterEpoch : ∀ call ∈ calls, 0 < call.ts) {alert : Alert R}
    (last : ((Keyed.trace manager.evaluateHost .init calls).flatMap Prod.snd).getLast? = some alert) :
    lastAlert (Keyed.trace manager.evaluateHost .init calls) = some alert.timestamp := by
  induction calls using List.reverseRecOn with
  | nil => cases last
  | append_singleton calls call ih =>
    have earlier : ∀ other ∈ calls, 0 < other.ts := fun other mem => afterEpoch other (by simp [mem])
    have reflects := reflects_run manager earlier
    simp only [Keyed.trace_append, Keyed.trace, List.flatMap_append, List.flatMap_singleton] at last ⊢
    by_cases due : manager.Due (Keyed.trace manager.evaluateHost .init calls) call
    · rw [reflects.due due] at last ⊢
      rw [List.getLast?_concat] at last
      cases last
      exact lastAlert_raised _ (by simp)
    · rw [reflects.not_due due] at last ⊢
      rw [lastAlert_silent _ rfl]
      exact ih earlier (by simpa using last)

theorem alerts_spaced {calls : List (Call R)} (afterEpoch : ∀ call ∈ calls, 0 < call.ts) :
    ((Keyed.trace manager.evaluateHost .init calls).flatMap Prod.snd).IsChain fun first second =>
      manager.cooldown ≤ second.timestamp - first.timestamp := by
  induction calls using List.reverseRecOn with
  | nil => exact List.isChain_nil
  | append_singleton calls call ih =>
    have earlier : ∀ other ∈ calls, 0 < other.ts := fun other mem => afterEpoch other (by simp [mem])
    have reflects := reflects_run manager earlier
    simp only [Keyed.trace_append, Keyed.trace, List.flatMap_append, List.flatMap_singleton]
    by_cases due : manager.Due (Keyed.trace manager.evaluateHost .init calls) call
    · rw [reflects.due due]
      refine List.isChain_append.mpr ⟨ih earlier, List.isChain_singleton _, ?_⟩
      intro first last second new
      cases new
      exact due.cooled first.timestamp (getLast?_alerts earlier last)
    · rw [reflects.not_due due, List.append_nil]
      exact ih earlier

theorem consecutiveAnomalies_bounds (calls : List (Call R)) :
    0 ≤ (Keyed.after manager.evaluateHost .init calls).consecutiveAnomalies ∧
      (Keyed.after manager.evaluateHost .init calls).consecutiveAnomalies ≤ calls.length := by
  induction calls using List.reverseRecOn with
  | nil => exact ⟨le_rfl, le_rfl⟩
  | append_singleton calls call ih =>
    rw [Keyed.after_append, List.length_append, List.length_singleton]
    simp only [Keyed.after, evaluateHost]
    split_ifs <;> constructor <;> push_cast <;> omega

/-- No counter outgrows the number of calls. -/
theorem consecutiveAnomalies_le (calls : List (Call R)) (host : String) :
    (stateOf (manager.statesAfter calls) host).consecutiveAnomalies ≤ calls.length := by
  rw [statesAfter, (manager.evaluate_local).after_view]
  refine (consecutiveAnomalies_bounds _).2.trans ?_
  exact_mod_cast List.length_filter_le _ _

theorem hostHistory_eq (manager : AlertManager) (host : String) (calls : List (Call R)) :
    manager.hostHistory host calls =
      Keyed.trace manager.evaluateHost .init (calls.filter fun call => decide (call.hostId = host)) :=
  (manager.evaluate_local).trace_of_key ∅ calls host

/-- A call raises one alert exactly when it is due, and none otherwise; the
alerts of a host depend on its own calls only, and lie a cooldown apart. -/
theorem alert_trace_law (manager : AlertManager) :
    (∀ (before : List (Call R)) (call : Call R), (∀ other ∈ before, 0 < other.ts) →
      ((manager.evaluate (manager.statesAfter before) call).2.length = 1 ↔
        manager.Due (manager.hostHistory call.hostId before) call) ∧
      (¬ manager.Due (manager.hostHistory call.hostId before) call →
        (manager.evaluate (manager.statesAfter before) call).2 = [])) ∧
    (∀ (calls : List (Call R)) (host : String),
      manager.alertsOf host calls = manager.alertsOf host (calls.filter fun call => decide (call.hostId = host))) ∧
    (∀ (calls : List (Call R)) (host : String), (∀ call ∈ calls, 0 < call.ts) →
      (manager.alertsOf host calls).IsChain fun first second =>
        manager.cooldown ≤ second.timestamp - first.timestamp) := by
  refine ⟨?_, ?_, ?_⟩
  · intro before call afterEpoch
    have own : ∀ other ∈ before.filter (fun other => decide (other.hostId = call.hostId)), 0 < other.ts :=
      fun other mem => afterEpoch other (List.mem_of_mem_filter mem)
    have reflects := reflects_run manager own
    have answer : (manager.evaluate (manager.statesAfter before) call).2 = (manager.evaluateHost
        (Keyed.after manager.evaluateHost .init (before.filter fun other => decide (other.hostId = call.hostId)))
        call).2 := by
      rw [(manager.evaluate_local).answer, statesAfter, (manager.evaluate_local).after_view]
      rfl
    rw [answer, hostHistory_eq]
    by_cases due : manager.Due (Keyed.trace manager.evaluateHost .init
        (before.filter fun other => decide (other.hostId = call.hostId))) call
    · simp [reflects.due due, due]
    · simp [reflects.not_due due, due]
  · intro calls host
    rw [alertsOf, alertsOf, hostHistory_eq, hostHistory_eq, List.filter_filter]
    simp
  · intro calls host afterEpoch
    rw [alertsOf, hostHistory_eq]
    exact alerts_spaced fun call mem => afterEpoch call (List.mem_of_mem_filter mem)

/-- A flagged call five seconds after an alert of its host, with a cooldown of ten. -/
theorem alert_trace_law_cooling :
    let first : Call ℝ := ⟨"host-1", "run", 1000000000, true, 4, false, 0, ""⟩
    let second : Call ℝ := ⟨"host-1", "run", 6000000000, true, 4, false, 0, ""⟩
    let manager : AlertManager := ⟨1, 10⟩
    (manager.evaluate (manager.statesAfter [first]) second).2 = [] := by
  intro first second manager
  refine (((alert_trace_law manager).1 [first] second) (by simp [first])).2 fun due => ?_
  have cooled := due.cooled 1000000000 rfl
  revert cooled
  decide

end AlertManager

end TelemetryLab.Alerts
