import TelemetryLab.Alerts.Scorer
import TelemetryLab.Lib.Throttle

/-! The gate before detector B in the loop of `scorer_main.cpp`.

For each host it is a throttle that detector A triggers. Time points count
nanoseconds, and a new host has last run detector B at the epoch.
-/

set_option autoImplicit false
namespace TelemetryLab.Alerts
open Pca (StreamText PcaModel Thrown)

variable {R : Type} [Arith R] [StreamText R]

/-- A record that has been scored, with what the gate was told and what it decided. -/
structure Gated (R : Type) where
  record : TelemetryRecord R
  flagA : Bool
  runB : Bool
  alerts : List (Alert R)

omit [Arith R] [StreamText R] in
/-- The record as an event of a throttle. -/
def Gated.event (entry : Gated R) : Throttle.Event × Bool := (⟨entry.record.metricTimestamp, entry.flagA⟩, entry.runB)

omit [Arith R] [StreamText R] in
def Gated.within (low high : Int) (entry : Gated R) : Bool := entry.event.1.within low high

namespace Scorer

variable (scorer : Scorer R)

/-- The period of the gate in the unit of the time points. -/
def period : Int := scorer.config.gating.periodMs * 1000000

def flagA (state : ScorerState R) (record : TelemetryRecord R) : Bool :=
  (((state.detectorsA.lookup record.hostId).getD .init).update scorer.config.window scorer.config.outliers
    (scorer.config.preprocessing.apply (FeatureVector.fromRecord record))).2.isAnomaly

def lastBRun (state : ScorerState R) (host : String) : Int := (state.hostStates.lookup host).getD 0

def runB (state : ScorerState R) (record : TelemetryRecord R) : Bool :=
  (scorer.gate (scorer.flagA state record) record.metricTimestamp (lastBRun state record.hostId)).1

/-- A run with the decisions of the gate. -/
def gatedRun (state : ScorerState R) : List (TelemetryRecord R) → List (Gated R)
  | [] => []
  | record :: rest =>
    match scorer.scoreRecord state record with
    | .ok (next, alerts) =>
      ⟨record, scorer.flagA state record, scorer.runB state record, alerts⟩ :: gatedRun next rest
    | .error _ => []

/-- What is left of a run for a host. -/
def gatedHost (host : String) (state : ScorerState R) (records : List (TelemetryRecord R)) : List (Gated R) :=
  (scorer.gatedRun state records).filter fun entry => decide (entry.record.hostId = host)

variable {scorer} {state next : ScorerState R} {record : TelemetryRecord R} {alerts : List (Alert R)}

theorem gatedRun_ok (scored : scorer.scoreRecord state record = .ok (next, alerts)) (rest : List (TelemetryRecord R)) :
    scorer.gatedRun state (record :: rest) =
      ⟨record, scorer.flagA state record, scorer.runB state record, alerts⟩ :: scorer.gatedRun next rest := by
  rw [gatedRun, scored]

theorem gatedRun_error {what : Thrown} (thrown : scorer.scoreRecord state record = .error what)
    (rest : List (TelemetryRecord R)) : scorer.gatedRun state (record :: rest) = [] := by
  rw [gatedRun, thrown]

theorem run_eq_map (state : ScorerState R) (records : List (TelemetryRecord R)) :
    scorer.run state records = (scorer.gatedRun state records).map fun entry => (entry.record, entry.alerts) := by
  induction records generalizing state with
  | nil => rfl
  | cons record rest ih =>
    rw [run]
    cases scored : scorer.scoreRecord state record with
    | error what => rw [gatedRun_error scored, List.map_nil]
    | ok result =>
      rw [gatedRun_ok scored, List.map_cons, ← ih]

/-- An exception leaves the records before it. -/
theorem gatedRun_prefix (state : ScorerState R) (records : List (TelemetryRecord R)) :
    (scorer.gatedRun state records).map Gated.record <+: records := by
  induction records generalizing state with
  | nil => exact List.prefix_rfl
  | cons record rest ih =>
    cases scored : scorer.scoreRecord state record with
    | error what =>
      rw [gatedRun_error scored]
      exact List.nil_prefix
    | ok result =>
      rw [gatedRun_ok scored]
      exact (List.prefix_cons_inj record).mpr (ih result.1)

theorem lastBRun_scored (scored : scorer.scoreRecord state record = .ok (next, alerts)) (host : String) :
    lastBRun next host = if host = record.hostId then
      (scorer.gate (scorer.flagA state record) record.metricTimestamp (lastBRun state record.hostId)).2
      else lastBRun state host := by
  simp only [scoreRecord] at scored
  obtain ⟨scoreB, -, scored⟩ := Pca.bind_eq_ok scored
  cases scored
  exact scorer.lastBRun_of_gate _ _ _ _ _

omit [StreamText R] in
theorem evaluate_unflagged (manager : AlertManager) (states : Table String FusionState) {call : Call R}
    (clear : call.anyFlag = false) : (manager.evaluate states call).2 = [] := by
  rw [AlertManager.evaluate, AlertManager.evaluateHost, clear]
  rfl

/-- Where detector B is skipped no detector has a flag, and no alert is raised. -/
theorem silent_of_skipped (scored : scorer.scoreRecord state record = .ok (next, alerts))
    (skipped : scorer.runB state record = false) : alerts = [] := by
  have clear : scorer.flagA state record = false := flag_of_skipped skipped
  simp only [scoreRecord] at scored
  obtain ⟨scoreB, detected, scored⟩ := Pca.bind_eq_ok scored
  cases scored
  simp only [runB, flagA, lastBRun] at skipped clear
  rw [skipped] at detected
  cases detected
  apply evaluate_unflagged
  simp only [Call.anyFlag, fuse, clear, Bool.or_self]

theorem gatedRun_silent (state : ScorerState R) (records : List (TelemetryRecord R)) :
    ∀ entry ∈ scorer.gatedRun state records, entry.runB = false → entry.alerts = [] := by
  induction records generalizing state with
  | nil => exact fun _ member => absurd member List.not_mem_nil
  | cons record rest ih =>
    intro entry member skipped
    cases scored : scorer.scoreRecord state record with
    | error what =>
      rw [gatedRun_error scored] at member
      cases member
    | ok result =>
      rw [gatedRun_ok scored] at member
      rcases List.mem_cons.mp member with rfl | later
      · exact silent_of_skipped scored skipped
      · exact ih result.1 entry later skipped

/-- The records of a host keep their order. -/
theorem gatedHost_sorted {records : List (TelemetryRecord R)} {host : String} (state : ScorerState R)
    (sorted : (records.filter fun record => decide (record.hostId = host)).Pairwise
      fun a b => a.metricTimestamp ≤ b.metricTimestamp) :
    ((scorer.gatedHost host state records).map fun entry => entry.event.1).Pairwise fun a b => a.time ≤ b.time := by
  have kept : ((scorer.gatedHost host state records).map Gated.record).Sublist
      (records.filter fun record => decide (record.hostId = host)) := by
    have part := (scorer.gatedRun_prefix state records).sublist.filter fun record => decide (record.hostId = host)
    rwa [List.filter_map] at part
  have ordered := sorted.sublist kept
  rw [List.pairwise_map] at ordered ⊢
  exact ordered

section Gating

variable (gating : scorer.config.gating.enableGating = true) (positive : 0 < scorer.config.gating.periodMs)
include gating positive

omit [Arith R] [StreamText R] in
/-- Whole milliseconds reach the period when the nanoseconds do. -/
theorem gate_eq (flagA : Bool) (currentTime last : Int) : scorer.gate flagA currentTime last =
    (Throttle.passes scorer.period last ⟨currentTime, flagA⟩,
      if Throttle.passes scorer.period last ⟨currentTime, flagA⟩ then currentTime else last) := by
  have due : (currentTime - last).tdiv 1000000 ≥ scorer.config.gating.periodMs ↔ scorer.period ≤ currentTime - last := by
    rw [period]
    rcases Int.le_total 0 (currentTime - last) with later | earlier
    · rw [Int.tdiv_eq_ediv_of_nonneg later]
      omega
    · -- a record from before the last run: the division rounds towards zero, and no period is reached
      have none_ := Int.tdiv_nonneg (neg_nonneg.mpr earlier) (by decide : (0 : Int) ≤ 1000000)
      rw [Int.neg_tdiv] at none_
      omega
  simp only [gate, gating, if_true, Throttle.passes, due]
  cases flagA <;> by_cases over_ : scorer.period ≤ currentTime - last <;> simp [over_]

/-- For a host the gate is a throttle that starts at its last run of detector B. -/
theorem gatedHost_throttled (host : String) (state : ScorerState R) (records : List (TelemetryRecord R)) :
    (scorer.gatedHost host state records).map Gated.event = Throttle.run scorer.period (lastBRun state host)
      ((scorer.gatedHost host state records).map fun entry => entry.event.1) := by
  induction records generalizing state with
  | nil => rfl
  | cons record rest ih =>
    cases scored : scorer.scoreRecord state record with
    | error what =>
      rw [gatedHost, gatedRun_error scored]
      rfl
    | ok result =>
      have moved := lastBRun_scored scored host
      have later := ih result.1
      rw [gatedHost, gatedRun_ok scored]
      rw [gatedHost] at later
      by_cases mine : record.hostId = host
      · have decided : scorer.runB state record = Throttle.passes scorer.period (lastBRun state host)
            ⟨record.metricTimestamp, scorer.flagA state record⟩ := by
          rw [runB, gate_eq gating positive, mine]
        rw [if_pos mine.symm, gate_eq gating positive, mine] at moved
        rw [List.filter_cons_of_pos (by simpa using mine), List.map_cons, List.map_cons, Throttle.run, later, moved]
        exact congrArg (fun passed => ((_, passed) : Throttle.Event × Bool) :: _) decided
      · -- another host's record leaves the last run of this one as it is
        rw [if_neg (Ne.symm mine)] at moved
        rw [List.filter_cons_of_neg (by simpa using mine), later, moved]

/-- What the gate does to the records of a host. -/
structure Throttled (scorer : Scorer R) (seen : List (Gated R)) : Prop where
  /-- A record goes without detector B only shortly after another one had it. -/
  skipped : ∀ before entry after, seen = before ++ entry :: after → entry.runB = false →
    entry.flagA = false ∧ entry.alerts = [] ∧
      entry.record.metricTimestamp < Throttle.lastPassed 0 (before.map Gated.event) + scorer.period
  /-- Detector B does not run early on its own. -/
  spaced : seen.Pairwise fun earlier entry => earlier.runB = true → entry.runB = true → entry.flagA = false →
    earlier.record.metricTimestamp + scorer.period ≤ entry.record.metricTimestamp
  /-- In any span of time it runs seldom on its own. -/
  few : ∀ low high, seen.countP (fun entry => entry.runB && entry.within low high) ≤
    seen.countP (fun entry => entry.flagA && entry.within low high) + ((high - low) / scorer.period).toNat + 1

variable (scorer) in
/-- For each host whose records come in the order of their times, the gate throttles detector B in every run. -/
theorem gate_throttles (records : List (TelemetryRecord R)) (host : String)
    (sorted : (records.filter fun record => decide (record.hostId = host)).Pairwise
      fun a b => a.metricTimestamp ≤ b.metricTimestamp) :
    scorer.run .init records = ((scorer.gatedRun .init records).map fun entry => (entry.record, entry.alerts)) ∧
      Throttled scorer (scorer.gatedHost host .init records) := by
  have gate := gatedHost_throttled gating positive host .init records
  have start : lastBRun (.init : ScorerState R) host = 0 := rfl
  have ordered : ((scorer.gatedHost host .init records).map fun entry => entry.event.1).Pairwise
      fun a b => a.time ≤ b.time := gatedHost_sorted .init sorted
  have pace : 0 < scorer.period := mul_pos positive (by decide)
  rw [start] at gate
  refine ⟨run_eq_map .init records, ?_, ?_, ?_⟩
  · intro before entry after seen off
    have member : entry ∈ scorer.gatedHost host .init records := by
      rw [seen]
      exact List.mem_append_right before List.mem_cons_self
    have parts := congrArg (List.map Gated.event) seen
    rw [gate, List.map_append, List.map_cons] at parts
    obtain ⟨untriggered, early⟩ := Throttle.held_back parts off
    exact ⟨untriggered, gatedRun_silent .init records entry (List.mem_filter.mp member).1 off, early⟩
  · have apart : (Throttle.run scorer.period 0 _).Pairwise _ := Throttle.run_spaced ordered
    rw [← gate, List.pairwise_map] at apart
    exact apart
  · intro low high
    have bounded := Throttle.passed_bounded pace 0 low high ordered
    rw [← gate, List.countP_map, List.countP_map] at bounded
    exact bounded

end Gating

/-- Detector B runs on the first record of a host, and not on the one a second later, with another host between them
and a third record of the host after the period. -/
theorem gate_throttles_second :
    let _ : StreamText ℝ := ⟨fun _ => "", fun _ => ""⟩
    let scorer : Scorer ℝ :=
      mainScorer (.error (.runtimeError "Failed to open artifact: artifacts/pca/default/model.json"))
    let records : List (TelemetryRecord ℝ) := [⟨20000000000, "host-1", "sim-run-001", 50, 60, 30, 100, 50⟩,
      ⟨20500000000, "host-2", "sim-run-001", 70, 60, 30, 100, 50⟩,
      ⟨21000000000, "host-1", "sim-run-001", 51, 60, 30, 100, 50⟩,
      ⟨81000000000, "host-1", "sim-run-001", 52, 60, 30, 100, 50⟩]
    Throttled scorer (scorer.gatedHost "host-1" .init records) := by
  intro _ scorer records
  refine (gate_throttles scorer rfl (by decide) records "host-1" ?_).2
  simp [records]

end Scorer

end TelemetryLab.Alerts
