import Mathlib
import TelemetryLab.Jobs.FailedStart
import TelemetryLab.Obs.Metrics

/-! The metrics of the job manager (`job_manager.cpp`).

The calls are made inside the critical sections, so each step of the manager has
its own. The registry is shared with the rest of the process, whose calls come
in between under other names.
-/

set_option autoImplicit false
namespace TelemetryLab.Jobs
open JobManager Transition Obs

variable {Work : Type}

/-- The calls of a critical section. `standard` is whether what the body threw is
a `std::exception`, which the last section of the job distinguishes. -/
def callsOf (m : JobManager Work) (standard : Bool) : Label Work → List MetricsCall
  | .startJob jobId requestId _ _ =>
    if m.stopping then []
    else
      let clean := m.cleanupFinishedThreads
      if clean.maxJobs ≤ clean.currentJobs then
        [.increment "job_rejected_total" (.single "reason" "resource_exhausted") 1]
      else [.setGauge "job_active_count" (clean.enlist jobId requestId).currentJobs.toNat]
  | .finalSection k =>
    match (m.started[k]?).map JobThread.phase with
    -- also for a job that was cancelled
    | some .returned =>
      [.setGauge "job_active_count" (m.currentJobs - 1).toNat, .increment "job_completed_total" .empty 1]
    | some (.threw _) =>
      [.setGauge "job_active_count" (m.currentJobs - 1).toNat,
        .increment "job_failed_total" (.single "error" (if standard then "exception" else "unknown")) 1]
    | some .body | some .finished | none => []
  | .bodyReturn _ | .bodyThrow _ _ | .cancelJob _ | .setMaxConcurrentJobs _ | .stop | .stopSection | .stopJoin
  | .stopReturn => []

/-- How the call of `StartJob` in a step comes out. -/
def outcomeOf (m : JobManager Work) : Label Work → List StartOutcome
  | .startJob jobId requestId work threadStarts => [(m.startJob jobId requestId work threadStarts).1]
  | .bodyReturn _ | .bodyThrow _ _ | .finalSection _ | .cancelJob _ | .setMaxConcurrentJobs _ | .stop | .stopSection
  | .stopJoin | .stopReturn => []

def jobMetrics : List String := ["job_rejected_total", "job_active_count", "job_completed_total", "job_failed_total"]

/-- A process with a job manager, the outcomes of its calls of `StartJob` and all
its calls of the registry. -/
structure Metered (Work : Type) where
  world : World Work
  outcomes : List StartOutcome
  calls : List MetricsCall

namespace Metered

inductive Label (Work : Type) where
  | job (label : Jobs.Label Work) (standard : Bool)
  | emit (call : MetricsCall)

def init : Metered Work := ⟨.init, [], []⟩

def step (t : Metered Work) : Label Work → Option (Metered Work)
  | .job label standard => (Jobs.step t.world label).map fun world =>
      ⟨world, t.outcomes ++ outcomeOf t.world.manager label, t.calls ++ callsOf t.world.manager standard label⟩
  | .emit call => if call.name ∈ jobMetrics then none else some { t with calls := t.calls ++ [call] }

def active (t : Metered Work) : ℚ := (settings t.calls "job_active_count").getLast?.getD 0

def completed (t : Metered Work) : Int := (increments t.calls "job_completed_total" .empty).sum

def failed (t : Metered Work) : Int :=
  (increments t.calls "job_failed_total" (.single "error" "exception")).sum +
    (increments t.calls "job_failed_total" (.single "error" "unknown")).sum

def rejected (t : Metered Work) : Int :=
  (increments t.calls "job_rejected_total" (.single "reason" "resource_exhausted")).sum

end Metered

/-- The jobs whose final section has run. -/
def JobManager.finished (m : JobManager Work) : Nat :=
  m.started.countP fun thread => decide (thread.phase = .finished)

def StartOutcome.takesSlot : StartOutcome → Bool
  | .rejected _ => false
  | .admitted | .systemError | .terminated => true

def queueFull : StartOutcome := .rejected "Job queue full: max concurrent jobs reached"

/-- The metrics tell the truth about the manager: the gauge is the number of slots
taken, the two totals together are the jobs that have ended, and every call of
`StartJob` is in one of the numbers unless the manager was stopping. -/
structure MetricsAgree (t : Metered Work) : Prop where
  active : t.active = (t.world.manager.currentJobs.toNat : ℚ)
  ended : t.completed + t.failed = t.world.manager.finished
  slots : (t.world.manager.currentJobs.toNat : Int) + t.completed + t.failed =
    (t.outcomes.countP StartOutcome.takesSlot : Nat)
  rejected : t.rejected = (t.outcomes.count queueFull : Nat)

/-! ## The critical sections -/

/-- What a step does to the slots and to the jobs that have ended, and what it reports. -/
inductive Reports (m after : JobManager Work) : List StartOutcome → List MetricsCall → Prop
  | nothing (slots : after.currentJobs = m.currentJobs) (ended : after.finished = m.finished) : Reports m after [] []
  | stopping (slots : after.currentJobs = m.currentJobs) (ended : after.finished = m.finished) :
      Reports m after [.rejected "JobManager is stopping"] []
  | full (slots : after.currentJobs = m.currentJobs) (ended : after.finished = m.finished) :
      Reports m after [queueFull] [.increment "job_rejected_total" (.single "reason" "resource_exhausted") 1]
  | takes (outcome : StartOutcome) (some : outcome.takesSlot = true) (below : m.currentJobs < m.maxJobs)
      (slots : after.currentJobs = m.currentJobs + 1) (ended : after.finished = m.finished) :
      Reports m after [outcome] [.setGauge "job_active_count" after.currentJobs.toNat]
  | completes (slots : after.currentJobs = m.currentJobs - 1) (ended : after.finished = m.finished + 1)
      (alive : 0 < m.unfinished) : Reports m after []
        [.setGauge "job_active_count" after.currentJobs.toNat, .increment "job_completed_total" .empty 1]
  | fails (kind : String) (known : kind = "exception" ∨ kind = "unknown") (slots : after.currentJobs = m.currentJobs - 1)
      (ended : after.finished = m.finished + 1) (alive : 0 < m.unfinished) : Reports m after []
        [.setGauge "job_active_count" after.currentJobs.toNat, .increment "job_failed_total" (.single "error" kind) 1]

theorem startJob_reports (m : JobManager Work) (jobId requestId : String) (work : Work) (threadStarts standard : Bool) :
    Reports m (m.startJob jobId requestId work threadStarts).2
      (outcomeOf m (.startJob jobId requestId work threadStarts))
      (callsOf m standard (.startJob jobId requestId work threadStarts)) := by
  simp only [outcomeOf, callsOf, startJob]
  by_cases stopping : m.stopping = true
  · rw [if_pos stopping, if_pos stopping]
    exact .stopping rfl rfl
  · rw [if_neg stopping, if_neg stopping]
    by_cases full : m.cleanupFinishedThreads.maxJobs ≤ m.cleanupFinishedThreads.currentJobs
    · rw [if_pos full, if_pos full]
      exact .full rfl rfl
    · rw [if_neg full, if_neg full]
      have below : m.currentJobs < m.maxJobs := UInt64.not_le.mp full
      cases threadStarts with
      | false => exact .takes _ rfl below rfl rfl
      | true =>
        -- the new thread has not ended
        have grown : (m.started ++ [(⟨jobId, requestId, work, m.flags.length, .body⟩ : JobThread Work)]).countP
            (fun thread => decide (thread.phase = .finished)) =
              m.started.countP fun thread => decide (thread.phase = .finished) := by simp
        by_cases stored : jobId ∈ m.cleanupFinishedThreads.threads
        · rw [if_pos rfl, if_pos stored]
          exact .takes _ rfl below rfl grown
        · rw [if_pos rfl, if_neg stored]
          exact .takes _ rfl below rfl grown

theorem setPhase_ended (m : JobManager Work) {k : Nat} {thread : JobThread Work} (found : m.started[k]? = some thread)
    (alive : thread.phase ≠ .finished) (phase : Phase) :
    (m.setPhase k phase).finished = m.finished + if phase = .finished then 1 else 0 := by
  have counted := countP_modify m.started k (fun thread => decide (thread.phase = .finished))
    (fun thread => { thread with phase }) found
  simpa [finished, setPhase, alive] using counted

theorem step_reports {w next : World Work} {label : Label Work} (taken : step w label = some next) (standard : Bool) :
    Reports w.manager next.manager (outcomeOf w.manager label) (callsOf w.manager standard label) := by
  cases (step_takes taken).2 with
  | startJob jobId requestId work threadStarts => exact startJob_reports w.manager jobId requestId work threadStarts standard
  | bodyReturn k thread found inside => exact .nothing rfl (setPhase_ended w.manager found (by simp [inside]) .returned)
  | bodyThrow k error thread found inside =>
    exact .nothing rfl (setPhase_ended w.manager found (by simp [inside]) (.threw error))
  | finalSection k thread status error found reached =>
    have alive := alive_of_reached reached
    have ended := setPhase_ended w.manager found alive .finished
    have some : 0 < w.manager.unfinished :=
      List.countP_pos_iff.mpr ⟨thread, List.mem_of_getElem? found, decide_eq_true alive⟩
    rcases reached with ⟨returned, _⟩ | ⟨what, threw, _⟩
    · simp only [outcomeOf, callsOf, found, Option.map_some, returned]
      exact .completes rfl ended some
    · simp only [outcomeOf, callsOf, found, Option.map_some, threw]
      cases standard
      · exact .fails "unknown" (.inr rfl) rfl ended some
      · exact .fails "exception" (.inl rfl) rfl ended some
  | cancelJob jobId =>
    refine .nothing ?_ (congrArg (List.countP _) (w.manager.cancelJob_started jobId))
    show (w.manager.cancelJob jobId).currentJobs = _
    unfold cancelJob
    split <;> rfl
  | setMaxConcurrentJobs | stopAgain | stop | stopSection | stopJoin | stopReturn => exact .nothing rfl rfl

/-! ## The totals -/

section totals
variable {t : Metered Work} {world : World Work} {outcomes : List StartOutcome}

/-- What further calls add to the totals and leave in the gauge. -/
structure Adds (calls : List MetricsCall) (active : Option ℚ) (completed failed rejected : Int) : Prop where
  active : (settings calls "job_active_count").getLast? = active
  completed : (increments calls "job_completed_total" .empty).sum = completed
  failed : (increments calls "job_failed_total" (.single "error" "exception")).sum +
    (increments calls "job_failed_total" (.single "error" "unknown")).sum = failed
  rejected : (increments calls "job_rejected_total" (.single "reason" "resource_exhausted")).sum = rejected

theorem Adds.totals {calls : List MetricsCall} {active : Option ℚ} {completed failed rejected : Int}
    (adds : Adds calls active completed failed rejected) :
    (Metered.mk world outcomes (t.calls ++ calls)).active = active.getD t.active ∧
      (Metered.mk world outcomes (t.calls ++ calls)).completed = t.completed + completed ∧
      (Metered.mk world outcomes (t.calls ++ calls)).failed = t.failed + failed ∧
      (Metered.mk world outcomes (t.calls ++ calls)).rejected = t.rejected + rejected := by
  refine ⟨?_, ?_, ?_, ?_⟩
  · rw [Metered.active, settings_append, List.getLast?_append, adds.active]
    cases active <;> rfl
  · rw [Metered.completed, increments_append, List.sum_append, adds.completed]
    rfl
  · rw [Metered.failed, increments_append, increments_append, List.sum_append, List.sum_append, ← adds.failed, Metered.failed]
    ring
  · rw [Metered.rejected, increments_append, List.sum_append, adds.rejected]
    rfl

theorem adds_nothing : Adds [] none 0 0 0 := ⟨rfl, rfl, rfl, rfl⟩

theorem adds_other {call : MetricsCall} (other : call.name ∉ jobMetrics) : Adds [call] none 0 0 0 := by
  have apart (name : String) (mine : name ∈ jobMetrics) : call.name ≠ name := fun same => other (same ▸ mine)
  refine ⟨?_, ?_, ?_, ?_⟩
  · rw [settings_other (apart _ (by simp [jobMetrics]))]
    rfl
  · rw [increments_other (apart _ (by simp [jobMetrics]))]
    rfl
  · rw [increments_other (apart _ (by simp [jobMetrics])), increments_other (apart _ (by simp [jobMetrics]))]
    rfl
  · rw [increments_other (apart _ (by simp [jobMetrics]))]
    rfl

theorem adds_full : Adds [.increment "job_rejected_total" (.single "reason" "resource_exhausted") 1] none 0 0 1 := by
  constructor <;> simp [settings, increments, valuesOf, List.filterMap_cons, MetricsCall.gauged, MetricsCall.incremented]

theorem adds_takes (slots : ℚ) : Adds [.setGauge "job_active_count" slots] (some slots) 0 0 0 := by
  constructor <;> simp [settings, increments, valuesOf, List.filterMap_cons, MetricsCall.gauged, MetricsCall.incremented]

theorem adds_completes (slots : ℚ) :
    Adds [.setGauge "job_active_count" slots, .increment "job_completed_total" .empty 1] (some slots) 1 0 0 := by
  constructor <;> simp [settings, increments, valuesOf, List.filterMap_cons, MetricsCall.gauged, MetricsCall.incremented]

theorem adds_fails (slots : ℚ) {kind : String} (known : kind = "exception" ∨ kind = "unknown") :
    Adds [.setGauge "job_active_count" slots, .increment "job_failed_total" (.single "error" kind) 1] (some slots) 0 1 0 := by
  rcases known with rfl | rfl <;> constructor <;>
    simp [settings, increments, valuesOf, List.filterMap_cons, MetricsCall.gauged, MetricsCall.incremented]

end totals

/-! ## Runs -/

structure Accounted (t : Metered Work) : Prop where
  slotted : Slotted t.world
  agree : MetricsAgree t

theorem init_accounted : Accounted (Metered.init : Metered Work) where
  slotted := Nat.le_refl 0
  agree := ⟨rfl, rfl, rfl, rfl⟩

/-- The numbers agree again if the manager has changed as its calls say. -/
theorem MetricsAgree.adds {t : Metered Work} (agree : MetricsAgree t) {world : World Work}
    {outcomes : List StartOutcome} {calls : List MetricsCall} {active : Option ℚ} {completed failed rejected : Int}
    (adds : Adds calls active completed failed rejected)
    (gauge : active.getD (t.world.manager.currentJobs.toNat : ℚ) = (world.manager.currentJobs.toNat : ℚ))
    (ended : (world.manager.finished : Int) = t.world.manager.finished + completed + failed)
    (slots : (world.manager.currentJobs.toNat : Int) + completed + failed =
      t.world.manager.currentJobs.toNat + (outcomes.countP StartOutcome.takesSlot : Nat))
    (refused : rejected = (outcomes.count queueFull : Nat)) :
    MetricsAgree ⟨world, t.outcomes ++ outcomes, t.calls ++ calls⟩ := by
  have totals : (Metered.mk world (t.outcomes ++ outcomes) (t.calls ++ calls)).active = active.getD t.active ∧ _ ∧ _ ∧ _ :=
    adds.totals
  obtain ⟨nowActive, nowCompleted, nowFailed, nowRejected⟩ := totals
  obtain ⟨wasActive, wasEnded, wasSlots, wasRejected⟩ := agree
  constructor
  · rw [nowActive, wasActive, gauge]
  · rw [nowCompleted, nowFailed]
    show _ = (world.manager.finished : Int)
    omega
  · rw [nowCompleted, nowFailed, List.countP_append]
    show (world.manager.currentJobs.toNat : Int) + _ + _ = _
    push_cast
    omega
  · rw [nowRejected, List.count_append]
    push_cast
    omega

theorem MetricsAgree.reports {t : Metered Work} (agree : MetricsAgree t) (slotted : Slotted t.world) {world : World Work}
    {outcomes : List StartOutcome} {calls : List MetricsCall}
    (reports : Reports t.world.manager world.manager outcomes calls) :
    MetricsAgree ⟨world, t.outcomes ++ outcomes, t.calls ++ calls⟩ := by
  have slotted : t.world.manager.unfinished ≤ t.world.manager.currentJobs.toNat := slotted
  cases reports with
  | nothing same kept =>
    refine agree.adds adds_nothing (by rw [same]; rfl) ?_ ?_ rfl
    · rw [kept]
      ring
    · rw [same]
      simp
  | stopping same kept =>
    refine agree.adds adds_nothing (by rw [same]; rfl) ?_ ?_ (by simp [queueFull])
    · rw [kept]
      ring
    · rw [same]
      simp [StartOutcome.takesSlot]
  | full same kept =>
    refine agree.adds adds_full (by rw [same]; rfl) ?_ ?_ (by simp)
    · rw [kept]
      ring
    · rw [same]
      simp [queueFull, StartOutcome.takesSlot]
  | takes outcome some below same kept =>
    have admitted : outcome ≠ queueFull := by
      rintro rfl
      cases some
    refine agree.adds (adds_takes _) rfl ?_ ?_ (by simp [admitted])
    · rw [kept]
      ring
    · rw [same, toNat_take below]
      simp [some]
  | completes same kept alive =>
    refine agree.adds (adds_completes _) rfl ?_ ?_ rfl
    · rw [kept]
      push_cast
      ring
    · rw [same, toNat_free (by omega)]
      simp
      omega
  | fails kind known same kept alive =>
    refine agree.adds (adds_fails _ known) rfl ?_ ?_ rfl
    · rw [kept]
      push_cast
      ring
    · rw [same, toNat_free (by omega)]
      simp
      omega

theorem Metered.step_accounted (t : Metered Work) (label : Metered.Label Work) (next : Metered Work)
    (accounted : Accounted t) (taken : t.step label = some next) : Accounted next := by
  cases label with
  | job label standard =>
    obtain ⟨world, moved, rfl⟩ := Option.map_eq_some_iff.mp taken
    exact ⟨(step_leaked accounted.slotted moved).1, accounted.agree.reports accounted.slotted (step_reports moved standard)⟩
  | emit call =>
    simp only [Metered.step] at taken
    split at taken <;> cases taken
    next other =>
      refine ⟨accounted.slotted, ?_⟩
      have agree : MetricsAgree ⟨t.world, t.outcomes ++ [], t.calls ++ [call]⟩ :=
        accounted.agree.adds (adds_other other) rfl (by ring) (by simp) rfl
      rwa [List.append_nil] at agree

/-- In every run of the manager, whatever the rest of the process reports in between. -/
theorem job_metrics_agree (schedule : List (Metered.Label Work)) :
    States Metered.step MetricsAgree Metered.init schedule :=
  (states_of_invariant Metered.step_accounted schedule init_accounted).mono fun _ accounted => accounted.agree

/-- One job returns, one throws, one is refused, and one thread is not constructed. -/
example :
    (exec Metered.step (Metered.init : Metered Unit)
      [.job (.setMaxConcurrentJobs 2) true, .job (.startJob "a" "r" () true) true, .job (.startJob "b" "r" () true) true,
        .job (.startJob "c" "r" () true) true, .emit (.setGauge "db_pool_size" 4), .job (.bodyReturn 0) true,
        .job (.bodyThrow 1 "No samples") true, .job (.finalSection 0) true, .job (.startJob "d" "r" () false) true,
        .job (.finalSection 1) true]).map (fun t => (t.active, t.completed, t.failed, t.rejected)) = some (1, 1, 1, 1) := by
  decide +kernel

end TelemetryLab.Jobs
