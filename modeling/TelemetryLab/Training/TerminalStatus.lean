import TelemetryLab.Lib.Transition
import TelemetryLab.Training.Steps

/-! When the status column of `model_runs` follows the job state machine.

Inserts, compare-and-sets and sweeps always do. The unconditional updates of
`UpdateModelRunStatus` do exactly when the row they hit has not been ended with
another status in the meantime.
-/

set_option autoImplicit false
namespace TelemetryLab.Training
open Jobs JobManager Transition

/-- Every row stays, and its status changes only as `IsTransitionAllowed` says. -/
def FollowsStateMachine (w next : World) : Prop :=
  ∀ modelRunId row, w.runs.lookup modelRunId = some row →
    ∃ after, next.runs.lookup modelRunId = some after ∧ JobState.isTransitionAllowed row.status after.status = true

/-- An `UpdateModelRunStatus` of the step does not hit a row that has been ended
with another status. -/
def NoLateUpdate (w : World) (label : Label) : Prop :=
  ∀ modelRunId status artifactPath error memory,
    act w label = some (.updateStatus modelRunId status artifactPath error, memory) →
    ∀ row, w.runs.lookup modelRunId = some row → row.status.isTerminal = true → row.status = status

/-- A worker past its guard works on a row that has left `PENDING`. -/
def GuardsHeld (w : World) : Prop :=
  ∀ thread ∈ w.memory.manager.started, thread.phase = .body → ∀ call pc, thread.work = .train call pc →
    pc.entered = true → ∃ row, w.runs.lookup call.modelRunId = some row ∧ row.status ≠ .pending

theorem init_guardsHeld : GuardsHeld .init := by
  intro thread member
  simp [World.init, Memory.manager, Jobs.World.init, JobManager.init] at member

/-- What a step leaves of a row. -/
theorem act_lookup {w : World} {label : Label} {statement : Statement} {memory : Memory}
    (acted : act w label = some (statement, memory)) {modelRunId : String} {row : ModelRun}
    (found : w.runs.lookup modelRunId = some row) :
    ∃ after, (statement.run w.clock w.runs).lookup modelRunId = some after ∧
      after.parentRunId = row.parentRunId ∧ after.status = statement.statusAfter w.clock modelRunId row := by
  apply Statement.lookup_run found
  rintro new rfl
  have present : modelRunId ∈ w.runs := Table.mem_of_lookup found
  exact ((act_issued acted).insert modelRunId new rfl).1 present

/-- No statement puts an existing row back to `PENDING`. -/
theorem Issued.statusAfter_ne_pending {w : World} {statement : Statement} (issued : Issued w statement)
    {modelRunId : String} {row : ModelRun} (left : row.status ≠ .pending) :
    statement.statusAfter w.clock modelRunId row ≠ .pending := by
  cases statement with
  | nothing => exact left
  | insert id new => exact left
  | heartbeat id => exact left
  | trialEligibility id isEligible reason => exact left
  | transitionStatus id expected next =>
    obtain ⟨_, rfl⟩ := issued.transition id expected next rfl
    simp only [Statement.statusAfter]
    split
    · simp
    · exact left
  | updateStatus id status artifactPath error =>
    obtain ⟨ended, _⟩ := issued.update id status artifactPath error rfl
    simp only [Statement.statusAfter]
    split
    · rintro rfl
      cases ended
    · exact left
  | reconcile staleTtl =>
    simp only [Statement.statusAfter]
    split
    · simp
    · exact left

/-- A body gets past its guard only over a row that leaves `PENDING` then, or
has left it before. -/
theorem trainStep_enters {now : Nat} {runs : Runs} {flagged : Bool} {call : TrainCall} {pc next : TrainPc}
    {event : Event} {statement : Statement} (acted : trainStep runs flagged call pc event = some (statement, .goto next))
    (entered : next.entered = true) :
    pc.entered = true ∨ ∃ row, runs.lookup call.modelRunId = some row ∧
      statement.statusAfter now call.modelRunId row = .running := by
  cases trainStep_trains acted with
  | takes passes =>
    obtain ⟨row, found, pending⟩ := (Option.any_eq_true _ _).mp passes
    exact .inr ⟨row, found, by simp [Statement.statusAfter, of_decide_eq_true pending]⟩
  | late | unwritten => cases entered
  | joins row found running => exact .inr ⟨row, found, running⟩
  | beats | skips | stops | trained | untrained | saves | unsaved | completes | fails => exact .inl rfl

theorem step_guardsHeld {w next : World} {label : Label} (held : GuardsHeld w) (taken : step w label = some next) :
    GuardsHeld next := by
  obtain ⟨⟨statement, memory⟩, acted, rfl⟩ := step_eq_some taken
  have issued := act_issued acted
  -- a row that has left `PENDING` never comes back to it
  have later {call : TrainCall} (past : ∃ row, w.runs.lookup call.modelRunId = some row ∧ row.status ≠ .pending) :
      ∃ row, (statement.run w.clock w.runs).lookup call.modelRunId = some row ∧ row.status ≠ .pending := by
    obtain ⟨row, found, left⟩ := past
    obtain ⟨after, present, _, status⟩ := act_lookup acted found
    exact ⟨after, present, status ▸ issued.statusAfter_ne_pending left⟩
  intro thread member running call pc work entered
  cases act_origin acted member with
  | kept before present same => exact later (held before present (same.body.mp running) call pc (same.work ▸ work) entered)
  | launched initial _ =>
    rw [work] at initial
    cases pc <;> cases initial
    cases entered
  | foreign other =>
    rw [work] at other
    cases other
  | trained before present alive caller prior next event was ran now _ _ =>
    rw [work] at now
    cases now
    rcases trainStep_enters ran entered with inside | ⟨row, found, running⟩
    · exact later (held before present alive call prior was inside)
    · obtain ⟨after, present, _, status⟩ := act_lookup acted found
      exact ⟨after, present, by rw [status, running]; simp⟩
  | trainEnded before present same ended caller prior was => exact absurd running ended
  | tuned before present alive task prior next event was ran now _ =>
    rw [work] at now
    cases now
  | dispatched before present alive task prior next event caller starts was ran now _ _ =>
    rw [work] at now
    cases now
  | tuneEnded k event here before present alive same ended task prior action was ran ends => exact absurd running ended

/-- The step keeps to the state machine exactly when its update is not late. -/
theorem step_follows_iff {w next : World} {label : Label} (held : GuardsHeld w) (taken : step w label = some next) :
    FollowsStateMachine w next ↔ NoLateUpdate w label := by
  obtain ⟨⟨statement, memory⟩, acted, rfl⟩ := step_eq_some taken
  constructor
  · intro follows modelRunId status artifactPath error other updates row found ended
    cases acted.symm.trans updates
    obtain ⟨after, present, allowed⟩ := follows modelRunId row found
    obtain ⟨same, presentSame, _, statusSame⟩ := act_lookup acted found
    cases present.symm.trans presentSame
    rw [statusSame] at allowed
    exact ((JobState.isTerminal_iff _).mp ended _ (by simpa [Statement.statusAfter] using allowed)).symm
  · intro noLate modelRunId row found
    obtain ⟨after, present, _, status⟩ := act_lookup acted found
    refine ⟨after, present, ?_⟩
    rw [status]
    have issued := act_issued acted
    cases statement with
    | nothing => simp [Statement.statusAfter]
    | insert id new => simp [Statement.statusAfter]
    | heartbeat id => simp [Statement.statusAfter]
    | trialEligibility id isEligible reason => simp [Statement.statusAfter]
    | transitionStatus id expected next =>
      obtain ⟨rfl, rfl⟩ := issued.transition id expected next rfl
      simp only [Statement.statusAfter]
      split
      next hit =>
        rw [hit.2]
        rfl
      · simp
    | updateStatus id recorded artifactPath error =>
      obtain ⟨ended, completing⟩ := issued.update id recorded artifactPath error rfl
      simp only [Statement.statusAfter]
      split
      next here =>
        subst here
        apply (JobState.isTransitionAllowed_terminal ended _).mpr
        · exact noLate modelRunId recorded artifactPath error memory acted row found
        · -- `COMPLETED` is written past the guard only, so the row was not pending
          intro completed
          obtain ⟨thread, member, running, call, work, rfl⟩ := completing completed
          obtain ⟨same, foundSame, left⟩ := held thread member running call .completing work rfl
          cases found.symm.trans foundSame
          exact left
      · simp
    | reconcile staleTtl =>
      simp only [Statement.statusAfter]
      split
      next hit => exact JobState.failed_of_live (stale_live hit)
      · simp

/-- Over any run of the training service, every change of a status is one the
state machine allows exactly when no `UpdateModelRunStatus` hits a row that was
ended with another status before. -/
theorem status_changes_allowed_iff (schedule : List Label) :
    Changes step FollowsStateMachine World.init schedule ↔ Steps step NoLateUpdate World.init schedule := by
  apply steps_iff_of_invariant (P := GuardsHeld) (fun _ _ _ => step_guardsHeld) _ schedule init_guardsHeld
  intro w label next held taken
  rw [← step_follows_iff held taken]
  exact ⟨fun all => all next taken, fun follows other moved => by cases taken.symm.trans moved; exact follows⟩

def World.statusOf (w : World) (modelRunId : String) : Option JobState :=
  (w.runs.lookup modelRunId).map fun row => row.status

/-- Two statuses of one row around the last step of a run that the state
machine does not connect. -/
theorem not_follows_of_statuses {first : List Label} {label : Label} {modelRunId : String} {old new : JobState}
    (before : (exec step World.init first).map (·.statusOf modelRunId) = some (some old))
    (after : (exec step World.init (first ++ [label])).map (·.statusOf modelRunId) = some (some new))
    (forbidden : JobState.isTransitionAllowed old new = false) :
    ¬ Changes step FollowsStateMachine World.init (first ++ [label]) := by
  intro changes
  obtain ⟨final, run, ended⟩ := Option.map_eq_some_iff.mp after
  obtain ⟨middle, reached, follows⟩ := changes.last run
  rw [reached, Option.map_some, Option.some.injEq] at before
  obtain ⟨row, found, rfl⟩ := Option.map_eq_some_iff.mp before
  obtain ⟨changed, present, allowed⟩ := follows modelRunId row found
  rw [World.statusOf, present, Option.map_some, Option.some.injEq] at ended
  rw [ended, forbidden] at allowed
  cases allowed

def singleRun : TrainRequest := ⟨"r", "d", "pca_default", 3, 99, none⟩

/-- A run is cancelled by its user after the worker has read its stop flag. -/
def cancelledWhileSaving : List Label :=
  [.post "m" singleRun fun _ => (0, 0), .postStart 0 true, .work 0 .done, .work 0 .done, .delete "m",
    .deleteStep 0 true, .deleteStep 0 true, .work 0 .done]

/-- The worker then records the cancelled run as completed. -/
theorem cancelled_run_completes :
    ¬ ∀ schedule : List Label, Changes step FollowsStateMachine World.init schedule := by
  intro all
  have stops : (exec step World.init cancelledWhileSaving).map (·.statusOf "m") = some (some .cancelled) := by
    decide +kernel
  have ends : (exec step World.init (cancelledWhileSaving ++ [.work 0 .done])).map (·.statusOf "m") =
      some (some .completed) := by decide +kernel
  exact not_follows_of_statuses stops ends rfl (all _)

end TelemetryLab.Training
