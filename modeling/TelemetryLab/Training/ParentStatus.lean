import TelemetryLab.Training.Stranded

/-! The stored status of a tuning run that went well.

The orchestrator moves its parent to `RUNNING` and never writes another status:
what `HandleGetModelDetail` reports is worked out from the trials at each read.
The stored row is left `RUNNING` with its last heartbeat, for the reconciler to
find.
-/

set_option autoImplicit false
namespace TelemetryLab.Training
open Jobs JobManager Transition

/-- The task and the control point of an orchestrator. -/
def Body.tuning : Body → Option (TuningTask × TunePc)
  | .tune task pc => some (task, pc)
  | .train _ _ | .other => none

theorem Body.tuning_eq_some {body : Body} {task : TuningTask} {pc : TunePc} :
    body.tuning = some (task, pc) ↔ body = .tune task pc := by
  cases body <;> simp [Body.tuning]

def TunePc.atHead : TunePc → Bool
  | .head _ => true
  | _ => false

/-- An orchestrator that has left its loop at the head, with nothing left to do. -/
def endedNormally (thread : JobThread Body) (pc : TunePc) : Bool := decide (thread.phase ≠ .body) && pc.atHead

/-- A tuning run whose orchestrator ran to its normal end, with a completed
trial, is not stored as failed. -/
def SuccessKept (w : World) : Prop :=
  ∀ thread ∈ w.memory.manager.started, ∀ tuning ∈ thread.work.tuning, endedNormally thread tuning.2 = true →
    (∃ entry ∈ w.runs.entries, entry.2.parentRunId = some tuning.1.parentRunId ∧ entry.2.status = .completed) →
    ∀ row ∈ w.runs.lookup tuning.1.parentRunId, row.status ≠ .failed

instance (w : World) : Decidable (SuccessKept w) :=
  inferInstanceAs (Decidable (∀ thread ∈ w.memory.manager.started, ∀ tuning ∈ thread.work.tuning,
    endedNormally thread tuning.2 = true →
    (∃ entry ∈ w.runs.entries, entry.2.parentRunId = some tuning.1.parentRunId ∧ entry.2.status = .completed) →
    ∀ row ∈ w.runs.lookup tuning.1.parentRunId, row.status ≠ .failed))

/-- A sweep has a time limit within which every live orchestrator past its guard
has written to its parent. -/
def ParentsBeat (w : World) : Label → Prop
  | .reconcile staleTtl => ∀ thread ∈ w.memory.manager.started, ∀ tuning ∈ thread.work.tuning, thread.phase = .body →
      tuning.2.entered = true → ∃ ttl ∈ staleTtl, ∀ row ∈ w.runs.lookup tuning.1.parentRunId,
        w.clock ≤ row.updatedAt + ttl
  | _ => True

instance (w : World) : (label : Label) → Decidable (ParentsBeat w label)
  | .reconcile staleTtl => inferInstanceAs (Decidable (∀ thread ∈ w.memory.manager.started,
      ∀ tuning ∈ thread.work.tuning, thread.phase = .body → tuning.2.entered = true →
        ∃ ttl ∈ staleTtl, ∀ row ∈ w.runs.lookup tuning.1.parentRunId, w.clock ≤ row.updatedAt + ttl))
  | .tick | .post _ _ _ | .postStart _ _ | .delete _ | .deleteStep _ _ | .work _ _ | .job _ => .isTrue trivial

/-- A sweep does not find the parent of an orchestrator that has ended normally. -/
def EndedSpared (w : World) : Label → Prop
  | .reconcile staleTtl => ∀ thread ∈ w.memory.manager.started, ∀ tuning ∈ thread.work.tuning,
      endedNormally thread tuning.2 = true → ∀ row ∈ w.runs.lookup tuning.1.parentRunId,
        stale staleTtl w.clock row.status row.updatedAt = false
  | _ => True

instance (w : World) : (label : Label) → Decidable (EndedSpared w label)
  | .reconcile staleTtl => inferInstanceAs (Decidable (∀ thread ∈ w.memory.manager.started,
      ∀ tuning ∈ thread.work.tuning, endedNormally thread tuning.2 = true →
        ∀ row ∈ w.runs.lookup tuning.1.parentRunId, stale staleTtl w.clock row.status row.updatedAt = false))
  | .tick | .post _ _ _ | .postStart _ _ | .delete _ | .deleteStep _ _ | .work _ _ | .job _ => .isTrue trivial

/-! ## The parent row -/

/-- An orchestrator past its guard that runs, or has come to its normal end. -/
def steering (thread : JobThread Body) (pc : TunePc) : Prop :=
  thread.phase = .body ∧ pc.entered = true ∨ endedNormally thread pc = true

theorem steering_congr {before after : JobThread Body} (same : after.phase = .body ↔ before.phase = .body) (pc : TunePc) :
    steering after pc ↔ steering before pc := by
  simp only [steering, endedNormally, Bool.and_eq_true, decide_eq_true_eq, ne_eq, same]

theorem entered_of_atHead {pc : TunePc} (head : pc.atHead = true) : pc.entered = true := by
  cases pc <;> first | rfl | cases head

/-- The parents of such orchestrators are not stored as failed. -/
structure ParentsKept (w : World) : Prop where
  held : HeldOnce w
  unfailed : ∀ thread ∈ w.memory.manager.started, ∀ task pc, thread.work = .tune task pc → steering thread pc →
    ∃ row, w.runs.lookup task.parentRunId = some row ∧ row.status ≠ .failed

theorem init_parentsKept : ParentsKept .init where
  held := init_heldOnce
  unfailed := fun _ member => by cases member

/-- A sweep passes over the parents. -/
theorem spared_of_steering {w : World} {staleTtl : Option Nat} (beat : ParentsBeat w (.reconcile staleTtl))
    (spared : EndedSpared w (.reconcile staleTtl)) {thread : JobThread Body}
    (member : thread ∈ w.memory.manager.started) {task : TuningTask} {pc : TunePc} (tunes : thread.work = .tune task pc)
    (steers : steering thread pc) {row : ModelRun} (found : w.runs.lookup task.parentRunId = some row) :
    stale staleTtl w.clock row.status row.updatedAt = false := by
  have tuning : (task, pc) ∈ thread.work.tuning := Body.tuning_eq_some.mpr tunes
  rcases steers with ⟨running, entered⟩ | ended
  · obtain ⟨ttl, limit, fresh⟩ := beat thread member (task, pc) tuning running entered
    have recent : ¬ row.updatedAt + ttl < w.clock := Nat.not_lt.mpr (fresh row found)
    rw [Option.mem_def] at limit
    subst limit
    simp [stale, recent]
  · exact spared thread member (task, pc) tuning ended row found

/-- What a step makes of a parent row that is not failed. -/
theorem ParentsKept.row_unfailed {w : World} (kept : ParentsKept w) {label : Label} {statement : Statement}
    {memory : Memory} (acted : act w label = some (statement, memory)) (beat : ParentsBeat w label)
    (spared : EndedSpared w label) {thread : JobThread Body} (member : thread ∈ w.memory.manager.started)
    {task : TuningTask} {pc : TunePc} (tunes : thread.work = .tune task pc) (steers : steering thread pc) :
    ∃ row, (statement.run w.clock w.runs).lookup task.parentRunId = some row ∧ row.status ≠ .failed := by
  obtain ⟨row, found, unfailed⟩ := kept.unfailed thread member task pc tunes steers
  have issued := act_issued acted
  have fresh : ∀ new, statement ≠ .insert task.parentRunId new := by
    rintro new rfl
    exact (issued.insert _ _ rfl).1 (Table.mem_of_lookup found)
  have changed : ∃ after, (statement.run w.clock w.runs).lookup task.parentRunId = some after ∧ _ ∧
      after.status = statement.statusAfter w.clock task.parentRunId row := Statement.lookup_run found fresh
  obtain ⟨after, present, _, status⟩ := changed
  refine ⟨after, present, ?_⟩
  rw [status]
  cases statement with
  | transitionStatus id expected next =>
    simp only [Statement.statusAfter]
    split
    · rw [(issued.transition _ _ _ rfl).2]
      simp
    · exact unfailed
  | updateStatus id new artifactPath error =>
    simp only [Statement.statusAfter]
    split
    next here =>
      rintro rfl
      cases act_author acted with
      | ended k worker call point _ _ _ started trains _ _ =>
        exact kept.held.parent_no_worker member tunes started trains here.symm
    next => exact unfailed
  | reconcile staleTtl =>
    cases act_author acted with
    | swept _ here =>
      subst here
      simp [Statement.statusAfter, spared_of_steering beat spared member tunes steers found, unfailed]
  | nothing | insert id new | heartbeat id | trialEligibility id isEligible reason => exact unfailed

/-- An orchestrator gets past its guard over a row that runs. -/
theorem tuneStep_enters {now : Nat} {runs : Runs} {flagged : Bool} {task : TuningTask} {pc next : TunePc} {event : Event}
    {statement : Statement} (acted : tuneStep now runs flagged task pc event = some (.statement statement (.goto next)))
    (outside : pc.entered = false) (entered : next.entered = true) :
    ∃ row, (statement.run now runs).lookup task.parentRunId = some row ∧ row.status = .running := by
  cases tuneStep_tunes acted with
  | takes passes =>
    obtain ⟨row, found, pending⟩ := (Option.any_eq_true _ _).mp passes
    have pending : row.status = .pending := of_decide_eq_true pending
    refine ⟨row.transitionStatus .pending .running, by simp [Statement.run, found], ?_⟩
    simp [ModelRun.transitionStatus, pending]
  | joins row found running => exact ⟨row, found, running⟩
  | late | unwritten => cases entered
  | creates | skips | created | stops | goesOn | waits | beats | polled | polls => cases outside

theorem step_parentsKept {w next : World} {label : Label} (kept : ParentsKept w)
    (met : ParentsBeat w label ∧ EndedSpared w label) (taken : step w label = some next) : ParentsKept next := by
  refine ⟨step_heldOnce kept.held taken, ?_⟩
  obtain ⟨⟨statement, memory⟩, acted, rfl⟩ := step_eq_some taken
  intro after member task pc tunes steers
  have unfailed {thread : JobThread Body} (before : thread ∈ w.memory.manager.started) {point : TunePc}
      (was : thread.work = .tune task point) (steered : steering thread point) :
      ∃ row, (statement.run w.clock w.runs).lookup task.parentRunId = some row ∧ row.status ≠ .failed :=
    kept.row_unfailed acted met.1 met.2 before was steered
  cases act_origin acted member with
  | kept before old same =>
    exact unfailed old (same.work.symm.trans tunes) ((steering_congr same.body pc).mp steers)
  | launched initial running =>
    rw [tunes] at initial
    cases pc <;> cases initial
    rcases steers with ⟨_, entered⟩ | ended
    · cases entered
    · simp [endedNormally, running] at ended
  | foreign other => cases tunes.symm.trans other
  | trained before old running call point onward event was ran now flag phase => cases tunes.symm.trans now
  | trainEnded before old same ended call point was => cases tunes.symm.trans (same.trans was)
  | tuned before old running other point onward event was ran now phase =>
    cases tunes.symm.trans now
    cases outside : point.entered with
    | true => exact unfailed old was (.inl ⟨running, outside⟩)
    | false =>
      rcases steers with ⟨_, entered⟩ | ended
      · obtain ⟨row, found, runs⟩ := tuneStep_enters ran outside entered
        exact ⟨row, found, by simp [runs]⟩
      · simp [endedNormally, phase] at ended
  | dispatched before old running other point onward event call threadStarts was ran now phase started =>
    cases tunes.symm.trans now
    obtain ⟨d, rfl, _, _⟩ := tuneStep_dispatches ran
    exact unfailed old was (.inl ⟨running, rfl⟩)
  | tuneEnded k event here before found running same ended other point action was ran ends =>
    cases tunes.symm.trans (same.trans was)
    rcases steers with ⟨inside, _⟩ | normal
    · exact absurd inside ended
    · rw [endedNormally, Bool.and_eq_true] at normal
      exact unfailed (List.mem_of_getElem? found) was (.inl ⟨running, entered_of_atHead normal.2⟩)

/-- No successful tuning run is stored as failed, provided that no sweep finds
the row of one whose orchestrator has already come to its end. -/
theorem successful_parent_not_failed (schedule : List Label) (beat : Steps step ParentsBeat .init schedule)
    (spared : Steps step EndedSpared .init schedule) : States step SuccessKept .init schedule := by
  have met : Steps step (fun w label => ParentsBeat w label ∧ EndedSpared w label) .init schedule :=
    beat.and spared
  refine (states_of_steps (fun _ _ _ => step_parentsKept) init_parentsKept met).mono fun w kept => ?_
  intro thread member tuning tunes ended _ row found failed
  have steers : steering thread tuning.2 := .inr ended
  obtain ⟨other, present, unfailed⟩ :=
    kept.unfailed thread member tuning.1 tuning.2 (Body.tuning_eq_some.mp tunes) steers
  cases present.symm.trans found
  exact unfailed failed

/-- Both trials of `p` have ended, one of them completed, when a sweep comes
within its time limit. -/
theorem successful_parent_sweptInTime :
    (exec step .init (twoTrialsTrained ++ [.tick, .reconcile (some 1)])).any (fun w =>
        decide (w.statusOf "p" = some .running ∧ w.statusOf "t" = some .completed)) = true ∧
      States step SuccessKept .init (twoTrialsTrained ++ [.tick, .reconcile (some 1)]) :=
  ⟨by decide +kernel, successful_parent_not_failed _ (by decide +kernel) (by decide +kernel)⟩

/-- The next sweep comes later. -/
theorem successful_parent_fails :
    ¬ ∀ schedule : List Label, Steps step ParentsBeat .init schedule → States step SuccessKept .init schedule := by
  intro all
  have beat : Steps step ParentsBeat .init (twoTrialsTrained ++ [.tick, .tick, .reconcile (some 1)]) := by
    decide +kernel
  have lost : (exec step .init (twoTrialsTrained ++ [.tick, .tick, .reconcile (some 1)])).any
      (fun w => decide (¬ SuccessKept w)) = true := by decide +kernel
  obtain ⟨final, run, failed⟩ := (Option.any_eq_true _ _).mp lost
  exact of_decide_eq_true failed ((all _ beat).exec run)

end TelemetryLab.Training
