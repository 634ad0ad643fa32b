import TelemetryLab.Training.TerminalStatus

/-! When a cancelled tuning run stays cancelled.

The handler of `DELETE /train/{id}` works on a snapshot of the trials and asks
the job `train-{id}` to stop, while the orchestrator of the run is the job
`tuning-{id}`. Its answer is final exactly where nothing of the run is left that
could still create a trial or complete one: `Quiet` says so, and is kept by
every step.
-/

set_option autoImplicit false
namespace TelemetryLab.Training
open Jobs JobManager Transition

/-- A worker at this point will not record its run as completed, as long as the
run does not leave a terminal status. -/
def TrainPc.harmless (flagged : Bool) : TrainPc → Bool
  | .training => flagged
  | .saving | .completing => false
  | _ => true

structure Quiet (w : World) (parentRunId : String) : Prop where
  parent_ended : ∃ row, w.runs.lookup parentRunId = some row ∧ row.status.isTerminal = true
  trials_ended : ∀ modelRunId row, w.runs.lookup modelRunId = some row → row.parentRunId = some parentRunId →
    row.status.isTerminal = true
  no_creation : ¬ Creating w parentRunId
  no_completion : ∀ thread ∈ w.memory.manager.started, thread.phase = .body → ∀ call pc row,
    thread.work = .train call pc → w.runs.lookup call.modelRunId = some row → row.parentRunId = some parentRunId →
    pc.harmless (w.memory.manager.flagSet thread.flag) = true

/-- `DELETE /train/{parent}` has answered `CANCEL_REQUESTED`. -/
def Answered (w : World) (parentRunId : String) : Prop := ⟨parentRunId, .answered⟩ ∈ w.memory.deletes

/-- The step creates no trial of the parent, and moves none to `RUNNING` or `COMPLETED`. -/
def StaysCancelled (parentRunId : String) (w next : World) : Prop :=
  ∀ modelRunId after, next.runs.lookup modelRunId = some after → after.parentRunId = some parentRunId →
    ∃ row, w.runs.lookup modelRunId = some row ∧
      (after.status ≠ row.status → after.status ≠ .running ∧ after.status ≠ .completed)

/-- A handler that answers finds its run quiet. -/
def AnswersQuietly (w : World) : Label → Prop
  | .deleteStep i _ => ∀ call, w.memory.deletes[i]? = some call → call.pc = .answering → Quiet w call.modelRunId
  | _ => True

/-! ## Steps -/

theorem dispatch_flagsGrow (memory : Memory) (k : Nat) (task : TuningTask) (call : TrainCall) (threadStarts : Bool)
    (admitted : TunePc) : memory.manager.FlagsGrow (memory.dispatch k task call threadStarts admitted).manager := by
  have started := memory.manager.startJob_flagsGrow ("train-" ++ call.modelRunId) call.requestId
    (.train call .transition) threadStarts
  obtain ⟨progress, same⟩ := dispatch_advance memory k task call threadStarts admitted
  rw [same]
  exact fun flag set => FlagsGrow.of_eq (advance_flags ..) flag (started flag set)

theorem cancelling_flagsGrow (memory : Memory) (cancelJob : Option String) :
    memory.manager.FlagsGrow (memory.cancelling cancelJob) := by
  cases cancelJob with
  | none => exact .refl _
  | some jobId => exact memory.manager.cancelJob_flagsGrow jobId

theorem act_flagsGrow {w : World} {label : Label} {statement : Statement} {memory : Memory}
    (acted : act w label = some (statement, memory)) : w.memory.manager.FlagsGrow memory.manager := by
  cases act_acts acted with
  | tick => exact .refl _
  | reconcile staleTtl => exact .refl _
  | post modelRunId request draws _ => exact .refl _
  | postStart i threadStarts post posts =>
    exact w.memory.manager.startJob_flagsGrow post.jobId post.requestId post.body threadStarts
  | delete modelRunId call _ => exact .refl _
  | deleteStep i stored call action _ _ => exact cancelling_flagsGrow w.memory action.cancelJob
  | trained k event thread call pc _ progress found running was ran => exact .of_eq (advance_flags ..)
  | tuned k event thread task pc _ progress found running was ran => exact .of_eq (advance_flags ..)
  | dispatched k event thread task pc admitted call threadStarts found running was ran =>
    exact dispatch_flagsGrow w.memory k task call threadStarts admitted
  | job label jobs _ taken => exact stepLive_flagsGrow taken

/-- Ended rows may change status, but only among the terminal ones. -/
theorem Issued.statusAfter_terminal {w : World} {statement : Statement} (issued : Issued w statement)
    {modelRunId : String} {row : ModelRun} (ended : row.status.isTerminal = true) :
    (statement.statusAfter w.clock modelRunId row).isTerminal = true := by
  cases statement with
  | nothing => exact ended
  | insert id new => exact ended
  | heartbeat id => exact ended
  | trialEligibility id isEligible reason => exact ended
  | transitionStatus id expected next =>
    obtain ⟨rfl, rfl⟩ := issued.transition id expected next rfl
    simp only [Statement.statusAfter]
    split
    next hit =>
      rw [hit.2] at ended
      cases ended
    · exact ended
  | updateStatus id status artifactPath error =>
    simp only [Statement.statusAfter]
    split
    · exact (issued.update id status artifactPath error rfl).1
    · exact ended
  | reconcile staleTtl =>
    simp only [Statement.statusAfter]
    split
    · rfl
    · exact ended

/-- A row after a step was there before, or has just been inserted. -/
theorem lookup_run_inv {w : World} {statement : Statement} {modelRunId : String} {after : ModelRun}
    (found : (statement.run w.clock w.runs).lookup modelRunId = some after) :
    (∃ row, w.runs.lookup modelRunId = some row) ∨ statement = .insert modelRunId after := by
  have member : modelRunId ∈ statement.run w.clock w.runs := Table.mem_of_lookup found
  rcases Statement.mem_run.mp member with old | ⟨new, rfl⟩
  · exact .inl (Table.exists_lookup old)
  · rw [Statement.run, AList.lookup_insert, Option.some.injEq] at found
    exact .inr (found ▸ rfl)

/-- An orchestrator comes to create a trial only from a parent that is not
ended, or from the trial before. -/
theorem tuneStep_creating {now : Nat} {runs : Runs} {flagged : Bool} {task : TuningTask} {pc : TunePc} {event : Event}
    {statement : Statement} {idx : Nat} {trialIds : List String}
    (acted : tuneStep now runs flagged task pc event = some (.statement statement (.goto (.creating idx trialIds)))) :
    (∃ row, runs.lookup task.parentRunId = some row ∧ row.status.isTerminal = false) ∨
      ∃ before created, pc = .creating before created ∧ before < task.trials.length := by
  cases tuneStep_tunes acted with
  | takes passes =>
    obtain ⟨row, found, pending⟩ := (Option.any_eq_true _ _).mp passes
    exact .inl ⟨row, found, by rw [of_decide_eq_true pending]; rfl⟩
  | joins row found running => exact .inl ⟨row, found, by rw [running]; rfl⟩
  | creates before created modelRunId left fresh => exact .inr ⟨before, created, rfl, left⟩
  | skips before _ left => exact .inr ⟨before, trialIds, rfl, left⟩

theorem tuneStep_dispatches {now : Nat} {runs : Runs} {flagged : Bool} {task : TuningTask} {pc next : TunePc}
    {event : Event} {call : TrainCall} {threadStarts : Bool}
    (acted : tuneStep now runs flagged task pc event = some (.runPcaTraining call threadStarts next)) :
    ∃ d, pc = .dispatch d ∧ d.trialIds[d.nextTrial]? = some call.modelRunId ∧
      next = .dispatch { d with
        nextTrial := d.nextTrial + 1
        activeTrials := activate call.modelRunId d.activeTrials } := by
  cases tuneStep_tunes acted with
  | dispatches d trialId config starts room listed configured => exact ⟨d, rfl, listed, rfl⟩

/-- Over an ended row a worker never leaves its harmless points. -/
theorem trainStep_harmless {runs : Runs} {flagged : Bool} {call : TrainCall} {pc next : TrainPc} {event : Event}
    {statement : Statement} (acted : trainStep runs flagged call pc event = some (statement, .goto next))
    {row : ModelRun} (found : runs.lookup call.modelRunId = some row) (ended : row.status.isTerminal = true)
    (before : pc.harmless flagged = true) : next.harmless flagged = true := by
  have notPending : row.status ≠ .pending := by
    intro pending
    rw [pending] at ended
    cases ended
  have notRunning : row.status ≠ .running := by
    intro running
    rw [running] at ended
    cases ended
  cases trainStep_trains acted with
  | takes passes => simp [passesTransition, found, notPending] at passes
  | joins other present running =>
    cases found.symm.trans present
    exact absurd running notRunning
  | late | unwritten | stops | untrained | fails => rfl
  | beats | skips => exact before
  | trained unset =>
    -- with the flag set training ends in a cancellation
    have set : flagged = true := before
    cases set.symm.trans unset
  | saves | unsaved | completes => cases before

section
variable {w : World} {label : Label} {statement : Statement} {memory : Memory} {parentRunId : String}
  (quiet : Quiet w parentRunId) (acted : act w label = some (statement, memory))
include quiet acted

/-- A trial of the parent after the step is an old one: nobody is left to create it. -/
theorem Quiet.old_trial {modelRunId : String} {after : ModelRun}
    (found : (statement.run w.clock w.runs).lookup modelRunId = some after)
    (parented : after.parentRunId = some parentRunId) :
    ∃ row, w.runs.lookup modelRunId = some row ∧ row.parentRunId = some parentRunId ∧
      after.status = statement.statusAfter w.clock modelRunId row := by
  rcases lookup_run_inv found with ⟨row, present⟩ | rfl
  · obtain ⟨same, foundSame, parent, status⟩ := act_lookup acted present
    cases found.symm.trans foundSame
    exact ⟨row, present, parent.symm.trans parented, status⟩
  · exact absurd (((act_issued acted).insert modelRunId after rfl).2.2 parentRunId parented) quiet.no_creation

theorem Quiet.act_no_creation : ¬ Creating (w.after label (statement, memory)) parentRunId := by
  rintro ⟨thread, member, running, task, idx, trialIds, work, left, rfl⟩
  cases act_origin acted member with
  | kept before present same =>
    exact quiet.no_creation ⟨before, present, same.body.mp running, task, idx, trialIds, same.work ▸ work, left, rfl⟩
  | launched initial _ =>
    rw [work] at initial
    cases initial
  | foreign other =>
    rw [work] at other
    cases other
  | trained before present alive caller prior next event was ran now _ _ =>
    rw [work] at now
    cases now
  | trainEnded before present same ended caller prior was => exact absurd running ended
  | tuned before present alive owner prior next event was ran now _ =>
    rw [work] at now
    cases now
    -- it has just passed its guard, over a parent that is not ended, or it was creating before
    rcases tuneStep_creating ran with ⟨row, found, live⟩ | ⟨earlier, created, rfl, still⟩
    · obtain ⟨same, foundSame, ended⟩ := quiet.parent_ended
      cases found.symm.trans foundSame
      simp [ended] at live
    · exact quiet.no_creation ⟨before, present, alive, task, earlier, created, was, still, rfl⟩
  | dispatched before present alive owner prior next event caller starts was ran now _ _ =>
    rw [work] at now
    cases now
    obtain ⟨d, _, _, same⟩ := tuneStep_dispatches ran
    cases same
  | tuneEnded k event here before present alive same ended owner prior action was ran ends => exact absurd running ended

omit quiet in
/-- Stop flags are never taken back, so what is harmless stays so. -/
theorem act_harmless {flag : Nat} {pc : TrainPc} (harmless : pc.harmless (w.memory.manager.flagSet flag) = true) :
    pc.harmless (memory.manager.flagSet flag) = true := by
  cases pc with
  | training => exact act_flagsGrow acted flag harmless
  | saving | completing => cases harmless
  | transition | readBack | cancelling | marking | failing what | markingFailed what => rfl

theorem Quiet.act_no_completion {thread : JobThread Body} (member : thread ∈ memory.manager.started)
    (running : thread.phase = .body) {call : TrainCall} {pc : TrainPc} {after : ModelRun}
    (work : thread.work = .train call pc) (found : (statement.run w.clock w.runs).lookup call.modelRunId = some after)
    (parented : after.parentRunId = some parentRunId) :
    pc.harmless (memory.manager.flagSet thread.flag) = true := by
  obtain ⟨row, present, wasParented, _⟩ := quiet.old_trial acted found parented
  have ended := quiet.trials_ended _ row present wasParented
  cases act_origin acted member with
  | kept before member same =>
    rw [same.flag]
    exact act_harmless acted
      (quiet.no_completion before member (same.body.mp running) call pc row (same.work ▸ work) present wasParented)
  | launched initial _ =>
    rw [work] at initial
    cases pc <;> cases initial
    rfl
  | foreign other =>
    rw [work] at other
    cases other
  | trained before member alive caller prior next event was ran now flag _ =>
    rw [work] at now
    cases now
    rw [flag]
    exact act_harmless acted (trainStep_harmless ran present ended
      (quiet.no_completion before member alive call prior row was present wasParented))
  | trainEnded before member same stopped caller prior was => exact absurd running stopped
  | tuned before member alive owner prior next event was ran now _ =>
    rw [work] at now
    cases now
  | dispatched before member alive owner prior next event caller starts was ran now _ _ =>
    rw [work] at now
    cases now
  | tuneEnded k event here before member alive same stopped owner prior action was ran ends =>
    exact absurd running stopped

/-- Only the worker itself writes `COMPLETED`, and none is left that would. -/
theorem Quiet.not_completed {modelRunId : String} {row : ModelRun} (present : w.runs.lookup modelRunId = some row)
    (parented : row.parentRunId = some parentRunId)
    (changed : statement.statusAfter w.clock modelRunId row ≠ row.status) :
    statement.statusAfter w.clock modelRunId row ≠ .completed := by
  intro completed
  have issued := act_issued acted
  cases statement with
  | updateStatus id recorded artifactPath error =>
    simp only [Statement.statusAfter] at changed completed
    split at completed
    next here =>
      -- a worker of the trial would have to be about to record it
      subst here
      obtain ⟨thread, member, running, call, work, rfl⟩ := (issued.update _ _ _ _ rfl).2 completed
      cases quiet.no_completion thread member running call .completing row work present parented
    next elsewhere => simp [elsewhere] at changed
  | transitionStatus id expected next =>
    obtain ⟨rfl, rfl⟩ := issued.transition id expected next rfl
    simp only [Statement.statusAfter] at changed completed
    split at completed
    · cases completed
    next missed => simp [missed] at changed
  | reconcile staleTtl =>
    simp only [Statement.statusAfter] at changed completed
    split at completed
    · cases completed
    next missed => simp [missed] at changed
  | nothing | insert id new | heartbeat id | trialEligibility id isEligible reason => exact absurd rfl changed

end

/-- What is quiet stays quiet, and stays cancelled. -/
theorem Quiet.step {w next : World} {label : Label} {parentRunId : String} (quiet : Quiet w parentRunId)
    (taken : step w label = some next) : Quiet next parentRunId ∧ StaysCancelled parentRunId w next := by
  obtain ⟨⟨statement, memory⟩, acted, rfl⟩ := step_eq_some taken
  have issued := act_issued acted
  refine ⟨⟨?_, ?_, quiet.act_no_creation acted, ?_⟩, ?_⟩
  · obtain ⟨row, found, ended⟩ := quiet.parent_ended
    obtain ⟨after, present, _, status⟩ := act_lookup acted found
    exact ⟨after, present, status ▸ issued.statusAfter_terminal ended⟩
  · intro modelRunId after found parented
    obtain ⟨row, present, wasParented, status⟩ := quiet.old_trial acted found parented
    exact status ▸ issued.statusAfter_terminal (quiet.trials_ended modelRunId row present wasParented)
  · intro thread member running call pc after work found parented
    exact quiet.act_no_completion acted member running work found parented
  · intro modelRunId after found parented
    obtain ⟨row, present, wasParented, status⟩ := quiet.old_trial acted found parented
    have terminal : (statement.statusAfter w.clock modelRunId row).isTerminal = true :=
      issued.statusAfter_terminal (quiet.trials_ended modelRunId row present wasParented)
    refine ⟨row, present, fun changed => ⟨?_, ?_⟩⟩
    · intro running
      rw [← status, running] at terminal
      cases terminal
    · rw [status] at changed ⊢
      exact quiet.not_completed acted present wasParented changed

theorem dispatch_deletes (memory : Memory) (k : Nat) (task : TuningTask) (call : TrainCall) (threadStarts : Bool)
    (admitted : TunePc) : (memory.dispatch k task call threadStarts admitted).deletes = memory.deletes := by
  obtain ⟨progress, same⟩ := dispatch_advance memory k task call threadStarts admitted
  rw [same]
  exact advance_deletes ..

/-- An answer after a step was given before, or is given by it. -/
theorem act_answered {w : World} {label : Label} {statement : Statement} {memory : Memory}
    (acted : act w label = some (statement, memory)) {parentRunId : String}
    (answered : (⟨parentRunId, .answered⟩ : DeleteCall) ∈ memory.deletes) :
    Answered w parentRunId ∨ ∃ i stored call, label = .deleteStep i stored ∧ w.memory.deletes[i]? = some call ∧
      call.pc = .answering ∧ call.modelRunId = parentRunId := by
  cases act_acts acted with
  | tick => exact .inl answered
  | reconcile staleTtl => exact .inl answered
  | post modelRunId request draws _ => exact .inl answered
  | postStart i threadStarts post posts => exact .inl answered
  | delete modelRunId call opened =>
    rcases List.mem_append.mp answered with old | new
    · exact .inl old
    · -- a handler that has just opened has not answered
      cases List.mem_singleton.mp new
      simp only [openDelete] at opened
      grind
  | deleteStep i stored call action found ran =>
    rcases List.mem_or_eq_of_mem_set answered with old | new
    · exact .inl old
    · obtain ⟨modelRunId, pc⟩ := call
      simp only [DeleteCall.mk.injEq] at new
      obtain ⟨rfl, reached⟩ := new
      refine .inr ⟨i, stored, ⟨parentRunId, pc⟩, rfl, found, ?_, rfl⟩
      simp only [deleteStep] at ran
      grind
  | trained k event thread call pc _ progress found running was ran =>
    rw [advance_deletes] at answered
    exact .inl answered
  | tuned k event thread task pc _ progress found running was ran =>
    rw [advance_deletes] at answered
    exact .inl answered
  | dispatched k event thread task pc admitted call threadStarts found running was ran =>
    rw [dispatch_deletes] at answered
    exact .inl answered
  | job label jobs _ _ => exact .inl answered

theorem step_answered_quiet {w next : World} {label : Label}
    (quiet : ∀ parentRunId, Answered w parentRunId → Quiet w parentRunId) (quietly : AnswersQuietly w label)
    (taken : step w label = some next) (parentRunId : String) (answered : Answered next parentRunId) :
    Quiet next parentRunId := by
  have before : Quiet w parentRunId := by
    obtain ⟨⟨statement, memory⟩, acted, rfl⟩ := step_eq_some taken
    rcases act_answered acted answered with earlier | ⟨i, stored, call, rfl, found, answering, rfl⟩
    · exact quiet parentRunId earlier
    · exact quietly call found answering
  exact (before.step taken).1

/-- In every run in which handlers answer only over quiet runs, what they
cancelled stays cancelled. -/
theorem cancelled_tuning_stays_cancelled (schedule : List Label)
    (quietly : Steps step AnswersQuietly World.init schedule) :
    Changes step (fun w next => ∀ parentRunId, Answered w parentRunId → StaysCancelled parentRunId w next)
      World.init schedule := by
  apply steps_of_steps (P := fun w => ∀ parentRunId, Answered w parentRunId → Quiet w parentRunId)
    (fun _ _ _ => step_answered_quiet) _ _ quietly
  · intro w label next quiet _ _ other taken parentRunId answered
    exact ((quiet parentRunId answered).step taken).2
  · intro parentRunId answered
    cases answered

/-! ## Runs -/

/-- The part of `Quiet` that concerns one thread. -/
def quietThread (w : World) (parentRunId : String) (thread : JobThread Body) : Bool :=
  decide (thread.phase ≠ .body) || match thread.work with
    | .tune task (.creating idx _) => !(decide (task.parentRunId = parentRunId) && decide (idx < task.trials.length))
    | .train call pc =>
      !((w.runs.lookup call.modelRunId).any fun row => decide (row.parentRunId = some parentRunId)) ||
        pc.harmless (w.memory.manager.flagSet thread.flag)
    | _ => true

theorem quiet_iff (w : World) (parentRunId : String) : Quiet w parentRunId ↔
    (w.runs.lookup parentRunId).any (·.status.isTerminal) = true ∧
    (∀ entry ∈ w.runs.entries, entry.2.parentRunId = some parentRunId → entry.2.status.isTerminal = true) ∧
    ∀ thread ∈ w.memory.manager.started, quietThread w parentRunId thread = true := by
  constructor
  · rintro ⟨parent, trials, creation, completion⟩
    refine ⟨(Option.any_eq_true _ _).mpr parent, ?_, ?_⟩
    · rintro ⟨modelRunId, row⟩ member
      exact trials modelRunId row (Table.mem_entries_iff.mp member)
    · intro thread member
      by_cases running : thread.phase = .body
      · simp only [quietThread, running, ne_eq, not_true, decide_false, Bool.false_or]
        split
        next task idx trialIds work =>
          simp only [Bool.not_eq_true', Bool.and_eq_false_imp, decide_eq_true_eq, decide_eq_false_iff_not]
          exact fun same left => creation ⟨thread, member, running, task, idx, trialIds, work, left, same⟩
        next call pc work =>
          cases found : w.runs.lookup call.modelRunId with
          | none => rfl
          | some row =>
            by_cases parented : row.parentRunId = some parentRunId
            · simp [parented, completion thread member running call pc row work found parented]
            · simp [parented]
        · rfl
      · simp [quietThread, running]
  · rintro ⟨parent, trials, threads⟩
    refine ⟨(Option.any_eq_true _ _).mp parent, ?_, ?_, ?_⟩
    · intro modelRunId row found
      exact trials ⟨modelRunId, row⟩ (Table.mem_entries_iff.mpr found)
    · rintro ⟨thread, member, running, task, idx, trialIds, work, left, same⟩
      have quiet := threads thread member
      simp [quietThread, running, work, left, same] at quiet
    · intro thread member running call pc row work found parented
      have quiet := threads thread member
      simpa [quietThread, running, work, found, parented] using quiet

instance (w : World) (parentRunId : String) : Decidable (Quiet w parentRunId) :=
  decidable_of_iff' _ (quiet_iff w parentRunId)

instance (w : World) : (label : Label) → Decidable (AnswersQuietly w label)
  | .deleteStep i _ =>
    match found : w.memory.deletes[i]? with
    | none => .isTrue fun call present => by simp [found] at present
    | some call => decidable_of_iff (call.pc = .answering → Quiet w call.modelRunId)
        ⟨fun all _ present => by cases found.symm.trans present; exact all, fun all => all call found⟩
  | .tick | .reconcile _ | .post _ _ _ | .postStart _ _ | .delete _ | .work _ _ | .job _ => .isTrue trivial

def twoTrials : TrainRequest :=
  ⟨"r", "d", "pca_default", 3, 99, some ⟨"grid", 10, 2, none, ⟨[2, 3], [99]⟩⟩⟩

/-- The orchestrator of `p` has created its first trial `t` when `p` is deleted. -/
def deletedWhileCreating : List Label :=
  [.post "p" twoTrials fun _ => (0, 0), .postStart 0 true, .work 0 .done, .work 0 (.created "t"), .delete "p",
    .deleteStep 0 true, .deleteStep 0 true, .deleteStep 0 true, .deleteStep 0 true, .deleteStep 0 true,
    .deleteStep 0 true, .deleteStep 0 true, .deleteStep 0 true]

/-- A trial that appears in the last step of a run, after the answer. -/
theorem not_stays_of_created {first : List Label} {label : Label} {parentRunId modelRunId : String}
    (before : (exec step World.init first).any
      (fun w => decide (⟨parentRunId, .answered⟩ ∈ w.memory.deletes ∧ modelRunId ∉ w.runs)) = true)
    (after : (exec step World.init (first ++ [label])).any
      (fun w => (w.runs.lookup modelRunId).any fun row => decide (row.parentRunId = some parentRunId)) = true) :
    ¬ Changes step (fun w next => ∀ parentRunId, Answered w parentRunId → StaysCancelled parentRunId w next)
      World.init (first ++ [label]) := by
  intro changes
  obtain ⟨final, run, created⟩ := (Option.any_eq_true _ _).mp after
  obtain ⟨middle, reached, stays⟩ := changes.last run
  rw [reached] at before
  obtain ⟨answered, absent⟩ := of_decide_eq_true before
  obtain ⟨row, found, parented⟩ := (Option.any_eq_true _ _).mp created
  obtain ⟨old, present, _⟩ := stays parentRunId answered modelRunId row found (of_decide_eq_true parented)
  exact absent (Table.mem_of_lookup present)

/-- The second trial is created after the answer. -/
theorem deleted_tuning_creates_trial :
    ¬ ∀ schedule : List Label, Changes step
      (fun w next => ∀ parentRunId, Answered w parentRunId → StaysCancelled parentRunId w next)
      World.init schedule := by
  intro all
  have answered : (exec step World.init deletedWhileCreating).any
      (fun w => decide (⟨"p", .answered⟩ ∈ w.memory.deletes ∧ "u" ∉ w.runs)) = true := by decide +kernel
  have created : (exec step World.init (deletedWhileCreating ++ [.work 0 (.created "u")])).any
      (fun w => (w.runs.lookup "u").any fun row => decide (row.parentRunId = some "p")) = true := by decide +kernel
  exact not_stays_of_created answered created (all _)

/-- The same deletion, once both trials exist and the orchestrator waits. -/
def deletedWhileWaiting : List Label :=
  [.post "p" twoTrials fun _ => (0, 0), .postStart 0 true, .work 0 .done, .work 0 (.created "t"),
    .work 0 (.created "u"), .work 0 .done, .delete "p",
    .deleteStep 0 true, .deleteStep 0 true, .deleteStep 0 true, .deleteStep 0 true, .deleteStep 0 true,
    .deleteStep 0 true, .deleteStep 0 true, .deleteStep 0 true, .deleteStep 0 true, .deleteStep 0 true,
    .deleteStep 0 true, .work 0 .done, .work 0 (.thread true), .work 1 .done, .work 1 .done]

theorem cancelled_tuning_deletedWhileWaiting :
    (exec step World.init deletedWhileWaiting).any (fun w => decide (⟨"p", .answered⟩ ∈ w.memory.deletes)) = true ∧
      Changes step (fun w next => ∀ parentRunId, Answered w parentRunId → StaysCancelled parentRunId w next)
        World.init deletedWhileWaiting :=
  ⟨by decide +kernel, cancelled_tuning_stays_cancelled deletedWhileWaiting (by decide +kernel)⟩

end TelemetryLab.Training
