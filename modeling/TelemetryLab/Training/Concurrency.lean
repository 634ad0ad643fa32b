import TelemetryLab.Training.Reaping

/-! How many trials of an orchestrator are `RUNNING` at once.

`OrchestrateTuning` starts a worker while `active_trials` is smaller than
`max_concurrency`, and strikes a trial off only when a poll finds its row at an
end. Rows at an end stay there, and a trial that waits has no worker, so the
`RUNNING` rows it has created are among `active_trials`, whatever deletes, sweeps
and failing calls come in between. Reruns have rows and workers of their own.
-/

set_option autoImplicit false
namespace TelemetryLab.Training
open Jobs JobManager Transition Tally

/-- `active_trials`, empty before the execution loop. -/
def TunePc.active : TunePc → List String
  | .transition | .readBack | .creating _ _ => []
  | .head d | .cancelling d | .dispatch d | .heartbeat d | .poll d _ => d.activeTrials

/-- The rows among these trials that are being trained. -/
def runningTrials (runs : Runs) (trialIds : List String) : Runs :=
  Table.keep (fun modelRunId row => decide (modelRunId ∈ trialIds) && decide (row.status = .running)) runs

/-- A task that is started or about to be. -/
def Memory.Tunes (memory : Memory) (task : TuningTask) : Prop :=
  Post.tune task ∈ memory.posts ∨ ∃ thread ∈ memory.manager.started, ∃ pc, thread.work = .tune task pc

/-- Of the trials an orchestrator has created, no more are in training than its
limit says, which is ten at most. -/
def WithinLimit (w : World) : Prop :=
  ∀ thread ∈ w.memory.manager.started, ∀ tuning ∈ thread.work.tuning,
    ((runningTrials w.runs tuning.2.trialIds).keys.length : Int) ≤ tuning.1.maxConcurrency ∧ tuning.1.maxConcurrency ≤ 10

/-- What an orchestrator knows of its trials. -/
structure Orderly (w : World) (task : TuningTask) (pc : TunePc) : Prop where
  room : (pc.active.length : Int) ≤ task.maxConcurrency
  settled : ∀ trialId ∈ pc.trialIds.take pc.nextTrial, trialId ∈ pc.active ∨ Ended w trialId
  idle : ∀ trialId ∈ pc.waiting, ∀ row ∈ w.runs.lookup trialId, row.status ≠ .running

structure Throttled (w : World) : Prop where
  held : HeldOnce w
  bounded : ∀ task, w.memory.Tunes task → 1 ≤ task.maxConcurrency ∧ task.maxConcurrency ≤ 10
  orderly : ∀ thread ∈ w.memory.manager.started, ∀ task pc, thread.work = .tune task pc → Orderly w task pc

theorem init_throttled : Throttled .init where
  held := init_heldOnce
  bounded := fun task tunes => by
    rcases tunes with posted | ⟨thread, member, _⟩
    · cases posted
    · cases member
  orderly := fun _ member => by cases member

/-! ## The limit of a task -/

theorem tuningTask_maxConcurrency (request : TrainRequest) (modelRunId : String) (hpo : HpoConfig)
    (draws : Nat → Nat × Nat) :
    1 ≤ (request.tuningTask modelRunId hpo draws).maxConcurrency ∧
      (request.tuningTask modelRunId hpo draws).maxConcurrency ≤ 10 := by
  simp only [TrainRequest.tuningTask]
  omega

theorem post_maxConcurrency {request : TrainRequest} {modelRunId : String} {draws : Nat → Nat × Nat} {task : TuningTask}
    (posted : Post.tune task = request.post modelRunId draws) : 1 ≤ task.maxConcurrency ∧ task.maxConcurrency ≤ 10 := by
  unfold TrainRequest.post at posted
  split at posted
  · cases posted
  next hpo _ =>
    cases posted
    exact tuningTask_maxConcurrency request modelRunId hpo draws

/-- A task that moves from control point to control point stays the same. -/
theorem advance_tunes {Pc : Type} {memory : Memory} {k : Nat} {body : Pc → Body} {progress : Progress Pc}
    {thread : JobThread Body} (found : memory.manager.started[k]? = some thread) {task : TuningTask}
    (same : ∀ next pc, body next = .tune task pc → ∃ prior, thread.work = .tune task prior) {after : JobThread Body}
    (member : after ∈ (memory.advance k body progress).manager.started) {pc : TunePc} (tunes : after.work = .tune task pc) :
    ∃ before ∈ memory.manager.started, ∃ prior, before.work = .tune task prior := by
  obtain ⟨j, here⟩ := List.mem_iff_getElem?.mp member
  obtain ⟨before, present, ⟨_, rfl⟩ | ⟨rfl, _, ⟨next, _, now, _⟩ | ⟨_, unchanged, _⟩⟩⟩ := advance_place here
  · exact ⟨after, List.mem_of_getElem? present, pc, tunes⟩
  · obtain ⟨prior, was⟩ := same next pc (now.symm.trans tunes)
    exact ⟨thread, List.mem_of_getElem? found, prior, was⟩
  · exact ⟨before, List.mem_of_getElem? present, pc, unchanged.symm.trans tunes⟩

/-- A request that is started gives its task to the new thread. -/
theorem postStart_tunes {w : World} {i : Nat} {threadStarts : Bool} {statement : Statement} {memory : Memory}
    (acted : act w (.postStart i threadStarts) = some (statement, memory)) {task : TuningTask}
    (tunes : memory.Tunes task) : w.memory.Tunes task := by
  simp only [act] at acted
  split at acted <;> cases acted
  next post found =>
    rcases tunes with posted | ⟨thread, member, pc, work⟩
    · exact .inl (List.mem_of_mem_eraseIdx posted)
    · obtain ⟨j, here⟩ := List.mem_iff_getElem?.mp member
      rcases startJob_place here with old | ⟨_, launched, _⟩
      · exact .inr ⟨thread, List.mem_of_getElem? old, pc, work⟩
      · have body : post.body = .tune task pc := launched.symm.trans work
        cases post <;> cases body
        exact .inl (List.mem_of_getElem? found)

/-- Tasks come from accepted requests only, which bound their limit. -/
theorem act_tunes {w : World} {label : Label} {statement : Statement} {memory : Memory}
    (acted : act w label = some (statement, memory)) {task : TuningTask} (tunes : memory.Tunes task) :
    w.memory.Tunes task ∨ 1 ≤ task.maxConcurrency ∧ task.maxConcurrency ≤ 10 := by
  cases act_acts acted with
  | tick => exact .inl tunes
  | reconcile staleTtl => exact .inl tunes
  | delete modelRunId call opened => exact .inl tunes
  | deleteStep i stored call action found ran =>
    refine .inl (tunes.imp_right ?_)
    rintro ⟨thread, member, rest⟩
    exact ⟨thread, (w.memory.cancelling_started action.cancelJob) ▸ member, rest⟩
  | post modelRunId request draws fresh =>
    rcases tunes with posted | started
    · rcases List.mem_append.mp posted with earlier | new
      · exact .inl (.inl earlier)
      · exact .inr (post_maxConcurrency (List.mem_singleton.mp new))
    · exact .inl (.inr started)
  | postStart i threadStarts post posts => exact .inl (postStart_tunes acted tunes)
  | trained k event thread call pc _ progress found running was ran =>
    rcases tunes with posted | ⟨after, member, point, work⟩
    · have same : (w.memory.advance k (.train call) progress).posts = w.memory.posts := by cases progress <;> rfl
      exact .inl (.inl (same ▸ posted))
    · exact .inl (.inr (advance_tunes found (fun _ _ other => by cases other) member work))
  | tuned k event thread owner pc _ progress found running was ran =>
    rcases tunes with posted | ⟨after, member, point, work⟩
    · have same : (w.memory.advance k (.tune owner) progress).posts = w.memory.posts := by cases progress <;> rfl
      exact .inl (.inl (same ▸ posted))
    · refine .inl (.inr (advance_tunes found (fun _ _ own => ?_) member work))
      cases own
      exact ⟨pc, was⟩
  | dispatched k event thread owner pc admitted call threadStarts found running was ran =>
    obtain ⟨progress, same⟩ := dispatch_advance w.memory k owner call threadStarts admitted
    rw [same] at tunes
    rcases tunes with posted | ⟨after, member, point, work⟩
    · have same : ((w.memory.runPcaTraining call threadStarts).2.advance k (.tune owner) progress).posts =
        w.memory.posts := by cases progress <;> rfl
      exact .inl (.inl (same ▸ posted))
    · have still : (w.memory.runPcaTraining call threadStarts).2.manager.started[k]? = some thread :=
        startJob_getElem? found
      have back : ∃ before ∈ (w.memory.runPcaTraining call threadStarts).2.manager.started, ∃ prior,
          before.work = .tune task prior :=
        advance_tunes still (fun _ _ own => by cases own; exact ⟨pc, was⟩) member work
      obtain ⟨before, stored, prior, tuned⟩ := back
      obtain ⟨j, here⟩ := List.mem_iff_getElem?.mp stored
      rcases startJob_place here with old | ⟨_, launched, _⟩
      · exact .inl (.inr ⟨before, List.mem_of_getElem? old, prior, tuned⟩)
      · cases launched.symm.trans tuned
  | job label jobs allowed taken =>
    rcases tunes with posted | ⟨after, member, pc, work⟩
    · exact .inl (.inl posted)
    · obtain ⟨j, here⟩ := List.mem_iff_getElem?.mp member
      rcases stepLive_place taken here with
        ⟨before, present, kept⟩ | ⟨_, jobId, requestId, launched, threadStarts, rfl, same, _⟩ | ⟨before, _, found, same⟩
      · exact .inl (.inr ⟨before, List.mem_of_getElem? present, pc, kept.work.symm.trans work⟩)
      · have other : launched = .other := of_decide_eq_true allowed
        cases (other ▸ same).symm.trans work
      · exact .inl (.inr ⟨before, List.mem_of_getElem? found, pc, same.symm.trans work⟩)

/-! ## The trials in flight -/

/-- Within the loops a trial is struck off only when its row is at an end. -/
theorem tuneStep_active {now : Nat} {runs : Runs} {flagged : Bool} {task : TuningTask} {pc next : TunePc} {event : Event}
    {statement : Statement} (acted : tuneStep now runs flagged task pc event = some (.statement statement (.goto next))) :
    next.active = pc.active ∨ ∃ trialId row, runs.lookup trialId = some row ∧ row.status.isTerminal = true ∧
      next.active = pc.active.erase trialId := by
  cases tuneStep_tunes acted with
  | polls d trialId rest row found =>
    cases ended : row.status.isTerminal with
    | true => exact .inr ⟨trialId, row, found, ended, by simp [TunePc.active]⟩
    | false => exact .inl (by simp [TunePc.active])
  | takes | late | unwritten | joins | creates | skips | created => exact .inl rfl
  | stops | goesOn | waits | beats | polled => exact .inl rfl

theorem activate_length (trialId : String) (active : List String) :
    (activate trialId active).length ≤ active.length + 1 := by
  unfold activate
  split
  · exact Nat.le_succ _
  · rw [List.orderedInsert_length]

theorem mem_activate {trialId other : String} {active : List String} :
    other ∈ activate trialId active ↔ other = trialId ∨ other ∈ active := by
  unfold activate
  split
  next present => exact ⟨.inr, fun either => either.elim (fun same => same ▸ present) id⟩
  next => rw [List.mem_orderedInsert]

/-- A trial is dispatched only below the limit. -/
theorem tuneStep_dispatched_active {now : Nat} {runs : Runs} {flagged : Bool} {task : TuningTask} {pc next : TunePc}
    {event : Event} {call : TrainCall} {threadStarts : Bool}
    (acted : tuneStep now runs flagged task pc event = some (.runPcaTraining call threadStarts next)) :
    (pc.active.length : Int) < task.maxConcurrency ∧ next.active = activate call.modelRunId pc.active ∧
      next.trialIds.take next.nextTrial = pc.trialIds.take pc.nextTrial ++ [call.modelRunId] := by
  cases tuneStep_tunes acted with
  | dispatches d trialId config starts room listed configured =>
    refine ⟨room, rfl, ?_⟩
    simp [TunePc.trialIds, TunePc.nextTrial, List.take_add_one, listed]

/-- A delete starts no run. -/
theorem deleteStep_cancels {runs : Runs} {stored : Bool} {call : DeleteCall} {action : DeleteAction}
    (acted : deleteStep runs stored call = some action) (modelRunId : String) (expected next : JobState) :
    action.statement ≠ .transitionStatus modelRunId expected next := by
  obtain ⟨id, pc⟩ := call
  cases pc with
  | snapshot | cancelSelf | answering =>
    cases acted
    simp
  | trials rest =>
    cases rest with
    | nil =>
      cases acted
      simp
    | cons trial rest =>
      simp only [deleteStep] at acted
      split at acted <;> cases acted <;> simp
  | updateTrial trialId rest | markTrial trialId rest | updateSelf =>
    cases acted
    cases stored <;> simp
  | answered => cases acted

section step
variable {w : World} {label : Label} {statement : Statement} {memory : Memory}

/-- Only the job of a run moves it from `PENDING` to `RUNNING`. -/
theorem act_takes (acted : act w label = some (statement, memory)) {modelRunId : String} {expected next : JobState}
    (taken : statement = .transitionStatus modelRunId expected next) :
    ∃ (k : Nat) (worker : JobThread Body), w.memory.manager.started[k]? = some worker ∧ worker.work.worksOn modelRunId := by
  cases act_acts acted with
  | trained k event thread call pc _ progress found running was ran =>
    subst taken
    refine ⟨k, thread, found, ?_⟩
    rw [was]
    cases trainStep_trains ran with
    | takes | late => rfl
    | cancels _ _ tried | completes _ _ tried | marks _ _ tried | fails _ _ _ tried | marksFailed _ _ _ tried => cases tried
  | tuned k event thread task pc _ progress found running was ran =>
    subst taken
    refine ⟨k, thread, found, ?_⟩
    rw [was]
    cases tuneStep_tunes ran with
    | takes | late => rfl
    | cancels _ _ _ tried | beats _ _ _ tried => cases tried
  | deleteStep i stored call action found ran =>
    exact absurd taken (deleteStep_cancels ran _ _ _)
  | tick | reconcile | post | postStart | delete | dispatched | job => cases taken

/-- A row becomes `RUNNING` by that statement only. -/
theorem Issued.statusAfter_running (issued : Issued w statement) {modelRunId : String} {row : ModelRun}
    (rests : row.status ≠ .running)
    (runs : statement.statusAfter w.clock modelRunId row = .running) :
    ∃ expected next, statement = .transitionStatus modelRunId expected next := by
  cases statement with
  | transitionStatus id expected next =>
    simp only [Statement.statusAfter] at runs
    split at runs
    next both => exact ⟨expected, next, by rw [both.1]⟩
    next => exact absurd runs rests
  | updateStatus id status artifactPath error =>
    simp only [Statement.statusAfter] at runs
    split at runs
    · have terminal := (issued.update id status artifactPath error rfl).1
      rw [runs] at terminal
      cases terminal
    · exact absurd runs rests
  | reconcile staleTtl =>
    simp only [Statement.statusAfter] at runs
    split at runs
    · cases runs
    · exact absurd runs rests
  | nothing | insert id row | heartbeat id | trialEligibility id isEligible reason => exact absurd runs rests

/-- A trial that waits has no worker, so nobody moves it to `RUNNING`. -/
theorem Throttled.step_idle (throttled : Throttled w) (acted : act w label = some (statement, memory))
    {thread : JobThread Body} (member : thread ∈ memory.manager.started) {task : TuningTask} {pc : TunePc}
    (tunes : thread.work = .tune task pc) {trialId : String} (waits : trialId ∈ pc.waiting) {after : ModelRun}
    (present : (statement.run w.clock w.runs).lookup trialId = some after) : after.status ≠ .running := by
  intro running
  rcases act_waiting acted member tunes waits with ⟨before, old, prior, was, waited⟩ | fresh
  · rcases lookup_run_inv present with ⟨row, found⟩ | rfl
    · obtain ⟨same, foundSame, _, status⟩ := act_lookup acted found
      cases present.symm.trans foundSame
      have rests := (throttled.orderly before old task prior was).idle trialId waited row found
      obtain ⟨expected, next, taken⟩ := (act_issued acted).statusAfter_running rests (status.symm.trans running)
      obtain ⟨k, worker, started, works⟩ := act_takes acted taken
      exact throttled.held.waiting_idle old was waited started works
    · have pending := ((act_issued acted).insert trialId after rfl).2.1
      cases pending.symm.trans running
  · rcases lookup_run_inv present with ⟨row, found⟩ | rfl
    · exact fresh (Table.mem_of_lookup found)
    · have pending := ((act_issued acted).insert trialId after rfl).2.1
      cases pending.symm.trans running

/-- The bookkeeping of an orchestrator after one of its own steps within the loops. -/
theorem Orderly.step_active {task : TuningTask} {pc next : TunePc} {flagged : Bool} {event : Event}
    (orderly : Orderly w task pc)
    (ran : tuneStep w.clock w.runs flagged task pc event = some (.statement statement (.goto next))) :
    (next.active.length : Int) ≤ task.maxConcurrency ∧
      ∀ trialId ∈ next.trialIds.take next.nextTrial, trialId ∈ next.active ∨ Ended w trialId := by
  rcases tuneStep_active ran with same | ⟨struck, row, found, ended, fewer⟩
  · rw [same]
    exact ⟨orderly.room, fun trialId listed => orderly.settled trialId (tuneStep_goto ran listed)⟩
  · rw [fewer]
    have room := orderly.room
    have shorter : (pc.active.erase struck).length ≤ pc.active.length := List.length_erase_le
    refine ⟨by omega, fun trialId listed => ?_⟩
    by_cases same : trialId = struck
    · exact .inr ⟨row, same ▸ found, ended⟩
    · exact (orderly.settled trialId (tuneStep_goto ran listed)).imp_left (List.mem_erase_of_ne same).mpr

/-- And after it has handed a trial over. -/
theorem Orderly.step_dispatched {task : TuningTask} {pc next : TunePc} {flagged threadStarts : Bool} {event : Event}
    {call : TrainCall} (orderly : Orderly w task pc)
    (ran : tuneStep w.clock w.runs flagged task pc event = some (.runPcaTraining call threadStarts next)) :
    (next.active.length : Int) ≤ task.maxConcurrency ∧
      ∀ trialId ∈ next.trialIds.take next.nextTrial, trialId ∈ next.active ∨ Ended w trialId := by
  obtain ⟨room, active, dispatched⟩ := tuneStep_dispatched_active ran
  have more := activate_length call.modelRunId pc.active
  rw [active, dispatched]
  refine ⟨by omega, fun trialId listed => ?_⟩
  rw [mem_activate]
  rcases List.mem_append.mp listed with earlier | last
  · exact (orderly.settled trialId earlier).imp_left .inr
  · exact .inl (.inl (List.mem_singleton.mp last))

/-- The bookkeeping of every orchestrator after any step. -/
theorem Throttled.step_bookkeeping (throttled : Throttled w) (acted : act w label = some (statement, memory))
    (limits : ∀ task, memory.Tunes task → 1 ≤ task.maxConcurrency ∧ task.maxConcurrency ≤ 10)
    {thread : JobThread Body} (member : thread ∈ memory.manager.started) {task : TuningTask} {pc : TunePc}
    (tunes : thread.work = .tune task pc) :
    (pc.active.length : Int) ≤ task.maxConcurrency ∧
      ∀ trialId ∈ pc.trialIds.take pc.nextTrial, trialId ∈ pc.active ∨ Ended w trialId := by
  have kept {before : JobThread Body} (old : before ∈ w.memory.manager.started) (was : before.work = .tune task pc) :
      (pc.active.length : Int) ≤ task.maxConcurrency ∧
        ∀ trialId ∈ pc.trialIds.take pc.nextTrial, trialId ∈ pc.active ∨ Ended w trialId :=
    ⟨(throttled.orderly before old task pc was).room, (throttled.orderly before old task pc was).settled⟩
  cases act_origin acted member with
  | kept before old same => exact kept old (same.work.symm.trans tunes)
  | launched initial running =>
    have limit := limits task (.inr ⟨thread, member, pc, tunes⟩)
    rw [tunes] at initial
    cases pc <;> cases initial
    refine ⟨?_, fun trialId listed => by cases listed⟩
    show (0 : Int) ≤ task.maxConcurrency
    omega
  | foreign other => cases tunes.symm.trans other
  | trained before old running call point onward event was ran now flag phase => cases tunes.symm.trans now
  | trainEnded before old same ended call point was => cases tunes.symm.trans (same.trans was)
  | tuned before old running other point onward event was ran now phase =>
    cases tunes.symm.trans now
    exact (throttled.orderly before old task point was).step_active ran
  | dispatched before old running other point onward event call threadStarts was ran now phase started =>
    cases tunes.symm.trans now
    exact (throttled.orderly before old task point was).step_dispatched ran
  | tuneEnded k event here before found running same ended other point action was ran ends =>
    exact kept (List.mem_of_getElem? found) (same.symm.trans tunes)

end step

theorem step_throttled (w : World) (label : Label) (next : World) (throttled : Throttled w)
    (taken : step w label = some next) : Throttled next := by
  have held := step_heldOnce throttled.held taken
  have ended {trialId : String} (before : Ended w trialId) : Ended next trialId := step_ended taken before
  obtain ⟨⟨statement, memory⟩, acted, rfl⟩ := step_eq_some taken
  have limits (task : TuningTask) (tunes : memory.Tunes task) :
      1 ≤ task.maxConcurrency ∧ task.maxConcurrency ≤ 10 :=
    (act_tunes acted tunes).elim (throttled.bounded task) id
  refine ⟨held, limits, fun thread member task pc tunes => ?_⟩
  obtain ⟨room, settled⟩ := throttled.step_bookkeeping acted limits member tunes
  exact ⟨room, fun trialId listed => (settled trialId listed).imp_right ended,
    fun trialId waits after present => throttled.step_idle acted member tunes waits present⟩

/-! ## The rows -/

theorem mem_runningTrials {runs : Runs} {trialIds : List String} {modelRunId : String} :
    modelRunId ∈ (runningTrials runs trialIds).keys ↔ ∃ row, runs.lookup modelRunId = some row ∧
      modelRunId ∈ trialIds ∧ row.status = .running := by
  rw [← AList.mem_keys, ← AList.lookup_isSome, runningTrials, Table.lookup_keep, Option.isSome_iff_exists]
  refine exists_congr fun row => ?_
  rw [Option.filter_eq_some_iff]
  simp

/-- The trials in training are in flight. -/
theorem Orderly.running_active {w : World} {task : TuningTask} {pc : TunePc} (orderly : Orderly w task pc) :
    (runningTrials w.runs pc.trialIds).keys ⊆ pc.active := by
  intro trialId running
  obtain ⟨row, found, listed, status⟩ := mem_runningTrials.mp running
  rw [← List.take_append_drop pc.nextTrial pc.trialIds] at listed
  rcases List.mem_append.mp listed with dispatched | waits
  · refine (orderly.settled trialId dispatched).resolve_right ?_
    rintro ⟨final, present, ended⟩
    cases present.symm.trans found
    rw [status] at ended
    cases ended
  · exact absurd status (orderly.idle trialId waits row found)

theorem Orderly.running_le {w : World} {task : TuningTask} {pc : TunePc} (orderly : Orderly w task pc) :
    ((runningTrials w.runs pc.trialIds).keys.length : Int) ≤ task.maxConcurrency := by
  have distinct : (runningTrials w.runs pc.trialIds).keys.Nodup := (runningTrials w.runs pc.trialIds).keys_nodup
  have few := (distinct.subperm orderly.running_active).length_le
  have room := orderly.room
  omega

theorem Throttled.withinLimit {w : World} (throttled : Throttled w) : WithinLimit w := by
  rintro thread member ⟨task, pc⟩ tuning
  have tunes : thread.work = .tune task pc := Body.tuning_eq_some.mp tuning
  have limit := throttled.bounded task (.inr ⟨thread, member, pc, tunes⟩)
  exact ⟨(throttled.orderly thread member task pc tunes).running_le, limit.2⟩

/-- In every run the trials in training keep to the limit of their orchestrator. -/
theorem running_trials_bounded (schedule : List Label) : States step WithinLimit World.init schedule :=
  (states_of_invariant step_throttled schedule init_throttled).mono fun _ => Throttled.withinLimit

/-- Two trials, one at a time: the first one is in training and the second one waits. -/
example :
    (exec step World.init
      [.post "p" ⟨"r", "d", "pca_default", 3, 99, some ⟨"grid", 10, 1, none, ⟨[2, 3], [99]⟩⟩⟩ fun _ => (0, 0),
        .postStart 0 true, .work 0 .done, .work 0 (.created "t"), .work 0 (.created "u"), .work 0 .done, .work 0 .done,
        .work 0 (.thread true), .work 1 .done]).map (fun w => (runningTrials w.runs ["t", "u"]).keys) = some ["t"] := by
  decide +kernel

end TelemetryLab.Training
