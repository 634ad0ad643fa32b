import TelemetryLab.Jobs.Threads
import TelemetryLab.Training.Bodies
import TelemetryLab.Training.World

/-! The steps of the training service, one step back.

`Acts` says once what a step can do. From it come the origin of every thread
after a step, which was there before with the same body, has just been started,
or is the one whose body took the step, and the statements a step can issue.
-/

set_option autoImplicit false
namespace TelemetryLab.Training
open Jobs JobManager

def Body.initial : Body → Bool
  | .train _ .transition | .tune _ .transition | .other => true
  | _ => false

theorem Post.body_initial (post : Post) : post.body.initial = true := by
  cases post <;> rfl

/-- The manager after a handler has asked for the cancellation of a job, if it does. -/
def Memory.cancelling (memory : Memory) : Option String → JobManager Body
  | some jobId => memory.manager.cancelJob jobId
  | none => memory.manager

/-- Everything a step can do, with what it finds. -/
inductive Acts (w : World) : Label → Statement → Memory → Prop
  | tick : Acts w .tick .nothing w.memory
  | reconcile (staleTtl : Option Nat) : Acts w (.reconcile staleTtl) (.reconcile staleTtl) w.memory
  | post (modelRunId : String) (request : TrainRequest) (draws : Nat → Nat × Nat) (fresh : modelRunId ∉ w.runs) :
      Acts w (.post modelRunId request draws)
        (.insert modelRunId (.inserted request.datasetId request.name request.requestId request.hpoConfig.isSome
          none none w.clock))
        { w.memory with posts := w.memory.posts ++ [request.post modelRunId draws] }
  | postStart (i : Nat) (threadStarts : Bool) (post : Post) (posts : List Post) :
      Acts w (.postStart i threadStarts) .nothing
        { (w.memory.startJob post.jobId post.requestId post.body threadStarts).2 with posts }
  | delete (modelRunId : String) (call : DeleteCall) (opened : openDelete w.runs modelRunId = some call) :
      Acts w (.delete modelRunId) .nothing { w.memory with deletes := w.memory.deletes ++ [call] }
  | deleteStep (i : Nat) (stored : Bool) (call : DeleteCall) (action : DeleteAction)
      (found : w.memory.deletes[i]? = some call) (ran : deleteStep w.runs stored call = some action) :
      Acts w (.deleteStep i stored) action.statement
        { w.memory.withManager (w.memory.cancelling action.cancelJob) with
          deletes := w.memory.deletes.set i { call with pc := action.pc } }
  | trained (k : Nat) (event : Event) (thread : JobThread Body) (call : TrainCall) (pc : TrainPc)
      (statement : Statement) (progress : Progress TrainPc) (found : w.memory.manager.started[k]? = some thread)
      (running : thread.phase = .body) (was : thread.work = .train call pc)
      (ran : trainStep w.runs (w.memory.manager.flagSet thread.flag) call pc event = some (statement, progress)) :
      Acts w (.work k event) statement (w.memory.advance k (.train call) progress)
  | tuned (k : Nat) (event : Event) (thread : JobThread Body) (task : TuningTask) (pc : TunePc)
      (statement : Statement) (progress : Progress TunePc) (found : w.memory.manager.started[k]? = some thread)
      (running : thread.phase = .body) (was : thread.work = .tune task pc)
      (ran : tuneStep w.clock w.runs (w.memory.manager.flagSet thread.flag) task pc event =
        some (.statement statement progress)) :
      Acts w (.work k event) statement (w.memory.advance k (.tune task) progress)
  | dispatched (k : Nat) (event : Event) (thread : JobThread Body) (task : TuningTask) (pc admitted : TunePc)
      (call : TrainCall) (threadStarts : Bool) (found : w.memory.manager.started[k]? = some thread)
      (running : thread.phase = .body) (was : thread.work = .tune task pc)
      (ran : tuneStep w.clock w.runs (w.memory.manager.flagSet thread.flag) task pc event =
        some (.runPcaTraining call threadStarts admitted)) :
      Acts w (.work k event) .nothing (w.memory.dispatch k task call threadStarts admitted)
  | job (label : Jobs.Label Body) (jobs : Jobs.World Body) (allowed : foreign w.memory label = true)
      (taken : stepLive w.memory.jobs label = some jobs) : Acts w (.job label) .nothing { w.memory with jobs }

theorem workStep_acts {w : World} {k : Nat} {event : Event} {statement : Statement} {memory : Memory}
    (acted : workStep w k event = some (statement, memory)) : Acts w (.work k event) statement memory := by
  unfold workStep at acted
  split at acted
  · cases acted
  next thread found =>
    split at acted
    next running =>
      split at acted
      next call pc was =>
        obtain ⟨⟨issued, progress⟩, ran, same⟩ := Option.map_eq_some_iff.mp acted
        cases same
        exact .trained k event thread call pc _ progress found running was ran
      next task pc was =>
        obtain ⟨action, ran, same⟩ := Option.map_eq_some_iff.mp acted
        cases action with
        | statement issued progress =>
          cases same
          exact .tuned k event thread task pc _ progress found running was ran
        | runPcaTraining call threadStarts admitted =>
          cases same
          exact .dispatched k event thread task pc admitted call threadStarts found running was ran
      · cases acted
    · cases acted

theorem act_acts {w : World} {label : Label} {statement : Statement} {memory : Memory}
    (acted : act w label = some (statement, memory)) : Acts w label statement memory := by
  cases label with
  | tick =>
    cases acted
    exact .tick
  | reconcile staleTtl =>
    cases acted
    exact .reconcile staleTtl
  | post modelRunId request draws =>
    simp only [act] at acted
    split at acted
    next fresh =>
      cases acted
      exact .post modelRunId request draws fresh.2
    · cases acted
  | postStart i threadStarts =>
    simp only [act] at acted
    split at acted
    · cases acted
    next post _ =>
      cases acted
      exact .postStart i threadStarts post _
  | delete modelRunId =>
    obtain ⟨call, opened, same⟩ := Option.map_eq_some_iff.mp acted
    cases same
    exact .delete modelRunId call opened
  | deleteStep i stored =>
    simp only [act] at acted
    split at acted
    · cases acted
    next call found =>
      obtain ⟨action, ran, same⟩ := Option.map_eq_some_iff.mp acted
      cases same
      exact .deleteStep i stored call action found ran
  | work k event => exact workStep_acts acted
  | job label =>
    simp only [act] at acted
    split at acted
    next allowed =>
      obtain ⟨jobs, taken, same⟩ := Option.map_eq_some_iff.mp acted
      cases same
      exact .job label jobs allowed taken
    · cases acted

/-! ## Threads -/

theorem Memory.cancelling_started (memory : Memory) (cancelJob : Option String) :
    (memory.cancelling cancelJob).started = memory.manager.started := by
  cases cancelJob with
  | none => rfl
  | some jobId => exact memory.manager.cancelJob_started jobId

/-- The action of a tuning body that ends it: a return, an exception, or a
dispatch that `StartJob` refuses. -/
inductive TuneEnds (manager : JobManager Body) : TuneAction → Prop
  | returns (statement : Statement) : TuneEnds manager (.statement statement .returns)
  | throws (statement : Statement) (what : String) : TuneEnds manager (.statement statement (.throws what))
  | refused (call : TrainCall) (threadStarts : Bool) (admitted : TunePc)
      (refusal : ¬ (manager.Admits ∧ threadStarts = true)) :
      TuneEnds manager (.runPcaTraining call threadStarts admitted)

/-- The origin of thread `j`, which is `after` once a step has run `statement` and left `memory`. -/
inductive Place (w : World) (label : Label) (statement : Statement) (memory : Memory) (j : Nat) (after : JobThread Body) :
    Prop
  | kept (before : JobThread Body) (found : w.memory.manager.started[j]? = some before) (same : before.Kept after)
      (elsewhere : ∀ event, label ≠ .work j event)
  | launched (absent : w.memory.manager.started[j]? = none) (initial : after.work.initial = true)
      (running : after.phase = .body)
  | foreign (other : after.work = .other)
      (was : ∀ before, w.memory.manager.started[j]? = some before → before.work = .other)
  | trained (event : Event) (here : label = .work j event) (before : JobThread Body)
      (found : w.memory.manager.started[j]? = some before) (running : before.phase = .body) (call : TrainCall)
      (pc next : TrainPc) (was : before.work = .train call pc)
      (acted : trainStep w.runs (w.memory.manager.flagSet before.flag) call pc event = some (statement, .goto next))
      (now : after.work = .train call next) (flag : after.flag = before.flag) (running' : after.phase = .body)
  | trainEnded (event : Event) (here : label = .work j event) (before : JobThread Body)
      (found : w.memory.manager.started[j]? = some before) (same : after.work = before.work)
      (ended : after.phase ≠ .body) (call : TrainCall) (pc : TrainPc) (was : before.work = .train call pc)
  | tuned (event : Event) (here : label = .work j event) (before : JobThread Body)
      (found : w.memory.manager.started[j]? = some before) (running : before.phase = .body) (task : TuningTask)
      (pc next : TunePc) (was : before.work = .tune task pc)
      (acted : tuneStep w.clock w.runs (w.memory.manager.flagSet before.flag) task pc event =
        some (.statement statement (.goto next)))
      (now : after.work = .tune task next) (running' : after.phase = .body)
  | dispatched (event : Event) (here : label = .work j event) (before : JobThread Body)
      (found : w.memory.manager.started[j]? = some before) (running : before.phase = .body) (task : TuningTask)
      (pc next : TunePc) (call : TrainCall) (threadStarts : Bool) (was : before.work = .tune task pc)
      (acted : tuneStep w.clock w.runs (w.memory.manager.flagSet before.flag) task pc event =
        some (.runPcaTraining call threadStarts next))
      (now : after.work = .tune task next) (running' : after.phase = .body)
      (started : ∃ worker ∈ memory.manager.started, worker.work = .train call .transition)
  | tuneEnded (event : Event) (here : label = .work j event) (before : JobThread Body)
      (found : w.memory.manager.started[j]? = some before) (running : before.phase = .body)
      (same : after.work = before.work) (ended : after.phase ≠ .body) (task : TuningTask) (pc : TunePc)
      (action : TuneAction) (was : before.work = .tune task pc)
      (acted : tuneStep w.clock w.runs (w.memory.manager.flagSet before.flag) task pc event = some action)
      (ends : TuneEnds w.memory.manager action)

/-- The origin of a thread, wherever it stands. -/
inductive Origin (w : World) (label : Label) (statement : Statement) (memory : Memory) (after : JobThread Body) : Prop
  | kept (before : JobThread Body) (member : before ∈ w.memory.manager.started) (same : before.Kept after)
  | launched (initial : after.work.initial = true) (running : after.phase = .body)
  | foreign (other : after.work = .other)
  | trained (before : JobThread Body) (member : before ∈ w.memory.manager.started) (running : before.phase = .body)
      (call : TrainCall) (pc next : TrainPc) (event : Event) (was : before.work = .train call pc)
      (acted : trainStep w.runs (w.memory.manager.flagSet before.flag) call pc event = some (statement, .goto next))
      (now : after.work = .train call next) (flag : after.flag = before.flag) (running' : after.phase = .body)
  | trainEnded (before : JobThread Body) (member : before ∈ w.memory.manager.started)
      (same : after.work = before.work) (ended : after.phase ≠ .body)
      (call : TrainCall) (pc : TrainPc) (was : before.work = .train call pc)
  | tuned (before : JobThread Body) (member : before ∈ w.memory.manager.started) (running : before.phase = .body)
      (task : TuningTask) (pc next : TunePc) (event : Event) (was : before.work = .tune task pc)
      (acted : tuneStep w.clock w.runs (w.memory.manager.flagSet before.flag) task pc event =
        some (.statement statement (.goto next)))
      (now : after.work = .tune task next) (running' : after.phase = .body)
  | dispatched (before : JobThread Body) (member : before ∈ w.memory.manager.started) (running : before.phase = .body)
      (task : TuningTask) (pc next : TunePc) (event : Event) (call : TrainCall) (threadStarts : Bool)
      (was : before.work = .tune task pc)
      (acted : tuneStep w.clock w.runs (w.memory.manager.flagSet before.flag) task pc event =
        some (.runPcaTraining call threadStarts next))
      (now : after.work = .tune task next) (running' : after.phase = .body)
      (started : ∃ worker ∈ memory.manager.started, worker.work = .train call .transition)
  | tuneEnded (k : Nat) (event : Event) (here : label = .work k event) (before : JobThread Body)
      (found : w.memory.manager.started[k]? = some before) (running : before.phase = .body)
      (same : after.work = before.work) (ended : after.phase ≠ .body) (task : TuningTask) (pc : TunePc)
      (action : TuneAction) (was : before.work = .tune task pc)
      (acted : tuneStep w.clock w.runs (w.memory.manager.flagSet before.flag) task pc event = some action)
      (ends : TuneEnds w.memory.manager action)

/-- The threads after `advance`: only thread `k` differs. -/
theorem advance_place {Pc : Type} {memory : Memory} {j k : Nat} {body : Pc → Body} {progress : Progress Pc}
    {after : JobThread Body} (found : (memory.advance k body progress).manager.started[j]? = some after) :
    ∃ before, memory.manager.started[j]? = some before ∧ ((k ≠ j ∧ after = before) ∨ (k = j ∧ after.flag = before.flag ∧
      ((∃ pc, progress = .goto pc ∧ after.work = body pc ∧ after.phase = before.phase) ∨
        ((progress = .returns ∨ ∃ what, progress = .throws what) ∧ after.work = before.work ∧ after.phase ≠ .body)))) := by
  cases progress with
  | goto pc =>
    simp only [Memory.advance, Memory.setWork, Memory.withManager, Memory.manager, List.getElem?_modify] at found
    obtain ⟨before, present, rfl⟩ := Option.map_eq_some_iff.mp found
    refine ⟨before, present, ?_⟩
    by_cases here : k = j
    · exact .inr ⟨here, by simp [here], .inl ⟨pc, rfl, by simp [here], by simp [here]⟩⟩
    · exact .inl ⟨here, by simp [here]⟩
  | returns =>
    have found : (memory.manager.setPhase k .returned).started[j]? = some after := found
    rw [setPhase_getElem?] at found
    obtain ⟨before, present, rfl⟩ := Option.map_eq_some_iff.mp found
    refine ⟨before, present, ?_⟩
    by_cases here : k = j
    · exact .inr ⟨here, by simp [here], .inr ⟨.inl rfl, by simp [here], by simp [here]⟩⟩
    · exact .inl ⟨here, by simp [here]⟩
  | throws what =>
    have found : (memory.manager.setPhase k (.threw what)).started[j]? = some after := found
    rw [setPhase_getElem?] at found
    obtain ⟨before, present, rfl⟩ := Option.map_eq_some_iff.mp found
    refine ⟨before, present, ?_⟩
    by_cases here : k = j
    · exact .inr ⟨here, by simp [here], .inr ⟨.inr ⟨what, rfl⟩, by simp [here], by simp [here]⟩⟩
    · exact .inl ⟨here, by simp [here]⟩

theorem advance_flags {Pc : Type} (memory : Memory) (k : Nat) (body : Pc → Body) (progress : Progress Pc) :
    (memory.advance k body progress).manager.flags = memory.manager.flags := by
  cases progress <;> rfl

theorem advance_deletes {Pc : Type} (memory : Memory) (k : Nat) (body : Pc → Body) (progress : Progress Pc) :
    (memory.advance k body progress).deletes = memory.deletes := by
  cases progress <;> rfl

/-- The other threads keep their bodies. -/
theorem advance_other {Pc : Type} {memory : Memory} {j k : Nat} {body : Pc → Body} {progress : Progress Pc}
    {thread : JobThread Body} (elsewhere : k ≠ j) (found : memory.manager.started[j]? = some thread) :
    (memory.advance k body progress).manager.started[j]? = some thread := by
  have found : memory.jobs.manager.started[j]? = some thread := found
  cases progress with
  | goto pc => simp [Memory.advance, Memory.setWork, Memory.withManager, Memory.manager, found, elsewhere]
  | returns => simp [Memory.advance, Memory.withManager, Memory.manager, setPhase_getElem?, found, elsewhere]
  | throws what => simp [Memory.advance, Memory.withManager, Memory.manager, setPhase_getElem?, found, elsewhere]

theorem startJob_getElem? {memory : Memory} {jobId requestId : String} {body : Body} {threadStarts : Bool} {k : Nat}
    {thread : JobThread Body} (found : memory.manager.started[k]? = some thread) :
    (memory.startJob jobId requestId body threadStarts).2.manager.started[k]? = some thread := by
  show (memory.manager.startJob jobId requestId body threadStarts).2.started[k]? = some thread
  rcases startJob_started memory.manager jobId requestId body threadStarts with ⟨same, _⟩ | ⟨grown, _⟩
  · rw [same]
    exact found
  · rw [grown, List.getElem?_append_left (List.getElem?_eq_some_iff.mp found).1]
    exact found

theorem runPcaTraining_started {memory : Memory} {call : TrainCall} {threadStarts : Bool}
    (ready : memory.manager.Admits ∧ threadStarts = true) :
    ∃ worker, (memory.runPcaTraining call threadStarts).2.manager.started[memory.manager.started.length]? = some worker ∧
      worker.work = .train call .transition := by
  rcases startJob_started memory.manager ("train-" ++ call.modelRunId) call.requestId (.train call .transition)
    threadStarts with ⟨_, refused⟩ | ⟨grown, _⟩
  · exact absurd ready refused
  · refine ⟨⟨"train-" ++ call.modelRunId, call.requestId, .train call .transition, memory.manager.flags.length, .body⟩, ?_, rfl⟩
    show (memory.manager.startJob _ _ _ _).2.started[_]? = _
    rw [grown, List.getElem?_concat_length]

/-- The orchestrator goes on if the job can be started, and ends otherwise. -/
theorem dispatch_cases (memory : Memory) (k : Nat) (task : TuningTask) (call : TrainCall) (threadStarts : Bool)
    (admitted : TunePc) :
    ((memory.manager.Admits ∧ threadStarts = true) ∧ memory.dispatch k task call threadStarts admitted =
      (memory.runPcaTraining call threadStarts).2.advance k (.tune task) (.goto admitted)) ∨
    (¬ (memory.manager.Admits ∧ threadStarts = true) ∧ ∃ what, memory.dispatch k task call threadStarts admitted =
      (memory.runPcaTraining call threadStarts).2.advance k (.tune task) (.throws what)) := by
  have starts := startJob_throws memory.manager ("train-" ++ call.modelRunId) call.requestId
    (.train call .transition) threadStarts
  by_cases goesOn : (memory.runPcaTraining call threadStarts).1 = .admitted ∨
      (memory.runPcaTraining call threadStarts).1 = .terminated
  · exact .inl ⟨starts.mp (StartOutcome.throws_eq_false.mpr goesOn), if_pos goesOn⟩
  · exact .inr ⟨fun ready => goesOn (StartOutcome.throws_eq_false.mp (starts.mpr ready)), _, if_neg goesOn⟩

/-- Either way the call of `StartJob` is followed by a move of the orchestrator. -/
theorem dispatch_advance (memory : Memory) (k : Nat) (task : TuningTask) (call : TrainCall) (threadStarts : Bool)
    (admitted : TunePc) : ∃ progress, memory.dispatch k task call threadStarts admitted =
      (memory.runPcaTraining call threadStarts).2.advance k (.tune task) progress := by
  rcases dispatch_cases memory k task call threadStarts admitted with ⟨_, same⟩ | ⟨_, _, same⟩
  · exact ⟨_, same⟩
  · exact ⟨_, same⟩

/-- Handing a trial over: the worker is started and the orchestrator goes on,
or the refusal ends the orchestrator. -/
theorem dispatch_place {w : World} {k : Nat} {event : Event} {thread : JobThread Body}
    (found : w.memory.manager.started[k]? = some thread) (running : thread.phase = .body) {task : TuningTask}
    {pc admitted : TunePc} (was : thread.work = .tune task pc) {call : TrainCall} {threadStarts : Bool}
    (acted : tuneStep w.clock w.runs (w.memory.manager.flagSet thread.flag) task pc event =
      some (.runPcaTraining call threadStarts admitted)) {j : Nat} {after : JobThread Body}
    (here : (w.memory.dispatch k task call threadStarts admitted).manager.started[j]? = some after) :
    Place w (.work k event) .nothing (w.memory.dispatch k task call threadStarts admitted) j after := by
  have launched {memory : Memory} {other : JobThread Body} (elsewhere : k ≠ j)
      (here : (w.memory.runPcaTraining call threadStarts).2.manager.started[j]? = some other) :
      Place w (.work k event) .nothing memory j other := by
    rcases startJob_place here with old | ⟨absent, work, phase⟩
    · exact .kept other old (.refl other) (by simp [elsewhere])
    · exact .launched absent (by simp [work, Body.initial]) phase
  have still : (w.memory.runPcaTraining call threadStarts).2.manager.started[k]? = some thread := startJob_getElem? found
  rcases dispatch_cases w.memory k task call threadStarts admitted with ⟨ready, same⟩ | ⟨refused, what, same⟩
  · rw [same] at here ⊢
    obtain ⟨before, stored, ⟨elsewhere, rfl⟩ | ⟨rfl, _, ⟨next, rest, now, phase⟩ | ⟨ends, _, _⟩⟩⟩ := advance_place here
    · exact launched elsewhere stored
    · cases stored.symm.trans still
      cases rest
      refine .dispatched event rfl thread found running task pc admitted call threadStarts was acted now
        (phase.trans running) ?_
      obtain ⟨worker, started, work⟩ := runPcaTraining_started ready
      -- The new thread is the last one, so it is not the orchestrator.
      have elsewhere : k ≠ w.memory.manager.started.length := Nat.ne_of_lt (List.getElem?_eq_some_iff.mp found).1
      exact ⟨worker, List.mem_of_getElem? (advance_other elsewhere started), work⟩
    · rcases ends with ends | ⟨_, ends⟩ <;> cases ends
  · rw [same] at here ⊢
    obtain ⟨before, stored, ⟨elsewhere, rfl⟩ | ⟨rfl, _, ⟨next, rest, _⟩ | ⟨_, work, ended⟩⟩⟩ := advance_place here
    · exact launched elsewhere stored
    · cases rest
    · cases stored.symm.trans still
      exact .tuneEnded event rfl thread found running work ended task pc _ was acted
        (.refused call threadStarts admitted refused)

theorem act_place {w : World} {label : Label} {statement : Statement} {memory : Memory}
    (acted : act w label = some (statement, memory)) {j : Nat} {after : JobThread Body}
    (here : memory.manager.started[j]? = some after) : Place w label statement memory j after := by
  cases act_acts acted with
  | tick => exact .kept after here (.refl after) (by simp)
  | reconcile staleTtl => exact .kept after here (.refl after) (by simp)
  | post modelRunId request draws _ => exact .kept after here (.refl after) (by simp)
  | delete modelRunId call _ => exact .kept after here (.refl after) (by simp)
  | deleteStep i stored call action _ _ =>
    exact .kept after ((w.memory.cancelling_started action.cancelJob) ▸ here) (.refl after) (by simp)
  | postStart i threadStarts post posts =>
    rcases startJob_place here with old | ⟨absent, work, phase⟩
    · exact .kept after old (.refl after) (by simp)
    · exact .launched absent (work ▸ post.body_initial) phase
  | trained k event thread call pc _ progress found running was ran =>
    obtain ⟨before, present, ⟨elsewhere, rfl⟩ | ⟨rfl, flag, ⟨next, rfl, now, phase⟩ | ⟨_, same, ended⟩⟩⟩ :=
      advance_place here
    · exact .kept after present (.refl after) (by simp [elsewhere])
    · cases present.symm.trans found
      exact .trained event rfl thread found running call pc next was ran now flag (phase.trans running)
    · cases present.symm.trans found
      exact .trainEnded event rfl thread found same ended call pc was
  | tuned k event thread task pc _ progress found running was ran =>
    obtain ⟨before, present, ⟨elsewhere, rfl⟩ | ⟨rfl, flag, ⟨next, rfl, now, phase⟩ | ⟨ends, same, ended⟩⟩⟩ :=
      advance_place here
    · exact .kept after present (.refl after) (by simp [elsewhere])
    · cases present.symm.trans found
      exact .tuned event rfl thread found running task pc next was ran now (phase.trans running)
    · cases present.symm.trans found
      refine .tuneEnded event rfl thread found running same ended task pc _ was ran ?_
      rcases ends with rfl | ⟨what, rfl⟩
      · exact .returns _
      · exact .throws _ what
  | dispatched k event thread task pc admitted call threadStarts found running was ran =>
    exact dispatch_place found running was ran here
  | job label jobs allowed taken =>
    rcases stepLive_place taken here with
      ⟨before, present, kept⟩ | ⟨absent, jobId, requestId, work, threadStarts, rfl, same, phase⟩ |
      ⟨before, ends, found, same⟩
    · exact .kept before present kept (by simp)
    · have other : work = .other := of_decide_eq_true allowed
      exact .launched absent (by rw [same, other]; rfl) phase
    · -- a training or tuning body ends by a step of its own only
      have found : w.memory.manager.started[j]? = some before := found
      have other : before.work = .other := by
        rcases ends with rfl | ⟨error, rfl⟩
        · simpa [foreign, found] using allowed
        · simpa [foreign, found] using allowed
      refine .foreign (same.trans other) fun thread present => ?_
      cases present.symm.trans found
      exact other

theorem act_origin {w : World} {label : Label} {statement : Statement} {memory : Memory}
    (acted : act w label = some (statement, memory)) {after : JobThread Body}
    (member : after ∈ memory.manager.started) : Origin w label statement memory after := by
  obtain ⟨j, present⟩ := List.mem_iff_getElem?.mp member
  cases act_place acted present with
  | kept before found same => exact .kept before (List.mem_of_getElem? found) same
  | launched absent initial running => exact .launched initial running
  | foreign other was => exact .foreign other
  | trained event here before found running call pc next was ran now flag running' =>
    exact .trained before (List.mem_of_getElem? found) running call pc next event was ran now flag running'
  | trainEnded event here before found same ended call pc was =>
    exact .trainEnded before (List.mem_of_getElem? found) same ended call pc was
  | tuned event here before found running task pc next was ran now running' =>
    exact .tuned before (List.mem_of_getElem? found) running task pc next event was ran now running'
  | dispatched event here before found running task pc next call threadStarts was ran now running' started =>
    exact .dispatched before (List.mem_of_getElem? found) running task pc next event call threadStarts was ran now running'
      started
  | tuneEnded event here before found running same ended task pc action was ran ends =>
    exact .tuneEnded j event here before found running same ended task pc action was ran ends

theorem advance_length {Pc : Type} (memory : Memory) (k : Nat) (body : Pc → Body) (progress : Progress Pc) :
    (memory.advance k body progress).manager.started.length = memory.manager.started.length := by
  cases progress with
  | goto pc => exact List.length_modify _ _ _
  | returns => exact List.length_modify _ _ _
  | throws what => exact List.length_modify _ _ _

theorem startJob_length (m : JobManager Body) (jobId requestId : String) (body : Body) (threadStarts : Bool) :
    m.started.length ≤ (m.startJob jobId requestId body threadStarts).2.started.length := by
  rcases startJob_started m jobId requestId body threadStarts with ⟨same, _⟩ | ⟨grown, _⟩
  · rw [same]
  · rw [grown, List.length_append]
    exact Nat.le_add_right _ _

theorem act_length {w : World} {label : Label} {statement : Statement} {memory : Memory}
    (acted : act w label = some (statement, memory)) :
    w.memory.manager.started.length ≤ memory.manager.started.length := by
  cases act_acts acted with
  | tick | reconcile | post | delete => exact le_rfl
  | postStart i threadStarts post posts => exact startJob_length w.memory.manager _ _ _ _
  | deleteStep i stored call action found ran =>
    exact (congrArg List.length (w.memory.cancelling_started action.cancelJob)).ge
  | trained k event thread call pc _ progress found running was ran => exact (advance_length _ _ _ _).ge
  | tuned k event thread task pc _ progress found running was ran => exact (advance_length _ _ _ _).ge
  | dispatched k event thread task pc admitted call threadStarts found running was ran =>
    have started : w.memory.manager.started.length ≤
        (w.memory.runPcaTraining call threadStarts).2.manager.started.length := startJob_length w.memory.manager _ _ _ _
    obtain ⟨progress, same⟩ := dispatch_advance w.memory k task call threadStarts admitted
    rwa [same, advance_length]
  | job label jobs allowed taken =>
    show w.memory.jobs.manager.started.length ≤ jobs.manager.started.length
    have change := stepLive_manager taken
    generalize jobs.manager = manager at change
    cases change with
    | startJob jobId requestId work threadStarts => exact startJob_length _ _ _ _ _
    | left _ k phase _ => exact (List.length_modify _ _ _).ge
    | finalSection =>
      exact (List.length_modify _ _ _).ge
    | cancelJob jobId => exact (congrArg List.length (w.memory.jobs.manager.cancelJob_started jobId)).ge
    | stopSection => exact le_rfl
    | aside _ _ started _ => exact (congrArg List.length started).ge

/-! ## Statements -/

/-- A training worker is about to record this run as completed. -/
def Completing (w : World) (modelRunId : String) : Prop :=
  ∃ thread ∈ w.memory.manager.started, thread.phase = .body ∧ ∃ call,
    thread.work = .train call .completing ∧ call.modelRunId = modelRunId

/-- An orchestrator of this parent has trials left to create. -/
def Creating (w : World) (parentRunId : String) : Prop :=
  ∃ thread ∈ w.memory.manager.started, thread.phase = .body ∧ ∃ task idx trialIds,
    thread.work = .tune task (.creating idx trialIds) ∧ idx < task.trials.length ∧ task.parentRunId = parentRunId

/-- The three kinds of statements that touch a status, and who can issue them. -/
structure Issued (w : World) (statement : Statement) : Prop where
  transition : ∀ modelRunId expected next, statement = .transitionStatus modelRunId expected next →
    expected = .pending ∧ next = .running
  update : ∀ modelRunId status artifactPath error, statement = .updateStatus modelRunId status artifactPath error →
    status.isTerminal = true ∧ (status = .completed → Completing w modelRunId)
  insert : ∀ modelRunId row, statement = .insert modelRunId row → modelRunId ∉ w.runs ∧ row.status = .pending ∧
    ∀ parent, row.parentRunId = some parent → Creating w parent

/-- A job works on this run: a training worker, or an orchestrator. -/
def Body.worksOn (modelRunId : String) : Body → Prop
  | .train call _ => call.modelRunId = modelRunId
  | .tune task _ => task.parentRunId = modelRunId
  | .other => False

/-- Where a statement comes from. A run is kept alive and ended by its own job;
handlers and orchestrators cancel it, and only the reconciler sweeps. -/
inductive Author (w : World) (label : Label) : Statement → Prop
  | silent : Author w label .nothing
  | judged (modelRunId : String) (isEligible : Bool) (reason : String) :
      Author w label (.trialEligibility modelRunId isEligible reason)
  | created (modelRunId : String) (row : ModelRun) (fresh : modelRunId ∉ w.runs) (pending : row.status = .pending)
      (date : row.updatedAt = w.clock) (trial : ∀ parent, row.parentRunId = some parent → Creating w parent) :
      Author w label (.insert modelRunId row)
  | taken (modelRunId : String) : Author w label (.transitionStatus modelRunId .pending .running)
  | beaten (modelRunId : String) (k : Nat) (thread : JobThread Body)
      (found : w.memory.manager.started[k]? = some thread) (works : thread.work.worksOn modelRunId) :
      Author w label (.heartbeat modelRunId)
  | ended (k : Nat) (thread : JobThread Body) (call : TrainCall) (pc : TrainPc) (status : JobState)
      (artifactPath error : String) (found : w.memory.manager.started[k]? = some thread)
      (trains : thread.work = .train call pc) (terminal : status.isTerminal = true)
      (completes : status = .completed → Completing w call.modelRunId) :
      Author w label (.updateStatus call.modelRunId status artifactPath error)
  | cancelled (modelRunId artifactPath error : String) :
      Author w label (.updateStatus modelRunId .cancelled artifactPath error)
  | swept (staleTtl : Option Nat) (here : label = .reconcile staleTtl) : Author w label (.reconcile staleTtl)

/-- A swallowed error issues nothing. -/
theorem Author.tried {w : World} {label : Label} {event : Event} {intended statement : Statement}
    (author : Author w label intended) (tried : Tried intended event statement) : Author w label statement := by
  cases tried with
  | stored => exact author
  | lost what => exact .silent

theorem trainStep_author {w : World} {label : Label} {k : Nat} {thread : JobThread Body}
    (found : w.memory.manager.started[k]? = some thread) (running : thread.phase = .body) {call : TrainCall}
    {pc : TrainPc} (work : thread.work = .train call pc) {flagged : Bool} {event : Event} {statement : Statement}
    {progress : Progress TrainPc} (acted : trainStep w.runs flagged call pc event = some (statement, progress)) :
    Author w label statement := by
  cases trainStep_trains acted with
  | takes | late => exact .taken _
  | unwritten | joins | leaves | missing | unread | skips => exact .silent
  | stops | trained | untrained | saves | unsaved => exact .silent
  | beats => exact .beaten _ k thread found (by rw [work]; rfl)
  | cancels _ _ tried => exact (Author.ended k thread call _ _ _ _ found work rfl (by simp)).tried tried
  | completes _ _ tried =>
    have inside : Completing w call.modelRunId := ⟨thread, List.mem_of_getElem? found, running, call, work, rfl⟩
    exact (Author.ended k thread call _ _ _ _ found work rfl fun _ => inside).tried tried
  | fails what _ _ tried => exact (Author.ended k thread call _ _ _ _ found work rfl (by simp)).tried tried
  | marks _ _ tried => exact (Author.judged _ _ _).tried tried
  | marksFailed what _ _ tried => exact (Author.judged _ _ _).tried tried

theorem tuneStep_author {w : World} {label : Label} {k : Nat} {thread : JobThread Body}
    (found : w.memory.manager.started[k]? = some thread) (running : thread.phase = .body) {task : TuningTask}
    {pc : TunePc} (work : thread.work = .tune task pc) {flagged : Bool} {event : Event} {statement : Statement}
    {progress : Progress TunePc}
    (acted : tuneStep w.clock w.runs flagged task pc event = some (.statement statement progress)) :
    Author w label statement := by
  cases tuneStep_tunes acted with
  | takes | late => exact .taken _
  | unwritten | joins | leaves | missing | unread | skips | uncreated | created => exact .silent
  | stops | goesOn | finishes | waits | polled | polls | lost | unpolled => exact .silent
  | creates idx trialIds modelRunId left fresh =>
    refine .created _ _ fresh rfl rfl ?_
    intro parent parented
    cases parented
    exact ⟨thread, List.mem_of_getElem? found, running, task, idx, trialIds, work, left, rfl⟩
  | unconfirmed idx trialIds modelRunId what left fresh =>
    refine .created _ _ fresh rfl rfl ?_
    intro parent parented
    cases parented
    exact ⟨thread, List.mem_of_getElem? found, running, task, idx, trialIds, work, left, rfl⟩
  | cancels d _ _ tried => exact (Author.cancelled _ _ _).tried tried
  | beats d _ _ tried => exact (Author.beaten _ k thread found (by rw [work]; rfl)).tried tried

theorem deleteStep_author (w : World) (label : Label) {stored : Bool} {call : DeleteCall} {action : DeleteAction}
    (acted : deleteStep w.runs stored call = some action) : Author w label action.statement := by
  obtain ⟨modelRunId, pc⟩ := call
  cases pc with
  | snapshot =>
    cases acted
    exact .silent
  | trials rest =>
    cases rest with
    | nil =>
      cases acted
      exact .silent
    | cons trial rest =>
      simp only [deleteStep] at acted
      split at acted <;> cases acted <;> exact .silent
  | updateTrial trialId rest =>
    cases acted
    cases stored
    · exact .silent
    · exact .cancelled _ _ _
  | markTrial trialId rest =>
    cases acted
    cases stored
    · exact .silent
    · exact .judged _ _ _
  | cancelSelf =>
    cases acted
    exact .silent
  | updateSelf =>
    cases acted
    cases stored
    · exact .silent
    · exact .cancelled _ _ _
  | answering =>
    cases acted
    exact .silent
  | answered => cases acted

theorem act_author {w : World} {label : Label} {statement : Statement} {memory : Memory}
    (acted : act w label = some (statement, memory)) : Author w label statement := by
  cases act_acts acted with
  | tick => exact .silent
  | reconcile staleTtl => exact .swept staleTtl rfl
  | post modelRunId request draws fresh =>
    refine .created modelRunId _ fresh rfl rfl ?_
    intro parent parented
    cases parented
  | postStart i threadStarts post posts => exact .silent
  | delete modelRunId call _ => exact .silent
  | deleteStep i stored call action _ ran => exact deleteStep_author w _ ran
  | trained k event thread call pc _ progress found running was ran => exact trainStep_author found running was ran
  | tuned k event thread task pc _ progress found running was ran => exact tuneStep_author found running was ran
  | dispatched k event thread task pc admitted call threadStarts found running was ran => exact .silent
  | job label jobs _ _ => exact .silent

/-- The statuses that a statement can write depend on its author. -/
theorem Author.issued {w : World} {label : Label} {statement : Statement} (author : Author w label statement) :
    Issued w statement := by
  constructor
  · rintro modelRunId expected next rfl
    cases author
    exact ⟨rfl, rfl⟩
  · rintro modelRunId status artifactPath error rfl
    cases author with
    | ended k thread call pc _ _ _ found trains terminal completes => exact ⟨terminal, completes⟩
    | cancelled => exact ⟨rfl, by simp⟩
  · rintro modelRunId row rfl
    cases author with
    | created _ _ fresh pending date trial => exact ⟨fresh, pending, trial⟩

theorem act_issued {w : World} {label : Label} {statement : Statement} {memory : Memory}
    (acted : act w label = some (statement, memory)) : Issued w statement :=
  (act_author acted).issued

end TelemetryLab.Training
