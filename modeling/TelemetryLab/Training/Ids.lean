import TelemetryLab.Lib.Tally
import TelemetryLab.Training.Cancellation

/-! Who holds the id of a run.

The id of a new row goes from the handler or the orchestrator that created it to
the job that is started for it. It is held in one place only, so no two jobs are
ever started for one run.
-/

set_option autoImplicit false
namespace TelemetryLab.Training
open Jobs JobManager Transition Tally

/-- The trials created and not yet handed to a worker. -/
def TunePc.waiting (pc : TunePc) : List String := pc.trialIds.drop pc.nextTrial

def Post.held (modelRunId : String) : Post → ℕ
  | .train call => if call.modelRunId = modelRunId then 1 else 0
  | .tune task => if task.parentRunId = modelRunId then 1 else 0

def Body.held (modelRunId : String) : Body → ℕ
  | .train call _ => if call.modelRunId = modelRunId then 1 else 0
  | .tune task pc => (if task.parentRunId = modelRunId then 1 else 0) + pc.waiting.count modelRunId
  | .other => 0

theorem Post.body_held (post : Post) (modelRunId : String) : post.body.held modelRunId = post.held modelRunId := by
  cases post <;> rfl

def holding (modelRunId : String) (thread : JobThread Body) : ℕ := thread.work.held modelRunId

/-- The places that hold an id. -/
def Memory.holders (memory : Memory) (modelRunId : String) : ℕ :=
  tally (Post.held modelRunId) memory.posts + tally (holding modelRunId) memory.manager.started

structure HeldOnce (w : World) : Prop where
  one : ∀ modelRunId, w.memory.holders modelRunId ≤ 1
  known : ∀ modelRunId, 0 < w.memory.holders modelRunId → modelRunId ∈ w.runs

theorem init_heldOnce : HeldOnce .init where
  one := by simp [World.init, Memory.holders, Memory.manager, Jobs.World.init, JobManager.init]
  known := by simp [World.init, Memory.holders, Memory.manager, Jobs.World.init, JobManager.init]

/-! ## Steps of the bodies -/

/-- A step of the orchestrator that starts no worker keeps its list, or adds the
row it has just created. -/
theorem tuneStep_waiting {now : Nat} {runs : Runs} {flagged : Bool} {task : TuningTask} {pc next : TunePc} {event : Event}
    {statement : Statement} (acted : tuneStep now runs flagged task pc event = some (.statement statement (.goto next))) :
    next.waiting = pc.waiting ∨
      ∃ trialId row, statement = .insert trialId row ∧ trialId ∉ runs ∧ next.waiting = pc.waiting ++ [trialId] := by
  cases tuneStep_tunes acted with
  | creates idx trialIds modelRunId left fresh => exact .inr ⟨modelRunId, _, rfl, fresh, rfl⟩
  | takes | late | unwritten | joins | skips | created => exact .inl rfl
  | stops | goesOn | waits | beats | polled | polls => exact .inl rfl

/-- A trial that is dispatched is the first of those waiting. -/
theorem tuneStep_dispatched_waiting {now : Nat} {runs : Runs} {flagged : Bool} {task : TuningTask} {pc next : TunePc}
    {event : Event} {call : TrainCall} {threadStarts : Bool}
    (acted : tuneStep now runs flagged task pc event = some (.runPcaTraining call threadStarts next)) :
    pc.waiting = call.modelRunId :: next.waiting := by
  obtain ⟨d, rfl, found, rfl⟩ := tuneStep_dispatches acted
  obtain ⟨inside, here⟩ := List.getElem?_eq_some_iff.mp found
  simp only [TunePc.waiting, TunePc.trialIds, TunePc.nextTrial]
  rw [List.drop_eq_getElem_cons inside, here]

section holders
variable {memory : Memory} {k : Nat} {thread : JobThread Body} (modelRunId : String)

theorem tally_setPhase (m : JobManager Body) (phase : Phase) :
    tally (holding modelRunId) (m.setPhase k phase).started = tally (holding modelRunId) m.started :=
  tally_modify_same (holding modelRunId) (f := fun thread => { thread with phase }) (fun _ => rfl) m.started k

/-- A body that ends keeps what it holds, one that moves on holds what its next point says. -/
theorem tally_advance {Pc : Type} (body : Pc → Body) (progress : Progress Pc)
    (found : memory.manager.started[k]? = some thread) :
    tally (holding modelRunId) (memory.advance k body progress).manager.started + holding modelRunId thread =
      tally (holding modelRunId) memory.manager.started +
        (progress.next.map fun pc => (body pc).held modelRunId).getD (holding modelRunId thread) := by
  cases progress with
  | goto pc => exact tally_modify (holding modelRunId) (fun thread => { thread with work := body pc }) found
  | returns => rw [Memory.advance, Memory.manager, Memory.withManager, tally_setPhase]; rfl
  | throws what => rw [Memory.advance, Memory.manager, Memory.withManager, tally_setPhase]; rfl

theorem tally_startJob (memory : Memory) (jobId requestId : String) (body : Body) (threadStarts : Bool) :
    tally (holding modelRunId) (memory.startJob jobId requestId body threadStarts).2.manager.started ≤
      tally (holding modelRunId) memory.manager.started + body.held modelRunId := by
  show tally (holding modelRunId) (memory.manager.startJob jobId requestId body threadStarts).2.started ≤ _
  rcases startJob_started memory.manager jobId requestId body threadStarts with ⟨same, _⟩ | ⟨grown, _⟩
  · rw [same]
    exact Nat.le_add_right _ _
  · rw [grown, tally_append, tally_cons, tally_nil, Nat.add_zero]
    exact le_rfl

/-- A trial moves from its orchestrator to its worker, or stays where it is. -/
theorem tally_dispatch {task : TuningTask} {pc admitted : TunePc} {call : TrainCall} {threadStarts : Bool}
    (found : memory.manager.started[k]? = some thread) (was : thread.work = .tune task pc)
    (waiting : pc.waiting = call.modelRunId :: admitted.waiting) :
    tally (holding modelRunId) (memory.dispatch k task call threadStarts admitted).manager.started ≤
      tally (holding modelRunId) memory.manager.started := by
  have still : (memory.runPcaTraining call threadStarts).2.manager.started[k]? = some thread := startJob_getElem? found
  have held : holding modelRunId thread = (if task.parentRunId = modelRunId then 1 else 0) +
      (admitted.waiting.count modelRunId + if call.modelRunId = modelRunId then 1 else 0) := by
    rw [holding, was, Body.held, waiting, List.count_cons]
    simp
  rcases dispatch_cases memory k task call threadStarts admitted with ⟨_, moves⟩ | ⟨refused, what, moves⟩
  · have started := tally_startJob modelRunId memory ("train-" ++ call.modelRunId) call.requestId
      (.train call .transition) threadStarts
    have moved := tally_advance modelRunId (.tune task) (.goto admitted) still
    simp only [Progress.next, Option.map_some, Option.getD_some, Body.held] at moved started
    rw [held] at moved
    rw [moves]
    have same : (memory.runPcaTraining call threadStarts).2 = (memory.startJob ("train-" ++ call.modelRunId)
      call.requestId (.train call .transition) threadStarts).2 := rfl
    rw [← same] at started
    omega
  · have moved := tally_advance modelRunId (.tune task) (.throws what) still
    rw [moves]
    rcases startJob_started memory.manager ("train-" ++ call.modelRunId) call.requestId (.train call .transition)
      threadStarts with ⟨same, _⟩ | ⟨_, ready⟩
    · have same : (memory.runPcaTraining call threadStarts).2.manager.started = memory.manager.started := same
      rw [same] at moved
      simp only [Progress.next, Option.map_none, Option.getD_none] at moved
      omega
    · exact absurd ready refused

theorem tally_stepLive {jobs next : Jobs.World Body} {label : Jobs.Label Body} (taken : stepLive jobs label = some next)
    (other : ∀ jobId requestId body threadStarts, label = .startJob jobId requestId body threadStarts → body = .other) :
    tally (holding modelRunId) next.manager.started ≤ tally (holding modelRunId) jobs.manager.started := by
  have change := stepLive_manager taken
  generalize next.manager = manager at change
  cases change with
  | startJob jobId requestId body threadStarts =>
    have started := tally_startJob modelRunId ⟨jobs, [], []⟩ jobId requestId body threadStarts
    rw [other jobId requestId body threadStarts rfl] at started ⊢
    exact started
  | left _ k phase _ => exact (tally_setPhase modelRunId jobs.manager phase).le
  | finalSection =>
    exact (tally_setPhase modelRunId jobs.manager .finished).le
  | cancelJob jobId => rw [jobs.manager.cancelJob_started]
  | stopSection => exact le_rfl
  | aside _ _ started _ => rw [started]

end holders

/-! ## The step -/

/-- A worker takes over the id of its request. -/
theorem postStart_holders {w : World} {i : Nat} {threadStarts : Bool} {statement : Statement} {memory : Memory}
    (acted : act w (.postStart i threadStarts) = some (statement, memory)) (modelRunId : String) :
    memory.holders modelRunId ≤ w.memory.holders modelRunId := by
  simp only [act] at acted
  split at acted <;> cases acted
  next post found =>
    have moved := tally_eraseIdx (Post.held modelRunId) found
    have launched := tally_startJob modelRunId w.memory post.jobId post.requestId post.body threadStarts
    rw [post.body_held] at launched
    show tally (Post.held modelRunId) (w.memory.posts.eraseIdx i) + tally (holding modelRunId)
      (w.memory.startJob post.jobId post.requestId post.body threadStarts).2.manager.started ≤ _
    rw [Memory.holders]
    omega

theorem post_held (request : TrainRequest) (id modelRunId : String) (draws : Nat → Nat × Nat) :
    (request.post id draws).held modelRunId ≤ if id = modelRunId then 1 else 0 := by
  unfold TrainRequest.post
  split <;> exact le_rfl

/-- A step adds a holder only for the row it creates. -/
theorem act_holders {w : World} {label : Label} {statement : Statement} {memory : Memory}
    (acted : act w label = some (statement, memory)) (modelRunId : String) :
    memory.holders modelRunId ≤ w.memory.holders modelRunId ∨
      (∃ row, statement = .insert modelRunId row) ∧ modelRunId ∉ w.runs ∧
        memory.holders modelRunId ≤ w.memory.holders modelRunId + 1 := by
  have fewer (posts : memory.posts = w.memory.posts) (less : tally (holding modelRunId) memory.manager.started ≤
      tally (holding modelRunId) w.memory.manager.started) :
      memory.holders modelRunId ≤ w.memory.holders modelRunId := by
    rw [Memory.holders, Memory.holders, posts]
    exact Nat.add_le_add_left less _
  cases act_acts acted with
  | tick => exact .inl le_rfl
  | reconcile staleTtl => exact .inl le_rfl
  | delete id call opened => exact .inl le_rfl
  | postStart i threadStarts post posts => exact .inl (postStart_holders acted modelRunId)
  | deleteStep i stored call action found ran =>
    refine .inl (fewer rfl (le_of_eq ?_))
    exact congrArg (tally (holding modelRunId)) (w.memory.cancelling_started action.cancelJob)
  | post id request draws fresh =>
    -- the handler holds the id of the row it has just inserted
    have grown : (⟨w.memory.jobs, w.memory.posts ++ [request.post id draws], w.memory.deletes⟩ : Memory).holders
        modelRunId = w.memory.holders modelRunId + (request.post id draws).held modelRunId := by
      simp only [Memory.holders, tally_append, tally_cons, tally_nil, Memory.manager]
      omega
    have most := post_held request id modelRunId draws
    by_cases here : id = modelRunId
    · subst here
      rw [if_pos rfl] at most
      exact .inr ⟨⟨_, rfl⟩, fresh, grown.le.trans (Nat.add_le_add_left most _)⟩
    · rw [if_neg here] at most
      exact .inl (grown.le.trans (Nat.add_le_add_left most _))
  | trained k event thread call pc _ progress found running was ran =>
    have moved := tally_advance modelRunId (.train call) progress found
    -- a training holds one id to its end
    have same : (progress.next.map fun pc => (Body.train call pc).held modelRunId).getD (holding modelRunId thread) =
        holding modelRunId thread := by
      cases progress.next <;> simp [holding, was, Body.held]
    refine .inl (fewer (by cases progress <;> rfl) ?_)
    omega
  | tuned k event thread task pc _ progress found running was ran =>
    have moved := tally_advance modelRunId (.tune task) progress found
    have before : holding modelRunId thread =
        (if task.parentRunId = modelRunId then 1 else 0) + pc.waiting.count modelRunId := by rw [holding, was, Body.held]
    have posts : (w.memory.advance k (.tune task) progress).posts = w.memory.posts := by cases progress <;> rfl
    cases progress with
    | returns | throws what =>
      simp only [Progress.next, Option.map_none, Option.getD_none] at moved
      exact .inl (fewer posts (by omega))
    | goto next =>
      simp only [Progress.next, Option.map_some, Option.getD_some, before, Body.held] at moved
      rcases tuneStep_waiting ran with same | ⟨trialId, row, rfl, fresh, added⟩
      · rw [same] at moved
        exact .inl (fewer posts (by omega))
      · -- the tuning waits for the trial it has just inserted
        rw [added, List.count_append, List.count_singleton] at moved
        by_cases here : trialId = modelRunId
        · subst here
          refine .inr ⟨⟨row, rfl⟩, fresh, ?_⟩
          rw [Memory.holders, Memory.holders, posts]
          rw [if_pos (beq_self_eq_true trialId)] at moved
          omega
        · have other : ¬ (trialId == modelRunId) = true := by simpa using here
          rw [if_neg other] at moved
          exact .inl (fewer posts (by omega))
  | dispatched k event thread task pc admitted call threadStarts found running was ran =>
    have posts : (w.memory.dispatch k task call threadStarts admitted).posts = w.memory.posts := by
      simp only [Memory.dispatch]
      split <;> rfl
    exact .inl (fewer posts (tally_dispatch modelRunId found was (tuneStep_dispatched_waiting ran)))
  | job label jobs allowed taken =>
    refine .inl (fewer rfl (tally_stepLive modelRunId taken ?_))
    rintro jobId requestId body threadStarts rfl
    exact of_decide_eq_true allowed

theorem step_heldOnce {w next : World} {label : Label} (held : HeldOnce w) (taken : step w label = some next) :
    HeldOnce next := by
  obtain ⟨⟨statement, memory⟩, acted, rfl⟩ := step_eq_some taken
  have kept {modelRunId : String} (known : modelRunId ∈ w.runs) : modelRunId ∈ statement.run w.clock w.runs :=
    Statement.mem_run.mpr (.inl known)
  constructor
  · intro modelRunId
    rcases act_holders acted modelRunId with fewer | ⟨_, fresh, more⟩
    · exact fewer.trans (held.one modelRunId)
    · have none : ¬ 0 < w.memory.holders modelRunId := fun some => fresh (held.known modelRunId some)
      exact more.trans (by omega)
  · intro modelRunId some
    rcases act_holders acted modelRunId with fewer | ⟨inserted, _, _⟩
    · exact kept (held.known modelRunId (lt_of_lt_of_le some fewer))
    · exact Statement.mem_run.mpr (.inr inserted)

/-- No two jobs are started for one run. -/
theorem HeldOnce.same_place {w : World} (held : HeldOnce w) {i j : Nat} {first second : JobThread Body}
    (firstAt : w.memory.manager.started[i]? = some first) (secondAt : w.memory.manager.started[j]? = some second)
    {modelRunId : String} (firstHolds : 0 < holding modelRunId first) (secondHolds : 0 < holding modelRunId second) :
    i = j := by
  by_contra different
  have both := add_le_tally (holding modelRunId) firstAt secondAt different
  have most := held.one modelRunId
  rw [Memory.holders] at most
  omega

/-- A tuning run has no training worker. -/
theorem HeldOnce.parent_no_worker {w : World} (held : HeldOnce w) {thread worker : JobThread Body} {k : Nat}
    {task : TuningTask} {pc : TunePc} {call : TrainCall} {point : TrainPc} (member : thread ∈ w.memory.manager.started)
    (tunes : thread.work = .tune task pc) (found : w.memory.manager.started[k]? = some worker)
    (trains : worker.work = .train call point) : call.modelRunId ≠ task.parentRunId := by
  intro same
  obtain ⟨j, present⟩ := List.mem_iff_getElem?.mp member
  have first : 0 < holding task.parentRunId thread := by simp [holding, tunes, Body.held]
  have second : 0 < holding task.parentRunId worker := by simp [holding, trains, Body.held, same]
  have here := held.same_place present found first second
  subst here
  cases present.symm.trans found
  cases tunes.symm.trans trains

/-- No job works on a trial that waits. -/
theorem HeldOnce.waiting_idle {w : World} (held : HeldOnce w) {thread : JobThread Body} {task : TuningTask} {pc : TunePc}
    (member : thread ∈ w.memory.manager.started) (tunes : thread.work = .tune task pc) {trialId : String}
    (waits : trialId ∈ pc.waiting) {k : Nat} {worker : JobThread Body}
    (found : w.memory.manager.started[k]? = some worker) : ¬ worker.work.worksOn trialId := by
  intro works
  obtain ⟨j, present⟩ := List.mem_iff_getElem?.mp member
  have count : 0 < pc.waiting.count trialId := List.count_pos_iff.mpr waits
  have first : 0 < holding trialId thread := by
    rw [holding, tunes, Body.held]
    omega
  have second : 0 < holding trialId worker := by
    cases work : worker.work with
    | train call point =>
      rw [work] at works
      simp [holding, work, Body.held, show call.modelRunId = trialId from works]
    | tune other point =>
      rw [work] at works
      simp [holding, work, Body.held, show other.parentRunId = trialId from works]
    | other =>
      rw [work] at works
      cases works
  -- the two are one thread, and it would hold the id twice
  have here := held.same_place present found first second
  subst here
  cases present.symm.trans found
  rw [tunes] at works
  have twice : 2 ≤ holding trialId thread := by
    rw [holding, tunes, Body.held, if_pos (show task.parentRunId = trialId from works)]
    omega
  have most := held.one trialId
  have within := le_tally (holding trialId) member
  rw [Memory.holders] at most
  omega

end TelemetryLab.Training
