import TelemetryLab.Jobs.SingleUse
import TelemetryLab.Training.Ids

/-! Which stop flags the `DELETE` handlers reach.

A job runs under a name made of a word and an id: `score-`, `train-` or
`tuning-`. The id is what the client gets and sends back. `DELETE /jobs/{id}`
cancels the job named by the bare id, and `DELETE /train/{id}` the one named
`train-{id}`, after the trials of a tuning run. `CancelJob` answers nothing, so
neither handler learns whether there was such a job.
-/

set_option autoImplicit false
namespace TelemetryLab.StopFlags
open Jobs JobManager Training Transition Tally

/-- The steps of the server: those of the training service, and the start of a
score job. -/
inductive Label where
  | training (label : Training.Label)
  | scoreDataset (jobId requestId : String) (threadStarts : Bool)

/-- All other jobs of the manager are score jobs. -/
def step (w : World) : Label → Option World
  | .training (.job (.startJob _ _ _ _)) => none
  | .training label => Training.step w label
  | .scoreDataset jobId requestId threadStarts =>
    Training.step w (.job (.startJob ("score-" ++ jobId) requestId .other threadStarts))

/-- A job runs under the name that goes with its body. -/
def Named (thread : JobThread Body) : Prop :=
  match thread.work with
  | .train call _ => thread.jobId = "train-" ++ call.modelRunId
  | .tune task _ => thread.jobId = "tuning-" ++ task.parentRunId
  | .other => ∃ jobId, thread.jobId = "score-" ++ jobId

def TrainName (name : String) : Prop := ∃ modelRunId, name = "train-" ++ modelRunId

theorem train_ne_tuning (first second : String) : "train-" ++ first ≠ "tuning-" ++ second := by
  intro same
  have letters := congrArg String.toList same
  simp [String.toList_append] at letters

theorem train_ne_score (first second : String) : "train-" ++ first ≠ "score-" ++ second := by
  intro same
  have letters := congrArg String.toList same
  simp [String.toList_append] at letters

theorem ne_score (jobId : String) : jobId ≠ "score-" ++ jobId := by
  intro same
  have length := congrArg String.length same
  simp [String.length_append] at length

/-- Only training workers have a name of theirs. -/
theorem Named.train {thread : JobThread Body} (named : Named thread) {modelRunId : String}
    (name : thread.jobId = "train-" ++ modelRunId) :
    ∃ call pc, thread.work = .train call pc ∧ call.modelRunId = modelRunId := by
  unfold Named at named
  cases work : thread.work with
  | train call pc =>
    rw [work] at named
    exact ⟨call, pc, rfl, (String.append_right_inj "train-").mp (named.symm.trans name)⟩
  | tune task pc =>
    rw [work] at named
    exact absurd (name.symm.trans named) (train_ne_tuning _ _)
  | other =>
    rw [work] at named
    obtain ⟨jobId, score⟩ := named
    exact absurd (name.symm.trans score) (train_ne_score _ _)

/-! ## What every run keeps -/

/-- Names and flags of the threads in some memory. -/
structure Booked (memory : Memory) : Prop where
  named : ∀ (k : Nat) (thread : JobThread Body), memory.manager.started[k]? = some thread → Named thread
  watched : memory.manager.Watched TrainName

theorem Booked.startJob {memory : Memory} (booked : Booked memory) {jobId requestId : String} {body : Body}
    (threadStarts : Bool) (first : FirstUse TrainName memory.manager jobId)
    (named : Named ⟨jobId, requestId, body, memory.manager.flags.length, .body⟩) :
    Booked (memory.startJob jobId requestId body threadStarts).2 where
  named := by
    intro k thread found
    have found : (memory.manager.startJob jobId requestId body threadStarts).2.started[k]? = some thread := found
    rcases startJob_started memory.manager jobId requestId body threadStarts with ⟨same, _⟩ | ⟨grown, _⟩
    · rw [same] at found
      exact booked.named k thread found
    · rw [grown, List.getElem?_append] at found
      split at found
      · exact booked.named k thread found
      · rw [List.getElem?_singleton] at found
        split at found <;> cases found
        exact named
  watched := booked.watched.startJob first

theorem named_setPhase {m : JobManager Body} {k : Nat} {phase : Phase}
    (named : ∀ (j : Nat) (thread : JobThread Body), m.started[j]? = some thread → Named thread) {j : Nat}
    {after : JobThread Body} (found : (m.setPhase k phase).started[j]? = some after) : Named after := by
  rw [setPhase_getElem?] at found
  obtain ⟨before, old, rfl⟩ := Option.map_eq_some_iff.mp found
  have was := named j before old
  split
  · exact was
  · exact was

theorem Booked.advance {Pc : Type} {memory : Memory} (booked : Booked memory) {k : Nat} {thread : JobThread Body}
    (found : memory.manager.started[k]? = some thread) (running : thread.phase = .body) (body : Pc → Body)
    (progress : Progress Pc) (named : ∀ pc, Named { thread with work := body pc }) :
    Booked (memory.advance k body progress) := by
  have moved (phase : Phase) : Booked (memory.withManager (memory.manager.setPhase k phase)) := by
    exact ⟨fun j after present => named_setPhase booked.named present, booked.watched.setPhase found (by simp [running])⟩
  cases progress with
  | returns => exact moved .returned
  | throws what => exact moved (.threw what)
  | goto pc =>
    have origin (j : Nat) (after : JobThread Body)
        (present : (memory.advance k body (.goto pc)).manager.started[j]? = some after) :
        ∃ before, memory.manager.started[j]? = some before ∧
          after = if k = j then { before with work := body pc } else before := by
      simp only [Memory.advance, Memory.setWork, Memory.withManager, Memory.manager, List.getElem?_modify] at present
      obtain ⟨before, old, rfl⟩ := Option.map_eq_some_iff.mp present
      exact ⟨before, old, rfl⟩
    constructor
    · intro j after present
      obtain ⟨before, old, rfl⟩ := origin j after present
      split
      next here =>
        subst here
        cases old.symm.trans found
        exact named pc
      · exact booked.named j before old
    · refine booked.watched.threads rfl rfl fun j after present => ?_
      obtain ⟨before, old, rfl⟩ := origin j after present
      refine ⟨before, old, ?_, ?_, fun _ alive => ⟨?_, fun recorded => recorded⟩⟩
      · split <;> rfl
      · split <;> rfl
      · split at alive <;> exact alive

structure Kept (w : World) : Prop where
  held : HeldOnce w
  booked : Booked w.memory

theorem init_kept : Kept .init where
  held := init_heldOnce
  booked :=
    { named := fun _ _ found => by cases found
      watched := init_watched }

theorem firstUse_other {m : JobManager Body} {name : String} (other : ¬ TrainName name) :
    FirstUse TrainName m name :=
  fun train => absurd train other

/-- An id held elsewhere has no worker yet. -/
theorem Kept.firstUse {w : World} (kept : Kept w) {modelRunId : String}
    (elsewhere : ∀ (k : Nat) (thread : JobThread Body) (call : TrainCall) (pc : TrainPc),
      w.memory.manager.started[k]? = some thread → thread.work = .train call pc → call.modelRunId = modelRunId →
        1 < w.memory.holders modelRunId) :
    FirstUse TrainName w.memory.manager ("train-" ++ modelRunId) := by
  intro _ k thread found name
  obtain ⟨call, pc, work, own⟩ := (kept.booked.named k thread found).train name
  have two := elsewhere k thread call pc found work own
  exact absurd (kept.held.one modelRunId) (Nat.not_le.mpr two)

theorem Kept.firstUse_post {w : World} (kept : Kept w) {i : Nat} {post : Post} (found : w.memory.posts[i]? = some post) :
    FirstUse TrainName w.memory.manager post.jobId := by
  cases post with
  | tune task => exact firstUse_other fun ⟨_, name⟩ => train_ne_tuning _ _ name.symm
  | train call =>
    refine kept.firstUse fun k thread other pc present work own => ?_
    have outside := le_tally (Post.held call.modelRunId) (List.mem_of_getElem? found)
    have inside := le_tally (holding call.modelRunId) (List.mem_of_getElem? present)
    simp only [Post.held, holding, work, Body.held, own, if_true] at outside inside
    rw [Memory.holders]
    omega

theorem Kept.firstUse_dispatch {w : World} (kept : Kept w) {k : Nat} {thread : JobThread Body} {task : TuningTask}
    {pc admitted : TunePc} {call : TrainCall} (found : w.memory.manager.started[k]? = some thread)
    (was : thread.work = .tune task pc) (waiting : pc.waiting = call.modelRunId :: admitted.waiting) :
    FirstUse TrainName w.memory.manager ("train-" ++ call.modelRunId) := by
  refine kept.firstUse fun j worker other point present work own => ?_
  have apart : k ≠ j := by
    rintro rfl
    cases found.symm.trans present
    cases work.symm.trans was
  have both := add_le_tally (holding call.modelRunId) found present apart
  simp only [holding, was, work, Body.held, own, if_true, waiting, List.count_cons_self] at both
  exact Nat.lt_of_lt_of_le (by omega) (both.trans (Nat.le_add_left _ _))

theorem Post.named (post : Post) (flag : Nat) : Named ⟨post.jobId, post.requestId, post.body, flag, .body⟩ := by
  cases post <;> rfl

/-- Other jobs are started under the name of a score job. -/
def ScoreNamed : Training.Label → Prop
  | .job (.startJob name _ _ _) => ∃ jobId, name = "score-" ++ jobId
  | _ => True

theorem postStart_booked {w : World} (kept : Kept w) {i : Nat} {threadStarts : Bool} {statement : Statement}
    {memory : Memory} (acted : act w (.postStart i threadStarts) = some (statement, memory)) : Booked memory := by
  simp only [act] at acted
  split at acted <;> cases acted
  next post found =>
    have started := kept.booked.startJob threadStarts (kept.firstUse_post found) (Post.named post _)
    exact ⟨started.named, started.watched⟩

theorem stepLive_booked {w : World} (kept : Kept w) {label : Jobs.Label Body} {jobs : Jobs.World Body}
    (score : ScoreNamed (.job label)) (allowed : foreign w.memory label = true)
    (taken : stepLive w.memory.jobs label = some jobs) : Booked { w.memory with jobs } := by
  have booked := kept.booked
  have first (name requestId : String) (body : Body) (threadStarts : Bool)
      (here : label = .startJob name requestId body threadStarts) : FirstUse TrainName w.memory.manager name := by
    subst here
    obtain ⟨jobId, rfl⟩ := score
    exact firstUse_other fun ⟨_, name⟩ => train_ne_score _ _ name.symm
  refine ⟨fun k thread found => ?_, booked.watched.stepLive first taken⟩
  have change := stepLive_manager taken
  have found : jobs.manager.started[k]? = some thread := found
  generalize jobs.manager = manager at change found
  cases change with
  | startJob name requestId body threadStarts =>
    have other : body = .other := of_decide_eq_true allowed
    subst other
    have named : Named ⟨name, requestId, .other, w.memory.manager.flags.length, .body⟩ := score
    exact (booked.startJob threadStarts (first name requestId .other threadStarts rfl) named).named k thread found
  | left _ j phase _ => exact named_setPhase booked.named found
  | finalSection =>
    exact named_setPhase booked.named found
  | cancelJob name => exact booked.named k thread (w.memory.jobs.manager.cancelJob_started name ▸ found)
  | stopSection => exact booked.named k thread found
  | aside _ _ started _ => exact booked.named k thread (started ▸ found)

theorem act_booked {w : World} (kept : Kept w) {label : Training.Label} {statement : Statement} {memory : Memory}
    (score : ScoreNamed label) (acted : act w label = some (statement, memory)) : Booked memory := by
  have booked := kept.booked
  cases act_acts acted with
  | tick => exact booked
  | reconcile staleTtl => exact booked
  | post id request draws fresh => exact ⟨booked.named, booked.watched⟩
  | delete id call opened => exact ⟨booked.named, booked.watched⟩
  | postStart i threadStarts post posts => exact postStart_booked kept acted
  | deleteStep i stored call action found ran =>
    refine ⟨fun k thread present => booked.named k thread ?_, ?_⟩
    · exact (w.memory.cancelling_started action.cancelJob) ▸ present
    · cases cancels : action.cancelJob with
      | none => exact booked.watched
      | some jobId => exact booked.watched.cancelJob jobId
  | trained k event thread call pc _ progress found running was ran =>
    refine booked.advance found running (.train call) progress fun pc => ?_
    have named := booked.named k thread found
    rw [Named, was] at named
    exact named
  | tuned k event thread task pc _ progress found running was ran =>
    refine booked.advance found running (.tune task) progress fun pc => ?_
    have named := booked.named k thread found
    rw [Named, was] at named
    exact named
  | dispatched k event thread task pc admitted call threadStarts found running was ran =>
    have first := kept.firstUse_dispatch found was (tuneStep_dispatched_waiting ran)
    have started : Booked (w.memory.runPcaTraining call threadStarts).2 := booked.startJob threadStarts first rfl
    have still : (w.memory.runPcaTraining call threadStarts).2.manager.started[k]? = some thread := startJob_getElem? found
    have named : ∀ pc, Named { thread with work := .tune task pc } := by
      have named := booked.named k thread found
      rw [Named, was] at named
      exact fun _ => named
    obtain ⟨progress, same⟩ := dispatch_advance w.memory k task call threadStarts admitted
    rw [same]
    exact started.advance still running (.tune task) progress named
  | job label jobs allowed taken => exact stepLive_booked kept score allowed taken

theorem step_kept {w next : World} {label : Label} (kept : Kept w) (taken : step w label = some next) : Kept next := by
  have training {inner : Training.Label} (score : ScoreNamed inner) (taken : Training.step w inner = some next) :
      Kept next := by
    refine ⟨step_heldOnce kept.held taken, ?_⟩
    obtain ⟨⟨statement, memory⟩, acted, rfl⟩ := Training.step_eq_some taken
    exact act_booked kept score acted
  cases label with
  | scoreDataset jobId requestId threadStarts =>
    have score : ScoreNamed (.job (.startJob ("score-" ++ jobId) requestId .other threadStarts)) := ⟨jobId, rfl⟩
    exact training score taken
  | training inner =>
    unfold step at taken
    split at taken
    next => cases taken
    next other same =>
      cases same
      refine training ?_ taken
      unfold ScoreNamed
      split
      next name requestId body threadStarts => exact absurd rfl (other name requestId body threadStarts)
      next => trivial
    next same => cases same

theorem kept_of_run {schedule : List Label} {w : World} (run : exec step .init schedule = some w) : Kept w :=
  (states_of_invariant (fun _ _ _ => step_kept) schedule init_kept).exec run

/-! ## The handlers -/

/-- The names of the trials that are cancelled with their parent. -/
def trialNames (trials : List (String × JobState)) : List String :=
  (trials.filter fun trial => decide (trial.2 = .pending) || decide (trial.2 = .running)).map fun trial =>
    "train-" ++ trial.1

/-- The names a handler is still going to cancel, once it has read the trials. -/
def remaining (call : DeleteCall) : List String :=
  match call.pc with
  | .trials rest | .updateTrial _ rest | .markTrial _ rest => trialNames rest ++ ["train-" ++ call.modelRunId]
  | .snapshot | .cancelSelf => ["train-" ++ call.modelRunId]
  | .updateSelf | .answering | .answered => []

theorem deleteStep_remaining {runs : Runs} {stored : Bool} {call : DeleteCall} {action : DeleteAction}
    (ran : deleteStep runs stored call = some action) (read : call.pc ≠ .snapshot) :
    remaining call = action.cancelJob.toList ++ remaining { call with pc := action.pc } ∧ action.pc ≠ .snapshot := by
  obtain ⟨modelRunId, pc⟩ := call
  cases pc with
  | snapshot => exact absurd rfl read
  | trials rest =>
    cases rest with
    | nil =>
      cases ran
      exact ⟨rfl, by simp⟩
    | cons trial rest =>
      obtain ⟨trialId, status⟩ := trial
      simp only [deleteStep] at ran
      split at ran <;> cases ran
      next live => exact ⟨by simp [remaining, trialNames, live], by simp⟩
      next ended => exact ⟨by simp [remaining, trialNames, ended], by simp⟩
  | updateTrial trialId rest | markTrial trialId rest =>
    cases ran
    exact ⟨rfl, by simp⟩
  | cancelSelf | updateSelf | answering =>
    cases ran
    exact ⟨rfl, by simp⟩
  | answered => cases ran

/-- One step of a handler: what it cancels, and where it goes. -/
theorem handler_step {w next : World} {i : Nat} {stored : Bool} {call : DeleteCall}
    (found : w.memory.deletes[i]? = some call) (taken : Training.step w (.deleteStep i stored) = some next) :
    ∃ action, deleteStep w.runs stored call = some action ∧
      next.memory.manager = action.cancelJob.toList.foldl JobManager.cancelJob w.memory.manager ∧
      next.memory.deletes[i]? = some { call with pc := action.pc } := by
  obtain ⟨⟨statement, memory⟩, acted, rfl⟩ := Training.step_eq_some taken
  cases act_acts acted with
  | deleteStep _ _ other action present ran =>
    cases found.symm.trans present
    refine ⟨action, ran, ?_, ?_⟩
    · cases action with
      | mk statement cancelJob pc => cases cancelJob <;> rfl
    · exact List.getElem?_set_self (List.getElem?_eq_some_iff.mp found).1

theorem handler_manager {w after : World} {i : Nat} {answers : List Bool} {call : DeleteCall} {modelRunId : String}
    (found : w.memory.deletes[i]? = some call) (read : call.pc ≠ .snapshot)
    (run : exec Training.step w (answers.map (.deleteStep i)) = some after)
    (answered : after.memory.deletes[i]? = some ⟨modelRunId, .answered⟩) :
    after.memory.manager = (remaining call).foldl JobManager.cancelJob w.memory.manager := by
  induction answers generalizing w call with
  | nil =>
    cases run
    cases found.symm.trans answered
    rfl
  | cons stored rest ih =>
    obtain ⟨next, taken, run⟩ := Option.bind_eq_some_iff.mp run
    obtain ⟨action, ran, manager, there⟩ := handler_step found taken
    obtain ⟨names, onward⟩ := deleteStep_remaining ran read
    rw [ih there onward run, names, List.foldl_append, manager]

/-- Which of its reads a handler manages. A failed read of the row is an empty one, and
one of the trials an empty list. -/
structure Reads where
  row : Bool
  trials : Bool

/-- The names a `DELETE /train/{modelRunId}` cancels. -/
def cancels (runs : Runs) (modelRunId : String) (reads : Reads) : List String :=
  if !reads.row then []
  else
    match runs.lookup modelRunId with
    | some row =>
      if row.status.isTerminal then []
      else (if row.hpoConfig && reads.trials then trialNames (getHpoTrials runs modelRunId) else []) ++
        ["train-" ++ modelRunId]
    | none => []

theorem openDelete_eq_none {runs : Runs} {modelRunId : String} (refused : openDelete runs modelRunId = none)
    (reads : Reads) : cancels runs modelRunId reads = [] := by
  unfold openDelete at refused
  cases found : runs.lookup modelRunId with
  | none => simp [cancels, found]
  | some row =>
    cases ended : row.status.isTerminal with
    | true => simp [cancels, found, ended]
    | false => simp [found, ended] at refused

theorem openDelete_eq_some {runs : Runs} {modelRunId : String} {call : DeleteCall}
    (accepted : openDelete runs modelRunId = some call) :
    ∃ row, runs.lookup modelRunId = some row ∧ row.status.isTerminal = false ∧
      call = ⟨modelRunId, if row.hpoConfig then .snapshot else .cancelSelf⟩ := by
  unfold openDelete at accepted
  cases found : runs.lookup modelRunId with
  | none => simp [found] at accepted
  | some row =>
    cases ended : row.status.isTerminal with
    | true => simp [found, ended] at accepted
    | false => exact ⟨row, rfl, ended, by simpa [found, ended] using accepted.symm⟩

theorem delete_opens {w opened : World} {modelRunId : String}
    (taken : Training.step w (.delete modelRunId) = some opened) :
    ∃ row, w.runs.lookup modelRunId = some row ∧ row.status.isTerminal = false ∧
      opened.memory.deletes[w.memory.deletes.length]? =
        some ⟨modelRunId, if row.hpoConfig then .snapshot else .cancelSelf⟩ ∧
      opened.memory.manager = w.memory.manager ∧ opened.runs = w.runs := by
  obtain ⟨⟨statement, memory⟩, acted, rfl⟩ := Training.step_eq_some taken
  obtain ⟨call, accepted, same⟩ := Option.map_eq_some_iff.mp acted
  cases same
  obtain ⟨row, present, alive, rfl⟩ := openDelete_eq_some accepted
  exact ⟨row, present, alive, List.getElem?_concat_length, rfl, rfl⟩

/-- The handler of `DELETE /train/{modelRunId}`, with nothing in between. -/
theorem handled_manager {w after : World} {modelRunId : String} {reads : Reads} {answers : List Bool}
    (row : reads.row = true) (run : exec Training.step w (.delete modelRunId ::
      (reads.trials :: answers).map (.deleteStep w.memory.deletes.length)) = some after)
    (answered : after.memory.deletes[w.memory.deletes.length]? = some ⟨modelRunId, .answered⟩) :
    after.memory.manager = (cancels w.runs modelRunId reads).foldl JobManager.cancelJob w.memory.manager := by
  obtain ⟨rowRead, read⟩ := reads
  cases row
  obtain ⟨opened, taken, run⟩ := Option.bind_eq_some_iff.mp run
  obtain ⟨row, present, alive, found, manager, runs⟩ := delete_opens taken
  cases tuning : row.hpoConfig with
  | false =>
    rw [tuning] at found
    have past : (⟨modelRunId, .cancelSelf⟩ : DeleteCall).pc ≠ .snapshot := by simp
    rw [handler_manager found past run answered, manager]
    simp [remaining, cancels, present, alive, tuning]
  | true =>
    -- the first step of the handler reads the trials
    rw [tuning] at found
    obtain ⟨next, moved, run⟩ := Option.bind_eq_some_iff.mp run
    obtain ⟨action, ran, kept, there⟩ := handler_step found moved
    cases ran
    rw [handler_manager there (fun same => by cases same) run answered, kept, manager, runs]
    cases read <;> simp [remaining, cancels, present, alive, tuning, trialNames]

/-- Cancelling by name, one name after the other. -/
theorem cancelAll_flag {m : JobManager Body} (names : List String) (watched : m.Watched TrainName) {k : Nat}
    {thread : JobThread Body} (found : m.started[k]? = some thread)
    (reached : thread.jobId ∈ names → TrainName thread.jobId ∧ thread.phase ≠ .finished) :
    (names.foldl JobManager.cancelJob m).flagSet thread.flag = (m.flagSet thread.flag || decide (thread.jobId ∈ names)) := by
  induction names generalizing m with
  | nil => simp
  | cons name rest ih =>
    have present : (m.cancelJob name).started[k]? = some thread := (m.cancelJob_started name).symm ▸ found
    rw [List.foldl_cons, ih (watched.cancelJob name) present fun later => reached (List.mem_cons_of_mem _ later)]
    by_cases here : name = thread.jobId
    · subst here
      obtain ⟨train, alive⟩ := reached List.mem_cons_self
      rw [watched.cancelJob_self found train alive]
      simp
    · rw [watched.cancelJob_other found here]
      simp [Ne.symm here]

/-- A job that is not named keeps its flag. -/
theorem cancelAll_flag_other {m : JobManager Body} {names : List String} (watched : m.Watched TrainName) {k : Nat}
    {thread : JobThread Body} (found : m.started[k]? = some thread) (outside : thread.jobId ∉ names) :
    (names.foldl JobManager.cancelJob m).flagSet thread.flag = m.flagSet thread.flag := by
  rw [cancelAll_flag names watched found fun member => absurd member outside]
  simp only [outside, decide_false, Bool.or_false]

/-! ## Which jobs are reached -/

/-- The id of the run that a training or tuning job works on. -/
def runId : Body → Option String
  | .train call _ => some call.modelRunId
  | .tune task _ => some task.parentRunId
  | .other => none

/-- `after` is the state in which the request to delete the job of this thread
has been answered. The request carries the id that the client was given. -/
inductive Deleted (w : World) (thread : JobThread Body) (reads : Reads) : World → Prop
  | score {jobId : String} {after : World} (work : thread.work = .other) (name : thread.jobId = "score-" ++ jobId)
      (ran : Training.step w (.job (.cancelJob jobId)) = some after) : Deleted w thread reads after
  -- a row that cannot be read is answered with 404, as a missing one
  | unread {modelRunId : String} (own : runId thread.work = some modelRunId) (row : reads.row = false) :
      Deleted w thread reads w
  -- 404 or 400
  | refused {modelRunId : String} (own : runId thread.work = some modelRunId) (row : reads.row = true)
      (refused : openDelete w.runs modelRunId = none) : Deleted w thread reads w
  | handled {modelRunId : String} {answers : List Bool} {after : World} (own : runId thread.work = some modelRunId)
      (row : reads.row = true) (run : exec Training.step w (.delete modelRunId ::
        (reads.trials :: answers).map (.deleteStep w.memory.deletes.length)) = some after)
      (answered : after.memory.deletes[w.memory.deletes.length]? = some ⟨modelRunId, .answered⟩) :
      Deleted w thread reads after

/-- A trial of the tuning run that has been given to a worker. -/
def TrialOf (w : World) (task : TuningTask) (trial : JobThread Body) : Prop :=
  ∃ call pc row, trial.work = .train call pc ∧ w.runs.lookup call.modelRunId = some row ∧
    row.parentRunId = some task.parentRunId

/-- The job has been told to stop; for a tuning run its unfinished trials as well. -/
def Reaches (w after : World) (thread : JobThread Body) : Prop :=
  after.memory.manager.flagSet thread.flag = true ∧
    ∀ task pc, thread.work = .tune task pc → ∀ (k : Nat) (trial : JobThread Body),
      w.memory.manager.started[k]? = some trial → trial.phase ≠ .finished → TrialOf w task trial →
        after.memory.manager.flagSet trial.flag = true

/-- The handler goes on to cancel: the run exists and is not terminal. -/
def Accepted (w : World) (modelRunId : String) : Prop :=
  ∃ row, w.runs.lookup modelRunId = some row ∧ row.status.isTerminal = false

/-- The handler finds the trial among the live trials of its parent. -/
def Listed (w : World) (task : TuningTask) (trial : JobThread Body) : Prop :=
  (∃ row, w.runs.lookup task.parentRunId = some row ∧ row.status.isTerminal = false ∧ row.hpoConfig = true) ∧
    ∃ call pc status, trial.work = .train call pc ∧
      (call.modelRunId, status) ∈ getHpoTrials w.runs task.parentRunId ∧ (status = .pending ∨ status = .running)

/-- When the request reaches its job. A training run is reached unless its row is
terminal or cannot be read. A score job and an orchestrator are not reached: their flags must have
been set before. -/
def Reachable (w : World) (reads : Reads) (thread : JobThread Body) : Prop :=
  match thread.work with
  | .train call _ => w.memory.manager.flagSet thread.flag = true ∨ (reads.row = true ∧ Accepted w call.modelRunId)
  | .tune task _ => w.memory.manager.flagSet thread.flag = true ∧
      ∀ (k : Nat) (trial : JobThread Body), w.memory.manager.started[k]? = some trial → trial.phase ≠ .finished →
        TrialOf w task trial → w.memory.manager.flagSet trial.flag = true ∨
          (reads.row = true ∧ reads.trials = true ∧ Listed w task trial)
  | .other => w.memory.manager.flagSet thread.flag = true

theorem mem_trialNames {trials : List (String × JobState)} {trialId : String} :
    "train-" ++ trialId ∈ trialNames trials ↔
      ∃ status, (trialId, status) ∈ trials ∧ (status = .pending ∨ status = .running) := by
  unfold trialNames
  simp only [List.mem_map, List.mem_filter, Bool.or_eq_true, decide_eq_true_eq, Prod.exists, String.append_right_inj]
  constructor
  · rintro ⟨id, status, ⟨member, live⟩, rfl⟩
    exact ⟨status, member, live⟩
  · rintro ⟨status, member, live⟩
    exact ⟨trialId, status, ⟨member, live⟩, rfl⟩

theorem train_of_mem_cancels {runs : Runs} {modelRunId name : String} {reads : Reads}
    (member : name ∈ cancels runs modelRunId reads) : TrainName name := by
  unfold cancels at member
  split at member
  · cases member
  split at member
  · split at member
    · cases member
    · rcases List.mem_append.mp member with trial | self
      · split at trial
        · obtain ⟨entry, _, rfl⟩ := List.mem_map.mp trial
          exact ⟨entry.1, rfl⟩
        · cases trial
      · exact ⟨modelRunId, List.mem_singleton.mp self⟩
  · cases member

theorem self_mem_cancels {w : World} {modelRunId : String} {reads : Reads} :
    "train-" ++ modelRunId ∈ cancels w.runs modelRunId reads ↔ reads.row = true ∧ Accepted w modelRunId := by
  unfold cancels Accepted
  cases reads.row with
  | false => simp
  | true =>
    cases found : w.runs.lookup modelRunId with
    | none => simp
    | some row => cases ended : row.status.isTerminal <;> simp [ended]

theorem trial_mem_cancels {w : World} {task : TuningTask} {reads : Reads} {trial : JobThread Body} {call : TrainCall}
    {pc : TrainPc} (work : trial.work = .train call pc) (other : call.modelRunId ≠ task.parentRunId) :
    "train-" ++ call.modelRunId ∈ cancels w.runs task.parentRunId reads ↔
      reads.row = true ∧ reads.trials = true ∧ Listed w task trial := by
  unfold cancels Listed
  cases reads.row with
  | false => simp
  | true =>
    cases found : w.runs.lookup task.parentRunId with
    | none => simp
    | some row =>
      cases ended : row.status.isTerminal <;> cases tuning : row.hpoConfig <;> cases reads.trials <;>
        simp [ended, tuning, work, other, mem_trialNames]

/-- What the request cancels. -/
theorem Deleted.manager {w after : World} {thread : JobThread Body} {reads : Reads}
    (deleted : Deleted w thread reads after) :
    ∃ names, after.memory.manager = names.foldl JobManager.cancelJob w.memory.manager ∧
      match runId thread.work with
      | some modelRunId => names = cancels w.runs modelRunId reads
      | none => ∃ jobId, names = [jobId] ∧ thread.jobId = "score-" ++ jobId := by
  cases deleted with
  | score work name ran =>
    obtain ⟨⟨statement, memory⟩, acted, rfl⟩ := Training.step_eq_some ran
    cases acted
    rw [work]
    exact ⟨[_], rfl, _, rfl, name⟩
  | unread own row =>
    rw [own]
    exact ⟨[], rfl, by simp [cancels, row]⟩
  | refused own row refused =>
    rw [own]
    exact ⟨[], rfl, (openDelete_eq_none refused reads).symm⟩
  | handled own row run answered =>
    rw [own]
    exact ⟨_, handled_manager row run answered, rfl⟩

/-- The request of a tuning run sets the flags of the trials that it lists. -/
theorem trial_reached_iff {w : World} (kept : Kept w) {k : Nat} {thread : JobThread Body}
    (found : w.memory.manager.started[k]? = some thread) {task : TuningTask} {pc : TunePc}
    (work : thread.work = .tune task pc) (reads : Reads) {j : Nat} {trial : JobThread Body}
    (present : w.memory.manager.started[j]? = some trial) (running : trial.phase ≠ .finished)
    (dispatched : TrialOf w task trial) :
    ((cancels w.runs task.parentRunId reads).foldl JobManager.cancelJob w.memory.manager).flagSet trial.flag = true ↔
      w.memory.manager.flagSet trial.flag = true ∨ (reads.row = true ∧ reads.trials = true ∧ Listed w task trial) := by
  obtain ⟨call, point, row, trains, _, _⟩ := dispatched
  have name : trial.jobId = "train-" ++ call.modelRunId := by
    have named := kept.booked.named j trial present
    rw [Named, trains] at named
    exact named
  have own := cancelAll_flag (cancels w.runs task.parentRunId reads) kept.booked.watched present
    fun _ => ⟨⟨_, name⟩, running⟩
  rw [name] at own
  rw [own, Bool.or_eq_true, decide_eq_true_eq,
    trial_mem_cancels trains (kept.held.parent_no_worker (List.mem_of_getElem? found) work present trains)]

theorem reaches_iff {w after : World} (kept : Kept w) {k : Nat} {thread : JobThread Body} {reads : Reads}
    (found : w.memory.manager.started[k]? = some thread) (alive : thread.phase ≠ .finished)
    (deleted : Deleted w thread reads after) : Reaches w after thread ↔ Reachable w reads thread := by
  obtain ⟨names, manager, which⟩ := deleted.manager
  have watched := kept.booked.watched
  have named := kept.booked.named k thread found
  unfold Reaches Reachable Named at *
  cases work : thread.work with
  | train call pc =>
    rw [work] at which named
    subst which
    have flag := cancelAll_flag (cancels w.runs call.modelRunId reads) watched found
      fun _ => ⟨⟨_, named⟩, alive⟩
    rw [named] at flag
    simp [manager, flag, self_mem_cancels]
  | other =>
    rw [work] at which
    obtain ⟨jobId, rfl, name⟩ := which
    have outside : thread.jobId ∉ [jobId] := by
      rw [name, List.mem_singleton]
      exact (ne_score jobId).symm
    have flag := cancelAll_flag_other watched found outside
    rw [← manager] at flag
    simp [flag]
  | tune task pc =>
    rw [work] at which named
    subst which
    -- the request names trainings, and never the tuning itself
    have outside : thread.jobId ∉ cancels w.runs task.parentRunId reads := by
      intro member
      obtain ⟨modelRunId, name⟩ := train_of_mem_cancels member
      exact train_ne_tuning _ _ (name.symm.trans named)
    have flag := cancelAll_flag_other watched found outside
    rw [← manager] at flag
    rw [flag]
    refine and_congr_right fun _ => ?_
    rw [manager]
    constructor
    · intro reached j trial present running dispatched
      exact (trial_reached_iff kept found work reads present running dispatched).mp
        (reached task pc rfl j trial present running dispatched)
    · rintro listed _ _ ⟨⟩ j trial present running dispatched
      exact (trial_reached_iff kept found work reads present running dispatched).mpr
        (listed j trial present running dispatched)

/-! ## Every request is answered -/

/-- How far a handler is from its answer. -/
def distance : DeletePc → Nat
  | .trials rest => 3 * rest.length + 4
  | .updateTrial _ rest => 3 * rest.length + 6
  | .markTrial _ rest => 3 * rest.length + 5
  | .snapshot | .answered => 0
  | .cancelSelf => 3
  | .updateSelf => 2
  | .answering => 1

theorem deleteStep_closer {call : DeleteCall} (read : call.pc ≠ .snapshot) (unanswered : call.pc ≠ .answered)
    (runs : Runs) (stored : Bool) :
    ∃ action, deleteStep runs stored call = some action ∧ distance action.pc < distance call.pc := by
  obtain ⟨modelRunId, pc⟩ := call
  cases pc with
  | snapshot => exact absurd rfl read
  | answered => exact absurd rfl unanswered
  | trials rest =>
    cases rest with
    | nil => exact ⟨_, rfl, by simp [distance]⟩
    | cons trial rest =>
      obtain ⟨trialId, status⟩ := trial
      simp only [deleteStep]
      split
      · exact ⟨_, rfl, by simp only [distance, List.length_cons]; omega⟩
      · exact ⟨_, rfl, by simp only [distance, List.length_cons]; omega⟩
  | updateTrial trialId rest | markTrial trialId rest => exact ⟨_, rfl, by simp [distance]⟩
  | cancelSelf | updateSelf | answering => exact ⟨_, rfl, by simp [distance]⟩

theorem handler_moves {w : World} (live : w.memory.jobs.terminated = false) {i : Nat} {stored : Bool} {call : DeleteCall}
    {action : DeleteAction} (found : w.memory.deletes[i]? = some call)
    (ran : deleteStep w.runs stored call = some action) :
    ∃ next, Training.step w (.deleteStep i stored) = some next ∧ next.memory.jobs.terminated = false ∧
      next.memory.deletes[i]? = some { call with pc := action.pc } := by
  have inside := (List.getElem?_eq_some_iff.mp found).1
  unfold Training.step
  simp only [live, act, found, ran, Option.map_some]
  refine ⟨_, rfl, live, ?_⟩
  exact List.getElem?_set_self inside

theorem handler_ends {w : World} (live : w.memory.jobs.terminated = false) {i : Nat} {call : DeleteCall}
    (found : w.memory.deletes[i]? = some call) (read : call.pc ≠ .snapshot) :
    ∃ (answers : List Bool) (after : World), exec Training.step w (answers.map (.deleteStep i)) = some after ∧
      after.memory.deletes[i]? = some ⟨call.modelRunId, .answered⟩ := by
  -- every step of the handler brings it closer to its answer
  induction far : distance call.pc using Nat.strong_induction_on generalizing w call with
  | _ n ih =>
    by_cases answered : call.pc = .answered
    · exact ⟨[], w, rfl, by rw [found, ← answered]⟩
    · obtain ⟨action, ran, closer⟩ := deleteStep_closer read answered w.runs true
      obtain ⟨next, taken, living, there⟩ := handler_moves live found ran
      have past := (deleteStep_remaining ran read).2
      obtain ⟨answers, after, run, ended⟩ := ih (distance action.pc) (far ▸ closer) living there past rfl
      exact ⟨true :: answers, after, by simpa only [List.map_cons, exec, taken, Option.bind_some] using run, ended⟩

theorem delete_answered {w : World} (live : w.memory.jobs.terminated = false) {modelRunId : String} {call : DeleteCall}
    (accepted : openDelete w.runs modelRunId = some call) (read : Bool) :
    ∃ answers after, exec Training.step w (.delete modelRunId ::
        (read :: answers).map (.deleteStep w.memory.deletes.length)) = some after ∧
      after.memory.deletes[w.memory.deletes.length]? = some ⟨modelRunId, .answered⟩ := by
  obtain ⟨row, _, _, rfl⟩ := openDelete_eq_some accepted
  have opens : ∃ opened, Training.step w (.delete modelRunId) = some opened ∧ opened.memory.jobs.terminated = false ∧
      opened.memory.deletes[w.memory.deletes.length]? =
        some ⟨modelRunId, if row.hpoConfig then .snapshot else .cancelSelf⟩ := by
    unfold Training.step
    simp only [live, act, accepted, Option.map_some]
    exact ⟨_, rfl, live, List.getElem?_concat_length⟩
  obtain ⟨opened, taken, living, found⟩ := opens
  -- the first step reads the trials, or is the cancellation itself
  have first : ∃ action, deleteStep opened.runs read ⟨modelRunId, if row.hpoConfig then .snapshot else .cancelSelf⟩ =
      some action ∧ action.pc ≠ .snapshot := by
    cases row.hpoConfig
    · exact ⟨_, rfl, by simp⟩
    · exact ⟨_, rfl, by simp⟩
  obtain ⟨action, ran, past⟩ := first
  obtain ⟨next, moved, alive, there⟩ := handler_moves living found ran
  obtain ⟨answers, after, run, answered⟩ := handler_ends alive there past
  refine ⟨answers, after, ?_, answered⟩
  simpa only [List.map_cons, exec, taken, moved, Option.bind_some] using run

theorem Deleted.exists {w : World} (kept : Kept w) (live : w.memory.jobs.terminated = false) {k : Nat}
    {thread : JobThread Body} (found : w.memory.manager.started[k]? = some thread) (reads : Reads) :
    ∃ after, Deleted w thread reads after := by
  have named := kept.booked.named k thread found
  unfold Named at named
  cases own : runId thread.work with
  | none =>
    cases work : thread.work with
    | other =>
      rw [work] at named
      obtain ⟨jobId, name⟩ := named
      have ran : ∃ after, Training.step w (.job (.cancelJob jobId)) = some after := by
        unfold Training.step
        simp only [live, act, foreign]
        exact ⟨_, rfl⟩
      obtain ⟨after, ran⟩ := ran
      exact ⟨after, .score work name ran⟩
    | train call pc => simp [work, runId] at own
    | tune task pc => simp [work, runId] at own
  | some modelRunId =>
    cases row : reads.row with
    | false => exact ⟨w, .unread own row⟩
    | true =>
      cases opened : openDelete w.runs modelRunId with
      | none => exact ⟨w, .refused own row opened⟩
      | some call =>
        obtain ⟨answers, after, run, answered⟩ := delete_answered live opened reads.trials
        exact ⟨after, .handled own row run answered⟩

/-- After any history, the request to delete a job that has not finished is
answered, and it has reached the job if and only if the job is `Reachable`. -/
theorem delete_reaches_iff {schedule : List Label} {w : World} (run : exec step .init schedule = some w)
    (live : w.memory.jobs.terminated = false) {k : Nat} {thread : JobThread Body}
    (found : w.memory.manager.started[k]? = some thread) (alive : thread.phase ≠ .finished) (reads : Reads) :
    (∃ after, Deleted w thread reads after) ∧
      ∀ after, Deleted w thread reads after → (Reaches w after thread ↔ Reachable w reads thread) := by
  have kept := kept_of_run run
  refine ⟨Deleted.exists kept live found reads, fun after deleted => ?_⟩
  exact reaches_iff kept found alive deleted

/-- A single training run, up to the start of its worker. -/
def trainingStarted : List Label :=
  [.training (.post "m" ⟨"r", "d", "pca_default", 3, 99, none⟩ fun _ => (0, 0)), .training (.postStart 0 true)]

theorem delete_reaches_trainingStarted :
    ∃ w thread after, exec step .init trainingStarted = some w ∧ w.memory.manager.started[0]? = some thread ∧
      Deleted w thread ⟨true, true⟩ after ∧ Reaches w after thread := by
  have facts : (exec step .init trainingStarted).map (fun w => (w.memory.jobs.terminated,
      (w.memory.manager.started[0]?).map fun thread => (thread.work, thread.phase),
      (w.runs.lookup "m").map (·.status))) =
        some (false, some (.train ⟨"m", ⟨"d", 3, 99⟩, "r"⟩ .transition, .body), some .pending) := by decide +kernel
  obtain ⟨w, run, same⟩ := Option.map_eq_some_iff.mp facts
  simp only [Prod.mk.injEq, Option.map_eq_some_iff] at same
  obtain ⟨live, ⟨thread, found, work, phase⟩, row, present, pending⟩ := same
  obtain ⟨⟨after, deleted⟩, reached⟩ := delete_reaches_iff run live found (by simp [phase]) ⟨true, true⟩
  refine ⟨w, thread, after, run, found, deleted, (reached after deleted).mpr ?_⟩
  rw [Reachable, work]
  exact .inr ⟨rfl, row, present, by rw [pending]; rfl⟩

/-- A score job that runs, and the answer to the request to delete it. -/
theorem score_job_not_reached :
    ∃ w thread after, exec step .init [.scoreDataset "j" "r" true] = some w ∧
      w.memory.manager.started[0]? = some thread ∧ thread.phase = .body ∧ Deleted w thread ⟨true, true⟩ after ∧
      ¬ Reaches w after thread := by
  refine ⟨_, _, _, rfl, rfl, rfl, .score rfl rfl rfl, ?_⟩
  intro reached
  exact absurd reached.1 (by decide +kernel)

end TelemetryLab.StopFlags
