import TelemetryLab.Training.Ids

/-! When an orchestrator leaves no trial behind.

The trials before `next_trial` have been handed to a worker, so an orchestrator
that leaves its loops normally leaves none behind. Four branches leave them
early: an exception of `CreateHpoTrialRun`, a `StartJob` that refuses, the stop
flag, and a poll whose read fails. None of them looks at the trials that are
created and not yet handed over, and the exception may hide one more of them.
-/

set_option autoImplicit false
namespace TelemetryLab.Training
open Jobs JobManager Transition

/-- A training worker has been started for the run. -/
def Handed (w : World) (modelRunId : String) : Prop :=
  ∃ thread ∈ w.memory.manager.started, ∃ call pc, thread.work = .train call pc ∧ call.modelRunId = modelRunId

def Ended (w : World) (modelRunId : String) : Prop :=
  ∃ row, w.runs.lookup modelRunId = some row ∧ row.status.isTerminal = true

/-- A row that the orchestrator of the run has created, whether it knows of it or not. -/
def TrialOf (w : World) (parentRunId trialId : String) : Prop :=
  ∃ row, w.runs.lookup trialId = some row ∧ row.parentRunId = some parentRunId

/-- Every trial created by an orchestrator that has ended was handed over or
has a terminal status. -/
def NoneStranded (w : World) : Prop :=
  ∀ thread ∈ w.memory.manager.started, thread.phase ≠ .body → ∀ task pc, thread.work = .tune task pc →
    ∀ trialId, TrialOf w task.parentRunId trialId → Handed w trialId ∨ Ended w trialId

/-- An exception of `CreateHpoTrialRun` behind which there is a row. -/
def Event.hidesRow : Event → Bool
  | .unconfirmed _ _ => true
  | _ => false

/-- The branches on which an orchestrator leaves its loops early. -/
def aborts (w : World) (task : TuningTask) : TunePc → Event → Bool
  | .creating idx _, .error _ => decide (idx < task.trials.length)
  | .creating idx _, .unconfirmed _ _ => decide (idx < task.trials.length)
  | .dispatch _, .thread starts => !(decide w.memory.manager.Admits && starts)
  | .cancelling _, _ => true
  | .poll _ (_ :: _), .error _ => true
  | .poll _ (trialId :: _), .done => (w.runs.lookup trialId).isNone
  | _, _ => false

/-- An orchestrator leaves its loops early only when every trial it has created
and not handed over has a terminal status, and never over a row it does not know. -/
def NoAbandon (w : World) : Label → Prop
  | .work k event => ∀ thread, w.memory.manager.started[k]? = some thread → thread.phase = .body →
      ∀ task pc, thread.work = .tune task pc → aborts w task pc event = true →
        event.hidesRow = false ∧ ∀ trialId ∈ pc.trialIds.drop pc.nextTrial, Ended w trialId
  | _ => True

/-- The orchestrator of the run has the trial in its list. -/
def Known (w : World) (parentRunId trialId : String) : Prop :=
  ∃ thread ∈ w.memory.manager.started, ∃ task pc,
    thread.work = .tune task pc ∧ task.parentRunId = parentRunId ∧ trialId ∈ pc.trialIds

/-- Every trial is in the list of its orchestrator. What has been dispatched is
handed over, and when the orchestrator has ended its whole list is in order. -/
structure Tended (w : World) : Prop where
  held : HeldOnce w
  known : ∀ parentRunId trialId, TrialOf w parentRunId trialId → Known w parentRunId trialId
  dispatched : ∀ thread ∈ w.memory.manager.started, ∀ task pc, thread.work = .tune task pc →
    ∀ trialId ∈ pc.trialIds.take pc.nextTrial, Handed w trialId
  settled : ∀ thread ∈ w.memory.manager.started, thread.phase ≠ .body → ∀ task pc, thread.work = .tune task pc →
    ∀ trialId ∈ pc.trialIds, Handed w trialId ∨ Ended w trialId

theorem init_tended : Tended .init := by
  refine ⟨init_heldOnce, ?_, ?_, ?_⟩
  · rintro parentRunId trialId ⟨row, found, -⟩
    cases found
  · intro thread member
    simp [World.init, Memory.manager, Jobs.World.init, JobManager.init] at member
  · intro thread member
    simp [World.init, Memory.manager, Jobs.World.init, JobManager.init] at member

/-! ## What an orchestrator does to its list -/

section lists
variable {now : Nat} {runs : Runs} {flagged : Bool} {task : TuningTask} {pc next : TunePc} {event : Event}

theorem tuneStep_lists {statement : Statement}
    (acted : tuneStep now runs flagged task pc event = some (.statement statement (.goto next))) :
    pc.trialIds ⊆ next.trialIds := by
  cases tuneStep_tunes acted with
  | creates idx trialIds => exact List.subset_append_left trialIds _
  | takes | late | unwritten | joins | skips | created => exact List.Subset.refl _
  | stops | goesOn | waits | beats | polled | polls => exact List.Subset.refl _

/-- A step within the loops hands nothing over. -/
theorem tuneStep_goto {statement : Statement}
    (acted : tuneStep now runs flagged task pc event = some (.statement statement (.goto next))) :
    next.trialIds.take next.nextTrial ⊆ pc.trialIds.take pc.nextTrial := by
  cases tuneStep_tunes acted with
  | takes | late | unwritten | joins | creates | skips | created => simp [TunePc.nextTrial]
  | stops | goesOn | waits | beats | polled | polls => exact fun _ listed => listed

/-- A row the orchestrator creates is its own trial, which it lists or which the exception hides. -/
theorem tuneStep_insert {progress : Progress TunePc} {trialId : String} {row : ModelRun} (w : World)
    (acted : tuneStep now runs flagged task pc event = some (.statement (.insert trialId row) progress)) :
    row.parentRunId = some task.parentRunId ∧
      ((∃ next, progress = .goto next ∧ trialId ∈ next.trialIds) ∨
        aborts w task pc event = true ∧ event.hidesRow = true) := by
  generalize issued : TuneAction.statement (.insert trialId row) progress = action at acted
  cases tuneStep_tunes acted with
  | creates idx trialIds =>
    cases issued
    exact ⟨rfl, .inl ⟨_, rfl, List.mem_append_right trialIds (List.mem_singleton_self trialId)⟩⟩
  | unconfirmed idx trialIds modelRunId what left =>
    cases issued
    exact ⟨rfl, .inr ⟨decide_eq_true left, rfl⟩⟩
  | takes | late | unwritten | joins | leaves | missing | unread | skips | uncreated | created => cases issued
  | stops | goesOn | finishes | dispatches | waits | polled | polls | lost | unpolled => cases issued
  | cancels d event statement tried => cases tried <;> cases issued
  | beats d event statement tried => cases tried <;> cases issued

end lists

theorem trainStep_no_insert {runs : Runs} {flagged : Bool} {call : TrainCall} {pc : TrainPc} {event : Event}
    {statement : Statement} {progress : Progress TrainPc}
    (acted : trainStep runs flagged call pc event = some (statement, progress)) (modelRunId : String) (row : ModelRun) :
    statement ≠ .insert modelRunId row := by
  rintro rfl
  generalize issued : Statement.insert modelRunId row = statement at acted
  cases trainStep_trains acted with
  | takes | late | unwritten | joins | leaves | missing | unread | beats | skips => cases issued
  | stops | trained | untrained | saves | unsaved => cases issued
  | cancels _ _ tried | completes _ _ tried | marks _ _ tried => cases tried <;> cases issued
  | fails _ _ _ tried | marksFailed _ _ _ tried => cases tried <;> cases issued

theorem deleteStep_no_insert {runs : Runs} {stored : Bool} {call : DeleteCall} {action : DeleteAction}
    (acted : deleteStep runs stored call = some action) (modelRunId : String) (row : ModelRun) :
    action.statement ≠ .insert modelRunId row := by
  intro issued
  unfold deleteStep at acted
  split at acted
  · cases acted; cases issued
  · cases acted; cases issued
  · split at acted <;> cases acted <;> cases issued
  · cases acted; cases stored <;> cases issued
  · cases acted; cases stored <;> cases issued
  · cases acted; cases issued
  · cases acted; cases stored <;> cases issued
  · cases acted; cases issued
  · cases acted

/-! ## Hand-overs and ends are final -/

/-- What becomes of a body: a worker stays a worker of its run, an orchestrator
only adds to its list. -/
inductive Body.Goes : Body → Body → Prop
  | same (body : Body) : Goes body body
  | train (call : TrainCall) (pc next : TrainPc) : Goes (.train call pc) (.train call next)
  | tune (task : TuningTask) (pc next : TunePc) (grows : pc.trialIds ⊆ next.trialIds) :
      Goes (.tune task pc) (.tune task next)

/-- No step forgets a body that was started. -/
theorem act_goes {w : World} {label : Label} {statement : Statement} {memory : Memory}
    (acted : act w label = some (statement, memory)) {j : Nat} {before : JobThread Body}
    (present : w.memory.manager.started[j]? = some before) :
    ∃ after, memory.manager.started[j]? = some after ∧ before.work.Goes after.work := by
  obtain ⟨bound, -⟩ := List.getElem?_eq_some_iff.mp present
  have stored := List.getElem?_eq_getElem (bound.trans_le (act_length acted))
  refine ⟨_, stored, ?_⟩
  cases act_place acted stored with
  | kept thread found same =>
    cases found.symm.trans present
    rw [same.work]
    exact .same _
  | launched absent => cases absent.symm.trans present
  | foreign other was =>
    rw [other, was before present]
    exact .same _
  | trained event here thread found running call pc point was ran now =>
    cases found.symm.trans present
    rw [was, now]
    exact .train call pc point
  | trainEnded event here thread found same =>
    cases found.symm.trans present
    rw [same]
    exact .same _
  | tuned event here thread found running task pc point was ran now =>
    cases found.symm.trans present
    rw [was, now]
    exact .tune task pc point (tuneStep_lists ran)
  | dispatched event here thread found running task pc admitted call threadStarts was ran now =>
    cases found.symm.trans present
    rw [was, now]
    obtain ⟨d, rfl, -, rfl⟩ := tuneStep_dispatches ran
    exact .tune task _ _ fun _ listed => listed
  | tuneEnded event here thread found running same =>
    cases found.symm.trans present
    rw [same]
    exact .same _

theorem act_handed {w : World} {label : Label} {statement : Statement} {memory : Memory}
    (acted : act w label = some (statement, memory)) {modelRunId : String} (handed : Handed w modelRunId) :
    ∃ thread ∈ memory.manager.started, ∃ call pc, thread.work = .train call pc ∧ call.modelRunId = modelRunId := by
  obtain ⟨thread, member, call, pc, work, rfl⟩ := handed
  obtain ⟨j, present⟩ := List.mem_iff_getElem?.mp member
  obtain ⟨after, stored, goes⟩ := act_goes acted present
  refine ⟨after, List.mem_of_getElem? stored, ?_⟩
  rw [work] at goes
  generalize after.work = now at goes
  cases goes with
  | same => exact ⟨call, pc, rfl, rfl⟩
  | train _ _ next => exact ⟨call, next, rfl, rfl⟩

theorem step_handed {w next : World} {label : Label} (taken : step w label = some next) {modelRunId : String}
    (handed : Handed w modelRunId) : Handed next modelRunId := by
  obtain ⟨⟨statement, memory⟩, acted, rfl⟩ := step_eq_some taken
  exact act_handed acted handed

theorem step_ended {w next : World} {label : Label} (taken : step w label = some next) {modelRunId : String}
    (ended : Ended w modelRunId) : Ended next modelRunId := by
  obtain ⟨⟨statement, memory⟩, acted, rfl⟩ := step_eq_some taken
  obtain ⟨row, found, terminal⟩ := ended
  obtain ⟨after, present, _, status⟩ := act_lookup acted found
  exact ⟨after, present, status ▸ (act_issued acted).statusAfter_terminal terminal⟩

/-! ## Steps of an orchestrator -/

/-- An orchestrator ends with everything handed over, or on an early branch. -/
theorem tuneStep_ends {w : World} {flagged : Bool} {task : TuningTask} {pc : TunePc} {event : Event} {action : TuneAction}
    (acted : tuneStep w.clock w.runs flagged task pc event = some action) (ends : TuneEnds w.memory.manager action) :
    pc.trialIds.length ≤ pc.nextTrial ∨ aborts w task pc event = true := by
  cases ends with
  | refused call threadStarts admitted refusal =>
    cases tuneStep_tunes acted with
    | dispatches d trialId config starts room listed configured =>
      right
      simpa [aborts, imp_iff_not_or] using refusal
  | returns statement =>
    cases tuneStep_tunes acted with
    | leaves row found other => exact .inl le_rfl
    | finishes d dispatched ended => exact .inl dispatched
    | cancels d event statement tried => exact .inr rfl
  | throws statement what =>
    cases tuneStep_tunes acted with
    | missing | unread => exact .inl le_rfl
    | uncreated idx trialIds what left => exact .inr (decide_eq_true left)
    | unconfirmed idx trialIds modelRunId what left => exact .inr (decide_eq_true left)
    | lost d trialId rest absent =>
      right
      simp [aborts, absent]
    | unpolled d trialId rest what => exact .inr rfl

/-- What an orchestrator has dispatched, by this step or before, is handed over. -/
theorem Tended.step_dispatched {w next : World} {label : Label} (tended : Tended w) (taken : step w label = some next) :
    ∀ thread ∈ next.memory.manager.started, ∀ task pc, thread.work = .tune task pc →
      ∀ trialId ∈ pc.trialIds.take pc.nextTrial, Handed next trialId := by
  obtain ⟨⟨statement, memory⟩, acted, rfl⟩ := step_eq_some taken
  intro thread member task pc work trialId listed
  cases act_origin acted member with
  | kept before present same => exact step_handed taken (tended.dispatched before present task pc (same.work ▸ work) trialId listed)
  | launched initial _ =>
    rw [work] at initial
    cases pc <;> cases initial
    cases listed
  | foreign other =>
    rw [work] at other
    cases other
  | trained before present alive caller prior next event was ran now _ _ =>
    rw [work] at now
    cases now
  | trainEnded before present same ended caller prior was =>
    rw [same, was] at work
    cases work
  | tuned before present alive owner prior next event was ran now _ =>
    rw [work] at now
    cases now
    exact step_handed taken (tended.dispatched before present task prior was trialId (tuneStep_goto ran listed))
  | dispatched before present alive owner prior next event call starts was ran now _ started =>
    rw [work] at now
    cases now
    -- one more trial, for which a worker has just been started
    obtain ⟨d, rfl, here, rfl⟩ := tuneStep_dispatches ran
    simp only [TunePc.trialIds, TunePc.nextTrial, List.take_add_one, here, Option.toList_some, List.mem_append,
      List.mem_singleton] at listed
    rcases listed with earlier | rfl
    · exact step_handed taken (tended.dispatched before present task (.dispatch d) was trialId earlier)
    · obtain ⟨worker, stored, does⟩ := started
      exact ⟨worker, stored, call, .transition, does, rfl⟩
  | tuneEnded k event here before found alive same ended owner prior action was ran ends =>
    exact step_handed taken (tended.dispatched before (List.mem_of_getElem? found) task pc (same ▸ work) trialId listed)

theorem advance_self {Pc : Type} {memory : Memory} {k : Nat} {thread : JobThread Body} (body : Pc → Body) (pc : Pc)
    (found : memory.manager.started[k]? = some thread) :
    (memory.advance k body (.goto pc)).manager.started[k]? = some { thread with work := body pc } := by
  have found : memory.jobs.manager.started[k]? = some thread := found
  simp [Memory.advance, Memory.setWork, Memory.withManager, Memory.manager, found]

theorem act_known {w : World} {label : Label} {statement : Statement} {memory : Memory}
    (acted : act w label = some (statement, memory)) {parentRunId trialId : String} (known : Known w parentRunId trialId) :
    Known (w.after label (statement, memory)) parentRunId trialId := by
  obtain ⟨thread, member, task, pc, work, rfl, listed⟩ := known
  obtain ⟨j, present⟩ := List.mem_iff_getElem?.mp member
  obtain ⟨after, stored, goes⟩ := act_goes acted present
  refine ⟨after, List.mem_of_getElem? stored, ?_⟩
  rw [work] at goes
  generalize after.work = now at goes
  cases goes with
  | same => exact ⟨task, pc, rfl, rfl, listed⟩
  | tune _ _ next grows => exact ⟨task, next, rfl, rfl, grows listed⟩

/-- A trial that a step creates is in a list afterwards, unless an exception hides it. -/
theorem act_creates {w : World} {label : Label} {statement : Statement} {memory : Memory}
    (acted : act w label = some (statement, memory)) (careful : NoAbandon w label) {trialId parentRunId : String}
    {row : ModelRun} (issued : statement = .insert trialId row) (parented : row.parentRunId = some parentRunId) :
    Known (w.after label (statement, memory)) parentRunId trialId := by
  cases act_acts acted with
  | tick | reconcile | postStart | delete | dispatched | job => cases issued
  | post id request draws fresh =>
    cases issued
    cases parented
  | deleteStep i stored call action found ran => exact absurd issued (deleteStep_no_insert ran trialId row)
  | trained k event thread call pc _ progress found running was ran =>
    exact absurd issued (trainStep_no_insert ran trialId row)
  | tuned k event thread task pc _ progress found running was ran =>
    subst issued
    obtain ⟨own, ⟨next, rfl, listed⟩ | ⟨aborted, hidden⟩⟩ := tuneStep_insert w ran
    · cases own.symm.trans parented
      exact ⟨_, List.mem_of_getElem? (advance_self (Body.tune task) next found), task, next, rfl, rfl, listed⟩
    · cases hidden.symm.trans (careful thread found running task pc was aborted).1

theorem Tended.step_known {w next : World} {label : Label} (tended : Tended w) (careful : NoAbandon w label)
    (taken : step w label = some next) :
    ∀ parentRunId trialId, TrialOf next parentRunId trialId → Known next parentRunId trialId := by
  obtain ⟨⟨statement, memory⟩, acted, rfl⟩ := step_eq_some taken
  rintro parentRunId trialId ⟨row, found, parented⟩
  rcases lookup_run_inv found with ⟨old, present⟩ | issued
  · obtain ⟨after, stored, parent, -⟩ := act_lookup acted present
    cases found.symm.trans stored
    exact act_known acted (tended.known parentRunId trialId ⟨old, present, parent ▸ parented⟩)
  · exact act_creates acted careful issued parented

theorem Tended.step_settled {w next : World} {label : Label} (tended : Tended w) (careful : NoAbandon w label)
    (taken : step w label = some next) :
    ∀ thread ∈ next.memory.manager.started, thread.phase ≠ .body → ∀ task pc, thread.work = .tune task pc →
      ∀ trialId ∈ pc.trialIds, Handed next trialId ∨ Ended next trialId := by
  have keep {modelRunId : String} (settled : Handed w modelRunId ∨ Ended w modelRunId) :
      Handed next modelRunId ∨ Ended next modelRunId := settled.imp (step_handed taken) (step_ended taken)
  obtain ⟨⟨statement, memory⟩, acted, rfl⟩ := step_eq_some taken
  intro thread member ended task pc work trialId created
  cases act_origin acted member with
  | kept before present same =>
    exact keep (tended.settled before present (fun running => ended (same.body.mpr running)) task pc (same.work ▸ work) trialId
      created)
  | launched _ running => exact absurd running ended
  | foreign other =>
    rw [work] at other
    cases other
  | trained before present alive caller prior next event was ran now _ running => exact absurd running ended
  | trainEnded before present same ended caller prior was =>
    rw [same, was] at work
    cases work
  | tuned before present alive owner prior next event was ran now running => exact absurd running ended
  | dispatched before present alive owner prior next event call starts was ran now running started =>
    exact absurd running ended
  | tuneEnded k event here before found alive same ended owner prior action was ran ends =>
    subst here
    rw [same, was] at work
    cases work
    -- A created trial is before `next_trial`, or is left to the branch taken.
    rw [← List.take_append_drop pc.nextTrial pc.trialIds] at created
    rcases List.mem_append.mp created with earlier | left
    · exact .inl (step_handed taken (tended.dispatched before (List.mem_of_getElem? found) task pc was trialId earlier))
    · rcases tuneStep_ends ran ends with all | aborted
      · rw [List.drop_eq_nil_of_le all] at left
        cases left
      · exact keep (.inr ((careful before found alive task pc was aborted).2 trialId left))

theorem step_tended {w next : World} {label : Label} (tended : Tended w) (careful : NoAbandon w label)
    (taken : step w label = some next) : Tended next :=
  ⟨step_heldOnce tended.held taken, tended.step_known careful taken, tended.step_dispatched taken,
    tended.step_settled careful taken⟩

/-- The orchestrator that has ended is the one that knows the trial. -/
theorem Tended.noneStranded {w : World} (tended : Tended w) : NoneStranded w := by
  intro thread member ended task pc work trialId created
  obtain ⟨other, present, owner, next, tunes, same, listed⟩ := tended.known task.parentRunId trialId created
  obtain ⟨i, here⟩ := List.mem_iff_getElem?.mp member
  obtain ⟨j, there⟩ := List.mem_iff_getElem?.mp present
  have first : 0 < holding task.parentRunId thread := by simp [holding, work, Body.held]
  have second : 0 < holding task.parentRunId other := by simp [holding, tunes, Body.held, same]
  obtain rfl := tended.held.same_place here there first second
  cases here.symm.trans there
  cases work.symm.trans tunes
  exact tended.settled thread member ended task pc work trialId listed

/-- In every run in which orchestrators leave their loops early only over ended
trials, no orchestrator that has ended leaves a trial stranded. -/
theorem no_stranded_trials (schedule : List Label) (careful : Steps step NoAbandon World.init schedule) :
    States step NoneStranded World.init schedule :=
  (states_of_steps (P := Tended) (fun _ _ _ => step_tended) init_tended careful).mono fun _ => Tended.noneStranded

/-! ## Runs -/

def Body.trains (modelRunId : String) : Body → Bool
  | .train call _ => decide (call.modelRunId = modelRunId)
  | _ => false

theorem handed_iff (w : World) (modelRunId : String) :
    Handed w modelRunId ↔ ∃ thread ∈ w.memory.manager.started, thread.work.trains modelRunId = true := by
  constructor
  · rintro ⟨thread, member, call, pc, work, rfl⟩
    exact ⟨thread, member, by simp [work, Body.trains]⟩
  · rintro ⟨thread, member, trains⟩
    cases work : thread.work with
    | train call pc => exact ⟨thread, member, call, pc, work, by simpa [work, Body.trains] using trains⟩
    | tune task pc => simp [work, Body.trains] at trains
    | other => simp [work, Body.trains] at trains

instance (w : World) (modelRunId : String) : Decidable (Handed w modelRunId) :=
  decidable_of_iff' _ (handed_iff w modelRunId)

instance (w : World) (modelRunId : String) : Decidable (Ended w modelRunId) :=
  decidable_of_iff ((w.runs.lookup modelRunId).any (·.status.isTerminal) = true) (Option.any_eq_true _ _)

instance (w : World) (parentRunId trialId : String) : Decidable (TrialOf w parentRunId trialId) :=
  decidable_of_iff ((w.runs.lookup trialId).any (fun row => decide (row.parentRunId = some parentRunId)) = true) <| by
    simp [TrialOf, Option.any_eq_true]

theorem TrialOf.mem {w : World} {parentRunId trialId : String} (created : TrialOf w parentRunId trialId) :
    trialId ∈ w.runs.keys := by
  obtain ⟨row, found, -⟩ := created
  exact Table.mem_of_lookup found

/-- A thread is an orchestrator that has ended over a stranded trial. -/
def strands (w : World) (thread : JobThread Body) : Bool :=
  decide (thread.phase ≠ .body) && match thread.work with
    | .tune task _ => w.runs.keys.any fun trialId => decide (TrialOf w task.parentRunId trialId) &&
        (!decide (Handed w trialId) && !decide (Ended w trialId))
    | _ => false

theorem noneStranded_iff (w : World) :
    NoneStranded w ↔ ∀ thread ∈ w.memory.manager.started, strands w thread = false := by
  refine forall_congr' fun thread => forall_congr' fun member => ?_
  cases work : thread.work with
  | tune task pc =>
    simp only [strands, work, Bool.and_eq_false_imp, decide_eq_true_eq, List.any_eq_false, Bool.and_eq_true,
      Bool.not_eq_true', decide_eq_false_iff_not, not_and, not_not, Body.tune.injEq]
    refine forall_congr' fun ended => ⟨fun all trialId _ created lost => ?_, ?_⟩
    · exact (all task pc ⟨rfl, rfl⟩ trialId created).resolve_left lost
    · rintro all _ _ ⟨rfl, rfl⟩ trialId created
      exact or_iff_not_imp_left.mpr (all trialId created.mem created)
  | train call pc => simp [strands, work]
  | other => simp [strands, work]

instance (w : World) : Decidable (NoneStranded w) := decidable_of_iff' _ (noneStranded_iff w)

instance (w : World) : (label : Label) → Decidable (NoAbandon w label)
  | .work k event =>
    match found : w.memory.manager.started[k]? with
    | none => .isTrue fun thread present => by simp [found] at present
    | some thread =>
      match work : thread.work with
      | .tune task pc =>
        decidable_of_iff (thread.phase = .body → aborts w task pc event = true →
            event.hidesRow = false ∧ ∀ trialId ∈ pc.trialIds.drop pc.nextTrial, Ended w trialId) <| by
          constructor
          · intro all other present running owner here does
            cases found.symm.trans present
            cases work.symm.trans does
            exact all running
          · exact fun all running => all thread found running task pc work
      | .train call pc => .isTrue fun other present _ _ _ does => by
          cases found.symm.trans present
          cases work.symm.trans does
      | .other => .isTrue fun other present _ _ _ does => by
          cases found.symm.trans present
          cases work.symm.trans does
  | .tick | .reconcile _ | .post _ _ _ | .postStart _ _ | .delete _ | .deleteStep _ _ | .job _ => .isTrue trivial

/-- With a single job slot the orchestrator occupies it, and `StartJob` refuses
its first trial. -/
def singleSlot : List Label :=
  [.job (.setMaxConcurrentJobs 1), .post "p" twoTrials fun _ => (0, 0), .postStart 0 true, .work 0 .done,
    .work 0 (.created "t"), .work 0 (.created "u"), .work 0 .done, .work 0 .done, .work 0 (.thread true)]

theorem refused_dispatch_strands_trials :
    ¬ ∀ schedule : List Label, States step NoneStranded World.init schedule := by
  intro all
  have stranded : (exec step World.init singleSlot).any (fun w => decide (¬ NoneStranded w)) = true := by
    decide +kernel
  obtain ⟨final, run, lost⟩ := (Option.any_eq_true _ _).mp stranded
  exact of_decide_eq_true lost ((all singleSlot).exec run)

/-- Both trials are trained, the second one fails, and the orchestrator returns. -/
def twoTrialsTrained : List Label :=
  [.post "p" twoTrials fun _ => (0, 0), .postStart 0 true, .work 0 .done, .work 0 (.created "t"),
    .work 0 (.created "u"), .work 0 .done, .work 0 .done, .work 0 (.thread true), .work 0 (.thread true),
    .work 0 .done, .work 0 .done, .work 1 .done, .work 1 .done, .work 1 .done, .work 1 .done, .work 2 .done,
    .work 2 (.error "No samples"), .work 2 .done, .work 2 .done, .work 0 .done, .work 0 .done, .work 0 .done,
    .work 0 .done]

theorem no_stranded_trials_twoTrialsTrained :
    (exec step World.init twoTrialsTrained).any
        (fun w => (w.memory.manager.started[0]?).any fun thread => decide (thread.phase = .returned)) = true ∧
      States step NoneStranded World.init twoTrialsTrained :=
  ⟨by decide +kernel, no_stranded_trials twoTrialsTrained (by decide +kernel)⟩

end TelemetryLab.Training
