import TelemetryLab.Scoring.World

/-! When a finished score job stays finished.

Past its guard a worker writes the status of its row without looking at it. So
a row keeps its final status as long as no worker is past its guard on a row
that someone else ends: the reconciler, or a second worker of the same job.
-/

set_option autoImplicit false
namespace TelemetryLab.Scoring
open Jobs Transition

/-- A worker past its guard. It still has a status to write. -/
def Worker.writing (worker : Worker) : Bool := !worker.ended && !worker.pc.guarding

theorem Worker.writing_iff {worker : Worker} :
    worker.writing = true ↔ worker.ended = false ∧ worker.pc.guarding = false := by
  simp [Worker.writing]

/-- Worker `i` can take over its row: the row is not finished and no other
worker is past its guard on it. -/
def RowOpen (w : World) (i : Nat) (call : ScoreCall) : Prop :=
  (∀ row ∈ w.db.jobs.lookup call.jobId, row.status.isTerminal = false) ∧
    ∀ j < w.workers.length, j ≠ i → ∀ other ∈ w.workers[j]?, other.writing = true → other.call.jobId ≠ call.jobId

instance (w : World) (i : Nat) (call : ScoreCall) : Decidable (RowOpen w i call) := inferInstanceAs (Decidable (_ ∧ _))

/-- A sweep spares the rows of workers past their guard. -/
def SweepSpares (w : World) (staleTtl : Option Nat) : Prop :=
  ∀ worker ∈ w.workers, worker.writing = true → ∀ row ∈ w.db.jobs.lookup worker.call.jobId,
    stale staleTtl w.db.clock row.status row.updatedAt = false

instance (w : World) (staleTtl : Option Nat) : Decidable (SweepSpares w staleTtl) :=
  inferInstanceAs (Decidable (∀ worker ∈ w.workers, worker.writing = true →
    ∀ row ∈ w.db.jobs.lookup worker.call.jobId, stale staleTtl w.db.clock row.status row.updatedAt = false))

def Calm (w : World) : Label → Prop
  | .reconcile staleTtl => SweepSpares w staleTtl
  | .work i event => ∀ worker ∈ w.workers[i]?, worker.ended = false → worker.pc.guarding = true →
      ∀ pc ∈ (scoreStep w.db worker.flagged worker.call worker.pc event).2.next, pc.guarding = false →
        RowOpen w i worker.call
  | _ => True

instance (w : World) : (label : Label) → Decidable (Calm w label)
  | .reconcile staleTtl => inferInstanceAs (Decidable (SweepSpares w staleTtl))
  | .work i event => inferInstanceAs (Decidable (∀ worker ∈ w.workers[i]?, worker.ended = false →
      worker.pc.guarding = true → ∀ pc ∈ (scoreStep w.db worker.flagged worker.call worker.pc event).2.next,
        pc.guarding = false → RowOpen w i worker.call))
  | .tick | .ingest _ _ | .request _ _ _ | .requestStep _ _ | .cancel _ => .isTrue trivial

/-- The finished rows keep their status. -/
def JobsStayFinished (before after : World) : Prop :=
  ∀ jobId row, before.db.jobs.lookup jobId = some row → row.status.isTerminal = true →
    ∃ later, after.db.jobs.lookup jobId = some later ∧ later.status = row.status

/-- The workers past their guard have their rows to themselves. -/
structure Exclusive (w : World) : Prop where
  alone : ∀ (i j : Nat) (first second : Worker), w.workers[i]? = some first → w.workers[j]? = some second →
    first.writing = true → second.writing = true → first.call.jobId = second.call.jobId → i = j
  unfinished : ∀ (i : Nat) (worker : Worker), w.workers[i]? = some worker → worker.writing = true →
    ∀ row, w.db.jobs.lookup worker.call.jobId = some row → row.status.isTerminal = false

theorem init_exclusive : Exclusive .init where
  alone := by simp [World.init]
  unfinished := by simp [World.init]

/-! ## What a step writes -/

/-- The statements of a worker on the jobs: the transition of its guard, and past
the guard its status, which is `RUNNING` unless the worker ends with it. -/
theorem scoreStep_writes (db : Db) (flagged : Bool) (call : ScoreCall) (pc : ScorePc) (event : Event) :
    (∀ other : Db, (other.run (scoreStep db flagged call pc event).1).jobs = other.jobs) ∨
      (scoreStep db flagged call pc event).1 = .transitionStatus call.jobId .pending .running ∨
      ∃ status total processed lastRecord error,
        (scoreStep db flagged call pc event).1 =
          .updateScoreJob call.jobId status total processed lastRecord error ∧
        pc.guarding = false ∧
        (status = .running ∨ (scoreStep db flagged call pc event).2.next = none) := by
  cases pc with
  | announce v | progress v =>
    cases event with
    | done => exact .inr (.inr ⟨.running, _, _, _, _, rfl, rfl, .inl rfl⟩)
    | error what => exact .inl fun _ => rfl
  | cancelling v | completing v | recordFailure v what =>
    cases event with
    | done => exact .inr (.inr ⟨_, _, _, _, _, rfl, rfl, .inr rfl⟩)
    | error what => exact .inl fun _ => rfl
  | transition v =>
    cases event with
    | done => exact .inr (.inl rfl)
    | error what => exact .inl fun _ => rfl
  | readJob | readBack v | failing what =>
    refine .inl fun _ => ?_
    cases event <;> simp only [scoreStep]
    · split <;> rfl
    · rfl
  | count v | loadModel v | loop v | fetch v | insert v records | finish v =>
    refine .inl fun _ => ?_
    cases event <;> rfl

/-- What a step does to the status of a row that is there. -/
inductive StatusChange (w : World) (label : Label) (jobId : String) (row : ScoreJob) (new : JobState) : Prop
  | same (equal : new = row.status)
  | taken (pending : row.status = .pending) (running : new = .running)
  | swept (staleTtl : Option Nat) (here : label = .reconcile staleTtl)
      (hit : stale staleTtl w.db.clock row.status row.updatedAt = true)
  | written (i : Nat) (event : Event) (worker : Worker) (here : label = .work i event)
      (found : w.workers[i]? = some worker) (writing : worker.writing = true) (own : worker.call.jobId = jobId)
      (ends : new = .running ∨ (scoreStep w.db worker.flagged worker.call worker.pc event).2.next = none)

theorem act_status {w : World} {label : Label} {statement : Statement} {workers : List Worker}
    {requests : List Request} (acted : act w label = some (statement, workers, requests)) {jobId : String}
    {row : ScoreJob} (found : w.db.jobs.lookup jobId = some row) :
    ∃ later, (w.db.run statement).jobs.lookup jobId = some later ∧ StatusChange w label jobId row later.status := by
  cases act_issued acted with
  | other _ jobs _ => exact ⟨row, (jobs w.db).symm ▸ found, .same rfl⟩
  | created id new fresh _ =>
    have different : jobId ≠ id := by
      rintro rfl
      exact fresh (Table.mem_of_lookup found)
    exact ⟨row, (AList.lookup_insert_ne different).trans found, .same rfl⟩
  | reconciled staleTtl here =>
    refine ⟨row.reconcile staleTtl w.db.clock, by simp [Db.run, found], ?_⟩
    cases hit : stale staleTtl w.db.clock row.status row.updatedAt with
    | true => exact .swept staleTtl here hit
    | false => exact .same (by simp [ScoreJob.reconcile, hit])
  | worked i event worker here present alive =>
    rcases scoreStep_writes w.db worker.flagged worker.call worker.pc event with
      jobs | issued | ⟨status, total, processed, lastRecord, error, issued, past, ends⟩
    · exact ⟨row, (jobs w.db).symm ▸ found, .same rfl⟩
    · rw [issued]
      by_cases own : jobId = worker.call.jobId
      · subst own
        refine ⟨row.transition w.db.clock .pending .running, by simp [Db.run, found], ?_⟩
        by_cases pending : row.status = .pending
        · exact .taken pending (by simp [ScoreJob.transition, pending])
        · exact .same (by simp [ScoreJob.transition, pending])
      · exact ⟨row, (Table.lookup_modify_ne _ _ own).trans found, .same rfl⟩
    · rw [issued]
      by_cases own : jobId = worker.call.jobId
      · subst own
        refine ⟨row.update w.db.clock status total processed lastRecord error, by simp [Db.run, found], ?_⟩
        refine .written i event worker here present (Worker.writing_iff.mpr ⟨alive, past⟩) rfl ?_
        exact ends.imp_left fun running => by simp [running]
      · exact ⟨row, (Table.lookup_modify_ne _ _ own).trans found, .same rfl⟩

/-- A row that a step creates is pending. -/
theorem act_created {w : World} {label : Label} {statement : Statement} {workers : List Worker}
    {requests : List Request} (acted : act w label = some (statement, workers, requests)) {jobId : String}
    {row : ScoreJob} (absent : w.db.jobs.lookup jobId = none) (found : (w.db.run statement).jobs.lookup jobId = some row) :
    row.status = .pending := by
  have unmodified (id : String) (f : ScoreJob → ScoreJob) : (Table.modify id f w.db.jobs).lookup jobId = none :=
    AList.lookup_eq_none.mpr (mt Table.mem_modify.mp (AList.lookup_eq_none.mp absent))
  cases act_issued acted with
  | other _ jobs _ =>
    rw [jobs w.db, absent] at found
    cases found
  | created id new _ pending =>
    by_cases same : jobId = id
    · subst same
      rw [Db.run, AList.lookup_insert] at found
      cases found
      exact pending
    · rw [Db.run, AList.lookup_insert_ne same, absent] at found
      cases found
  | reconciled staleTtl _ =>
    rw [Db.run, Table.lookup_update, absent] at found
    cases found
  | worked i event worker _ _ _ =>
    rcases scoreStep_writes w.db worker.flagged worker.call worker.pc event with
      jobs | issued | ⟨status, total, processed, lastRecord, error, issued, _, _⟩
    · rw [jobs w.db, absent] at found
      cases found
    · rw [issued, Db.run, unmodified] at found
      cases found
    · rw [issued, Db.run, unmodified] at found
      cases found

/-- A worker past its guard was there before the step, or enters in it. -/
inductive WritingOrigin (w : World) (label : Label) (j : Nat) (call : ScoreCall) : Prop
  | stayed (before : Worker) (found : w.workers[j]? = some before) (same : before.call = call)
      (writing : before.writing = true) (goes : ∀ event, label = .work j event →
        (scoreStep w.db before.flagged before.call before.pc event).2.next ≠ none)
  | entered (before : Worker) (event : Event) (pc : ScorePc) (here : label = .work j event)
      (found : w.workers[j]? = some before) (same : before.call = call) (alive : before.ended = false)
      (guarding : before.pc.guarding = true)
      (moved : (scoreStep w.db before.flagged before.call before.pc event).2.next = some pc)
      (past : pc.guarding = false)

theorem act_writing {w : World} {label : Label} {statement : Statement} {workers : List Worker}
    {requests : List Request} (acted : act w label = some (statement, workers, requests)) {j : Nat} {after : Worker}
    (found : workers[j]? = some after) (writing : after.writing = true) : WritingOrigin w label j after.call := by
  obtain ⟨alive, past⟩ := Worker.writing_iff.mp writing
  cases act_origin acted found with
  | kept before present call pc ended idle =>
    refine .stayed before present call.symm ?_ fun event here => absurd here (idle event)
    exact Worker.writing_iff.mpr ⟨ended ▸ alive, pc ▸ past⟩
  | started pc _ =>
    rw [pc] at past
    cases past
  | moved before event here present living issued now =>
    obtain ⟨pc, progress⟩ := Worker.advance_alive (now ▸ alive)
    rw [progress] at now
    subst now
    cases guarding : before.pc.guarding with
    | true => exact .entered before event pc here present rfl living guarding (by rw [progress]; rfl) past
    | false =>
      refine .stayed before present rfl (Worker.writing_iff.mpr ⟨living, guarding⟩) fun other same => ?_
      rw [here] at same
      cases same
      simp [progress, Progress.next]

/-! ## The step -/

theorem act_alone_writing {w : World} {label : Label} {statement : Statement} {workers : List Worker}
    {requests : List Request} (exclusive : Exclusive w) (calm : Calm w label)
    (acted : act w label = some (statement, workers, requests)) {i j : Nat} {first second : Worker}
    (firstAt : workers[i]? = some first) (secondAt : workers[j]? = some second) (firstWriting : first.writing = true)
    (secondWriting : second.writing = true) (sameJob : first.call.jobId = second.call.jobId) : i = j := by
  cases act_writing acted firstAt firstWriting with
  | stayed before found same writing _ =>
    cases act_writing acted secondAt secondWriting with
    | stayed other found' same' writing' _ =>
      apply exclusive.alone i j before other found found' writing writing'
      rw [same, same', sameJob]
    | entered other event pc here found' same' alive guarding moved past =>
      subst here
      by_contra apart
      have lt := (List.getElem?_eq_some_iff.mp found).1
      apply (calm other found' alive guarding pc moved past).2 i lt apart before found writing
      rw [same, same', sameJob]
  | entered before event pc here found same alive guarding moved past =>
    subst here
    by_contra apart
    cases act_writing acted secondAt secondWriting with
    | stayed other found' same' writing' _ =>
      have lt := (List.getElem?_eq_some_iff.mp found').1
      apply (calm before found alive guarding pc moved past).2 j lt (Ne.symm apart) other found' writing'
      rw [same, same', sameJob]
    | entered other event' pc' here' _ _ _ _ _ _ =>
      cases here'
      exact apart rfl

theorem act_unfinished {w : World} {label : Label} {statement : Statement} {workers : List Worker}
    {requests : List Request} (exclusive : Exclusive w) (calm : Calm w label)
    (acted : act w label = some (statement, workers, requests)) {j : Nat} {after : Worker}
    (found : workers[j]? = some after) (writing : after.writing = true) {later : ScoreJob}
    (stored : (w.db.run statement).jobs.lookup after.call.jobId = some later) : later.status.isTerminal = false := by
  cases present : w.db.jobs.lookup after.call.jobId with
  | none => rw [act_created acted present stored]; rfl
  | some row =>
    obtain ⟨same, lookup, change⟩ := act_status acted present
    rw [stored] at lookup
    cases lookup
    -- before the step the row was unfinished, or the worker could not have come
    have unfinished : row.status.isTerminal = false := by
      cases act_writing acted found writing with
      | stayed before at_ call writing _ => exact exclusive.unfinished j before at_ writing row (call ▸ present)
      | entered before event pc here at_ call alive guarding moved past =>
        subst here
        exact (calm before at_ alive guarding pc moved past).1 row (call ▸ present)
    cases change with
    | same equal => rw [equal, unfinished]
    | taken _ running => rw [running]; rfl
    | swept staleTtl here hit =>
      subst here
      cases act_writing acted found writing with
      | stayed before at_ call writing _ =>
        have spared := calm before (List.mem_of_getElem? at_) writing row (call ▸ present)
        rw [hit] at spared
        cases spared
      | entered _ _ _ here _ _ _ _ _ _ => cases here
    | written i event worker here at_ writing' own ends =>
      -- a final status is the last thing its worker writes, and no other one is past its guard
      subst here
      rcases ends with running | ended
      · rw [running]; rfl
      · cases act_writing acted found writing with
        | stayed before at_' call writing goes =>
          have here : i = j := by
            apply exclusive.alone i j worker before at_ at_' writing' writing
            rw [own, call]
          subst here
          cases at_.symm.trans at_'
          exact absurd ended (goes event rfl)
        | entered before event' pc here at_' _ _ _ moved _ =>
          cases here
          cases at_.symm.trans at_'
          rw [ended] at moved
          cases moved

theorem step_exclusive (w : World) (label : Label) (next : World) (exclusive : Exclusive w) (calm : Calm w label)
    (taken : step w label = some next) : Exclusive next := by
  obtain ⟨statement, workers, requests, acted, rfl⟩ := step_eq_some taken
  exact
    { alone := fun _ _ _ _ firstAt secondAt firstWriting secondWriting sameJob =>
        act_alone_writing exclusive calm acted firstAt secondAt firstWriting secondWriting sameJob
      unfinished := fun _ _ found writing _ stored => act_unfinished exclusive calm acted found writing stored }

theorem step_stays_finished (w : World) (label : Label) (next : World) (exclusive : Exclusive w)
    (taken : step w label = some next) : JobsStayFinished w next := by
  obtain ⟨statement, workers, requests, acted, rfl⟩ := step_eq_some taken
  intro jobId row found ended
  obtain ⟨later, stored, change⟩ := act_status acted found
  refine ⟨later, stored, ?_⟩
  cases change with
  | same equal => exact equal
  | taken pending _ =>
    rw [pending] at ended
    cases ended
  | swept staleTtl _ hit =>
    rw [stale_live hit] at ended
    cases ended
  | written i event worker _ at_ writing own _ =>
    subst own
    rw [exclusive.unfinished i worker at_ writing row found] at ended
    cases ended

end TelemetryLab.Scoring
