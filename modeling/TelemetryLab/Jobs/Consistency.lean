import TelemetryLab.Jobs.JobManager

/-! The invariant that ties the three maps of the job manager together.

`Wired` relates flags, handles and job records; it survives any stop. `Held` is
what the manager owes a job that is still executing before `Stop` empties its
maps, and `Drained` what holds of it afterwards. All three are kept by every
step except an admission that reuses the id of a job still executing.
-/

set_option autoImplicit false
namespace TelemetryLab.Jobs
open Transition

variable {Work : Type}

def StartOutcome.throws : StartOutcome → Bool
  | .rejected _ | .systemError => true
  | .admitted | .terminated => false

theorem StartOutcome.throws_eq_false {outcome : StartOutcome} :
    outcome.throws = false ↔ outcome = .admitted ∨ outcome = .terminated := by
  cases outcome <;> simp [throws]

namespace JobManager

structure Wired (m : JobManager Work) : Prop where
  flag_bound : ∀ (k : Nat) (thread : JobThread Work), m.started[k]? = some thread → thread.flag < m.flags.length
  flag_distinct : ∀ (i j : Nat) (first second : JobThread Work), m.started[i]? = some first → m.started[j]? = some second →
    first.flag = second.flag → i = j
  stored_bound : ∀ jobId flag, m.stopFlags.lookup jobId = some flag → flag < m.flags.length
  flag_owner : ∀ jobId flag, m.stopFlags.lookup jobId = some flag →
    ∀ (k : Nat) (thread : JobThread Work), m.started[k]? = some thread → thread.flag = flag → thread.jobId = jobId
  handle : ∀ (jobId : String) (k : Nat), m.threads.lookup jobId = some k →
    ∃ (thread : JobThread Work) (info : JobInfo), m.started[k]? = some thread ∧ thread.jobId = jobId ∧
      m.jobs.lookup jobId = some info ∧ (info.status = .running ↔ thread.phase ≠ .finished)

/-- Every job still executing is reached by `CancelJob` and `Stop`: its own flag
and its own handle are stored under its id. -/
def Held (m : JobManager Work) : Prop :=
  ∀ (k : Nat) (thread : JobThread Work), m.started[k]? = some thread → thread.phase ≠ .finished →
    m.threads.lookup thread.jobId = some k ∧ m.stopFlags.lookup thread.jobId = some thread.flag

/-- After the section of `Stop`: the maps are empty, and what still executes is
flagged and waits to be joined. -/
structure Drained (m : JobManager Work) (handles : List Nat) : Prop where
  no_threads : m.threads = ∅
  no_flags : m.stopFlags = ∅
  waits : ∀ (k : Nat) (thread : JobThread Work), m.started[k]? = some thread → thread.phase ≠ .finished →
    k ∈ handles ∧ m.flagSet thread.flag = true

theorem init_wired : (JobManager.init : JobManager Work).Wired := by
  constructor <;> simp [init]

theorem init_held : (JobManager.init : JobManager Work).Held := by
  intro k thread found
  simp [init] at found

theorem setPhase_getElem? (m : JobManager Work) (k j : Nat) (phase : Phase) :
    (m.setPhase k phase).started[j]? = (m.started[j]?).map fun thread =>
      if k = j then { thread with phase } else thread := by
  simp [setPhase, List.getElem?_modify]

/-- The threads after a phase change are those before it, up to the phase. -/
theorem setPhase_thread {m : JobManager Work} {k j : Nat} {phase : Phase} {after : JobThread Work}
    (found : (m.setPhase k phase).started[j]? = some after) :
    ∃ before, m.started[j]? = some before ∧ after.jobId = before.jobId ∧ after.flag = before.flag ∧
      after.phase = if k = j then phase else before.phase := by
  rw [setPhase_getElem?] at found
  obtain ⟨before, present, rfl⟩ := Option.map_eq_some_iff.mp found
  by_cases same : k = j
  · exact ⟨before, present, by simp [same], by simp [same], by simp [same]⟩
  · exact ⟨before, present, by simp [same], by simp [same], by simp [same]⟩

/-! ## Cleanup -/

section cleanup
variable {m : JobManager Work}

@[simp] theorem cleanup_started : m.cleanupFinishedThreads.started = m.started := rfl
@[simp] theorem cleanup_flags : m.cleanupFinishedThreads.flags = m.flags := rfl
@[simp] theorem cleanup_jobs : m.cleanupFinishedThreads.jobs = m.jobs := rfl
@[simp] theorem cleanup_stopping : m.cleanupFinishedThreads.stopping = m.stopping := rfl
@[simp] theorem cleanup_maxJobs : m.cleanupFinishedThreads.maxJobs = m.maxJobs := rfl
@[simp] theorem cleanup_currentJobs : m.cleanupFinishedThreads.currentJobs = m.currentJobs := rfl

theorem cleanup_threads_lookup {jobId : String} {k : Nat} :
    m.cleanupFinishedThreads.threads.lookup jobId = some k ↔
      m.threads.lookup jobId = some k ∧ m.finishedJob jobId = false := by
  simp [cleanupFinishedThreads]

theorem mem_cleanup_threads {jobId : String} :
    jobId ∈ m.cleanupFinishedThreads.threads ↔ jobId ∈ m.threads ∧ m.finishedJob jobId = false := by
  rw [← AList.lookup_isSome, ← AList.lookup_isSome, Option.isSome_iff_exists, Option.isSome_iff_exists]
  simp only [cleanup_threads_lookup, exists_and_right]

theorem cleanup_stopFlags_lookup {jobId : String} {flag : Nat}
    (found : m.cleanupFinishedThreads.stopFlags.lookup jobId = some flag) : m.stopFlags.lookup jobId = some flag := by
  simp only [cleanupFinishedThreads, Table.lookup_keep, Option.filter_eq_some_iff] at found
  exact found.1

/-- `finishedJob` decides, for a stored handle, whether its thread has run its
final section. -/
theorem Wired.finishedJob_iff (wired : m.Wired) {jobId : String} {k : Nat} {thread : JobThread Work}
    (stored : m.threads.lookup jobId = some k) (found : m.started[k]? = some thread) :
    m.finishedJob jobId = true ↔ thread.phase = .finished := by
  obtain ⟨other, info, present, _, recorded, agree⟩ := wired.handle jobId k stored
  cases present.symm.trans found
  simp only [finishedJob, recorded, decide_eq_true_eq]
  exact ⟨fun notRunning => not_not.mp fun alive => notRunning (agree.mpr alive),
    fun done running => agree.mp running done⟩

theorem Wired.cleanup (wired : m.Wired) : m.cleanupFinishedThreads.Wired where
  flag_bound := wired.flag_bound
  flag_distinct := wired.flag_distinct
  stored_bound := fun jobId flag found => wired.stored_bound jobId flag (cleanup_stopFlags_lookup found)
  flag_owner := fun jobId flag found => wired.flag_owner jobId flag (cleanup_stopFlags_lookup found)
  handle := fun jobId k found => wired.handle jobId k (cleanup_threads_lookup.mp found).1

/-- Cleanup only joins threads past their final section, and only those. -/
theorem Held.cleanup (wired : m.Wired) (held : m.Held) : m.cleanupFinishedThreads.Held := by
  intro k thread found alive
  obtain ⟨stored, flagged⟩ := held k thread found alive
  have running : m.finishedJob thread.jobId = false :=
    Bool.eq_false_iff.mpr fun done => alive ((wired.finishedJob_iff stored found).mp done)
  constructor
  · exact cleanup_threads_lookup.mpr ⟨stored, running⟩
  · simp [cleanupFinishedThreads, flagged, running]

theorem Wired.joined_finished (wired : m.Wired) {k : Nat} (joined : k ∈ m.joinedByCleanup) :
    ∃ thread, m.started[k]? = some thread ∧ thread.phase = .finished := by
  obtain ⟨⟨jobId, handle⟩, kept, rfl⟩ := List.mem_map.mp joined
  obtain ⟨stored, done⟩ := Table.mem_entries_keep.mp kept
  have stored := Table.mem_entries_iff.mp stored
  obtain ⟨thread, info, found, _⟩ := wired.handle jobId handle stored
  exact ⟨thread, found, (wired.finishedJob_iff stored found).mp done⟩

/-- After cleanup a stored id belongs to a job whose final section is still to come. -/
theorem Wired.alive_of_mem_cleanup (wired : m.Wired) {jobId : String}
    (stored : jobId ∈ m.cleanupFinishedThreads.threads) :
    ∃ k thread, m.threads.lookup jobId = some k ∧ m.started[k]? = some thread ∧ thread.jobId = jobId ∧
      thread.phase ≠ .finished := by
  obtain ⟨present, running⟩ := mem_cleanup_threads.mp stored
  obtain ⟨k, lookup⟩ := Table.exists_lookup present
  obtain ⟨thread, info, found, named, _⟩ := wired.handle jobId k lookup
  refine ⟨k, thread, lookup, found, named, fun done => ?_⟩
  rw [(wired.finishedJob_iff lookup found).mpr done] at running
  cases running

end cleanup

/-! ## Admission -/

/-- Neither stopping nor full: `StartJob` gets past its two tests. -/
def Admits (m : JobManager Work) : Prop := m.stopping = false ∧ m.currentJobs < m.maxJobs

instance (m : JobManager Work) : Decidable m.Admits := inferInstanceAs (Decidable (_ ∧ _))

/-- The manager after the thread of a new job has been constructed. -/
def running (m : JobManager Work) (jobId requestId : String) (work : Work) : JobManager Work :=
  { m.enlist jobId requestId with started := m.started ++ [⟨jobId, requestId, work, m.flags.length, .body⟩] }

/-- The manager after the handle of a new job has been stored. -/
def launch (m : JobManager Work) (jobId requestId : String) (work : Work) : JobManager Work :=
  { m.running jobId requestId work with threads := m.threads.insert jobId m.started.length }

/-- Everything a call of `StartJob` can do. -/
theorem startJob_cases (m : JobManager Work) (jobId requestId : String) (work : Work) (threadStarts : Bool) :
    (¬ m.Admits ∧ ∃ what, (m.startJob jobId requestId work threadStarts).1 = .rejected what ∧
      ((m.stopping = true ∧ (m.startJob jobId requestId work threadStarts).2 = m) ∨
        (m.startJob jobId requestId work threadStarts).2 = m.cleanupFinishedThreads)) ∨
    (m.Admits ∧ threadStarts = false ∧ m.startJob jobId requestId work threadStarts =
      (.systemError, m.cleanupFinishedThreads.enlist jobId requestId)) ∨
    (m.Admits ∧ threadStarts = true ∧ jobId ∈ m.cleanupFinishedThreads.threads ∧
      m.startJob jobId requestId work threadStarts =
        (.terminated, m.cleanupFinishedThreads.running jobId requestId work)) ∨
    (m.Admits ∧ threadStarts = true ∧ jobId ∉ m.cleanupFinishedThreads.threads ∧
      m.startJob jobId requestId work threadStarts =
        (.admitted, m.cleanupFinishedThreads.launch jobId requestId work)) := by
  unfold startJob Admits
  cases stopping : m.stopping with
  | true => exact .inl ⟨by simp, _, rfl, .inl ⟨rfl, rfl⟩⟩
  | false =>
    by_cases full : m.maxJobs ≤ m.currentJobs
    · have notBelow : ¬ m.currentJobs < m.maxJobs := UInt64.not_lt.mpr full
      exact .inl ⟨fun admits => notBelow admits.2, _, by simp [full]; rfl, .inr (by simp [full])⟩
    · have below : m.currentJobs < m.maxJobs := UInt64.not_le.mp full
      cases threadStarts with
      | false => exact .inr (.inl ⟨⟨rfl, below⟩, rfl, by simp [full]⟩)
      | true =>
        by_cases stored : jobId ∈ m.cleanupFinishedThreads.threads
        · exact .inr (.inr (.inl ⟨⟨rfl, below⟩, rfl, stored, by simp [full, stored, running]⟩))
        · exact .inr (.inr (.inr ⟨⟨rfl, below⟩, rfl, stored, by simp [full, stored, running, launch]⟩))

/-- `StartJob` returns, or ends the process, exactly if its tests pass and the thread is constructed. -/
theorem startJob_throws (m : JobManager Work) (jobId requestId : String) (work : Work) (threadStarts : Bool) :
    (m.startJob jobId requestId work threadStarts).1.throws = false ↔ m.Admits ∧ threadStarts = true := by
  rcases startJob_cases m jobId requestId work threadStarts with
    ⟨closed, what, outcome, _⟩ | ⟨_, starts, result⟩ | ⟨admits, starts, _, result⟩ | ⟨admits, starts, _, result⟩
  · rw [outcome]
    exact iff_of_false (by simp [StartOutcome.throws]) fun open_ => closed open_.1
  · rw [result, starts]
    exact iff_of_false (by simp [StartOutcome.throws]) (by simp)
  · rw [result]
    exact iff_of_true rfl ⟨admits, starts⟩
  · rw [result]
    exact iff_of_true rfl ⟨admits, starts⟩

section admission
variable {m : JobManager Work} {jobId requestId : String}

theorem enlist_stopFlags_lookup (other : String) : (m.enlist jobId requestId).stopFlags.lookup other =
    if other = jobId then some m.flags.length else m.stopFlags.lookup other := by
  by_cases same : other = jobId
  · subst same
    simp [enlist]
  · simp [enlist, AList.lookup_insert_ne, same]

theorem Wired.enlist (wired : m.Wired) (free : jobId ∉ m.threads) : (m.enlist jobId requestId).Wired where
  flag_bound := by
    intro k thread found
    have bound := wired.flag_bound k thread found
    simp only [JobManager.enlist, List.length_append, List.length_singleton]
    omega
  flag_distinct := wired.flag_distinct
  stored_bound := by
    intro other flag found
    rw [enlist_stopFlags_lookup] at found
    simp only [JobManager.enlist, List.length_append, List.length_singleton]
    split at found
    · cases found
      omega
    · have bound := wired.stored_bound other flag found
      omega
  flag_owner := by
    intro other flag found k thread present same
    rw [enlist_stopFlags_lookup] at found
    split at found
    · -- The new flag is not yet the flag of any thread.
      have bound := wired.flag_bound k thread present
      cases found
      omega
    · exact wired.flag_owner other flag found k thread present same
  handle := by
    intro other k found
    have different : other ≠ jobId := Table.ne_of_lookup free found
    obtain ⟨thread, info, present, named, recorded, agree⟩ := wired.handle other k found
    exact ⟨thread, info, present, named, by simpa [JobManager.enlist, AList.lookup_insert_ne, different] using recorded, agree⟩

theorem Held.enlist (held : m.Held) (free : jobId ∉ m.threads) : (m.enlist jobId requestId).Held := by
  intro k thread found alive
  obtain ⟨stored, flagged⟩ := held k thread found alive
  have different : thread.jobId ≠ jobId := Table.ne_of_lookup free stored
  exact ⟨stored, by rw [enlist_stopFlags_lookup, if_neg different]; exact flagged⟩

variable {work : Work}

theorem launch_stopFlags : (m.launch jobId requestId work).stopFlags = (m.enlist jobId requestId).stopFlags := rfl

/-- The threads after an admission: the new one last. -/
theorem launch_thread {k : Nat} {thread : JobThread Work}
    (found : (m.launch jobId requestId work).started[k]? = some thread) :
    m.started[k]? = some thread ∨
      (k = m.started.length ∧ thread = ⟨jobId, requestId, work, m.flags.length, .body⟩) := by
  simp only [launch, running, List.getElem?_append] at found
  split at found
  · exact .inl found
  next beyond =>
    rw [List.getElem?_singleton] at found
    split at found
    next first =>
      cases found
      exact .inr ⟨by omega, rfl⟩
    · cases found

theorem launch_threads_lookup (other : String) : (m.launch jobId requestId work).threads.lookup other =
    if other = jobId then some m.started.length else m.threads.lookup other := by
  by_cases same : other = jobId
  · subst same
    simp [launch]
  · simp [launch, AList.lookup_insert_ne, same]

theorem Wired.launch (wired : m.Wired) (free : jobId ∉ m.threads) : (m.launch jobId requestId work).Wired := by
  have listed : (m.enlist jobId requestId).Wired := wired.enlist free
  constructor
  · intro k thread found
    rcases launch_thread found with old | ⟨_, rfl⟩
    · exact listed.flag_bound k thread old
    · simp [JobManager.launch, running, JobManager.enlist]
  · intro i j first second foundFirst foundSecond same
    rcases launch_thread foundFirst with oldFirst | ⟨atFirst, rfl⟩ <;>
      rcases launch_thread foundSecond with oldSecond | ⟨atSecond, rfl⟩
    · exact wired.flag_distinct i j first second oldFirst oldSecond same
    · -- the flag of the new thread lies beyond all others
      have bound := wired.flag_bound i first oldFirst
      simp only at same
      omega
    · have bound := wired.flag_bound j second oldSecond
      simp only at same
      omega
    · omega
  · exact listed.stored_bound
  · intro other flag found k thread present same
    rcases launch_thread present with old | ⟨_, rfl⟩
    · exact listed.flag_owner other flag found k thread old same
    · rw [launch_stopFlags, enlist_stopFlags_lookup] at found
      split at found
      next here => exact here.symm
      next elsewhere =>
        have bound := wired.stored_bound other flag found
        simp only at same
        omega
  · intro other k found
    rw [launch_threads_lookup] at found
    split at found
    next here =>
      -- the new handle, with its record just written
      subst here
      cases found
      refine ⟨⟨other, requestId, work, m.flags.length, .body⟩, ⟨other, requestId, .running, ""⟩, ?_, rfl, ?_, ?_⟩
      · simp [JobManager.launch, running]
      · simp [JobManager.launch, running, JobManager.enlist]
      · simp
    next elsewhere =>
      obtain ⟨thread, info, present, named, recorded, agree⟩ := listed.handle other k found
      refine ⟨thread, info, ?_, named, recorded, agree⟩
      exact List.getElem?_append_left (List.getElem?_eq_some_iff.mp present).1 |>.trans present

theorem Held.launch (held : m.Held) (free : jobId ∉ m.threads) : (m.launch jobId requestId work).Held := by
  intro k thread found alive
  rcases launch_thread found with old | ⟨here, rfl⟩
  · have listed : (m.enlist jobId requestId).Held := held.enlist free
    obtain ⟨stored, flagged⟩ := listed k thread old alive
    have different : thread.jobId ≠ jobId := Table.ne_of_lookup free stored
    exact ⟨by rw [launch_threads_lookup, if_neg different]; exact stored, flagged⟩
  · subst here
    exact ⟨by simp [launch_threads_lookup], by simp [launch_stopFlags, enlist_stopFlags_lookup]⟩

end admission

/-! ## Progress of one thread -/

section progress
variable {m : JobManager Work} {k : Nat} {thread : JobThread Work} {phase : Phase}

theorem setPhase_self (found : m.started[k]? = some thread) :
    (m.setPhase k phase).started[k]? = some { thread with phase } := by
  rw [setPhase_getElem?, found]
  simp

/-- A thread still executing after some other thread, or itself, moved on. -/
theorem setPhase_alive {j : Nat} {after : JobThread Work}
    (moved : (m.setPhase k phase).started[j]? = some after) (alive : after.phase ≠ .finished)
    (found : m.started[k]? = some thread) (before : thread.phase ≠ .finished) :
    ∃ old, m.started[j]? = some old ∧ after.jobId = old.jobId ∧ after.flag = old.flag ∧ old.phase ≠ .finished := by
  obtain ⟨old, present, sameId, sameFlag, samePhase⟩ := setPhase_thread moved
  refine ⟨old, present, sameId, sameFlag, ?_⟩
  by_cases here : k = j
  · subst here
    cases found.symm.trans present
    exact before
  · rw [samePhase, if_neg here] at alive
    exact alive

theorem Held.setPhase (held : m.Held) (found : m.started[k]? = some thread) (before : thread.phase ≠ .finished) :
    (m.setPhase k phase).Held := by
  intro j after moved alive
  obtain ⟨old, present, sameId, sameFlag, wasAlive⟩ := setPhase_alive moved alive found before
  rw [sameId, sameFlag]
  exact held j old present wasAlive

theorem Drained.setPhase {handles : List Nat} (drained : m.Drained handles) (found : m.started[k]? = some thread)
    (before : thread.phase ≠ .finished) : (m.setPhase k phase).Drained handles where
  no_threads := drained.no_threads
  no_flags := drained.no_flags
  waits := by
    intro j after moved alive
    obtain ⟨old, present, _, sameFlag, wasAlive⟩ := setPhase_alive moved alive found before
    rw [sameFlag]
    exact drained.waits j old present wasAlive

/-- The job record of the thread that moves is left alone exactly when the move
is not its final section. -/
theorem Wired.progress (wired : m.Wired) {jobs : Table String JobInfo}
    (records : ∀ jobId j old info, m.threads.lookup jobId = some j → m.started[j]? = some old →
      m.jobs.lookup jobId = some info → (info.status = .running ↔ old.phase ≠ .finished) →
      ∃ info', jobs.lookup jobId = some info' ∧
        (info'.status = .running ↔ (if k = j then phase else old.phase) ≠ .finished)) :
    ({ m.setPhase k phase with jobs } : JobManager Work).Wired := by
  constructor
  · intro j after moved
    obtain ⟨old, present, _, sameFlag, _⟩ := setPhase_thread moved
    rw [sameFlag]
    exact wired.flag_bound j old present
  · intro i j first second movedFirst movedSecond same
    obtain ⟨oldFirst, presentFirst, _, flagFirst, _⟩ := setPhase_thread movedFirst
    obtain ⟨oldSecond, presentSecond, _, flagSecond, _⟩ := setPhase_thread movedSecond
    exact wired.flag_distinct i j oldFirst oldSecond presentFirst presentSecond (flagFirst ▸ flagSecond ▸ same)
  · exact wired.stored_bound
  · intro jobId flag stored j after moved same
    obtain ⟨old, present, sameId, sameFlag, _⟩ := setPhase_thread moved
    rw [sameId]
    exact wired.flag_owner jobId flag stored j old present (sameFlag ▸ same)
  · intro jobId j stored
    obtain ⟨old, info, present, named, recorded, agree⟩ := wired.handle jobId j stored
    obtain ⟨info', recorded', agree'⟩ := records jobId j old info stored present recorded agree
    refine ⟨if k = j then { old with phase } else old, info', ?_, ?_, recorded', ?_⟩
    · show (m.setPhase k phase).started[j]? = _
      rw [setPhase_getElem?, present, Option.map_some]
    · split <;> exact named
    · rw [agree']
      split <;> rfl

theorem Wired.setPhase (wired : m.Wired) (found : m.started[k]? = some thread) (before : thread.phase ≠ .finished)
    (after : phase ≠ .finished) : (m.setPhase k phase).Wired := by
  apply wired.progress
  intro jobId j old info stored present recorded agree
  refine ⟨info, recorded, ?_⟩
  by_cases here : k = j
  · subst here
    cases found.symm.trans present
    simp [agree, before, after]
  · simpa [here] using agree

/-- A final section writes the record of its own job: no other stored thread has its id. -/
theorem Wired.settle (wired : m.Wired) (found : m.started[k]? = some thread)
    (own : ∀ j, m.threads.lookup thread.jobId = some j → j = k) {status : JobStatus} (ended : status ≠ .running)
    (error : Option String) : (m.settle k thread.jobId status error).Wired := by
  suffices moved : ({ m.setPhase k .finished with
      jobs := (m.settle k thread.jobId status error).jobs } : JobManager Work).Wired from
    ⟨moved.flag_bound, moved.flag_distinct, moved.stored_bound, moved.flag_owner, moved.handle⟩
  apply wired.progress
  intro jobId j old info stored present recorded agree
  by_cases here : k = j
  · -- its own record: `RUNNING` goes with the phase
    subst here
    obtain ⟨other, _, foundOther, named, _⟩ := wired.handle jobId k stored
    cases foundOther.symm.trans found
    subst named
    exact ⟨_, by rw [JobManager.settle, Table.lookup_modify_self, recorded]; rfl, by simp [ended]⟩
  · have different : jobId ≠ thread.jobId := by
      rintro rfl
      exact here (own j stored).symm
    exact ⟨info, by rw [JobManager.settle, Table.lookup_modify_ne _ _ different]; exact recorded, by simpa [here] using agree⟩

/-- What a final section finds and what it leaves. -/
theorem finalSection_cases {after : JobManager Work} (ran : m.finalSection k = some after) :
    ∃ thread status error, m.started[k]? = some thread ∧ after = m.settle k thread.jobId status error ∧
      ((thread.phase = .returned ∧ status = if m.flagSet thread.flag then .cancelled else .completed) ∨
        (∃ what, thread.phase = .threw what ∧ status = .failed)) := by
  unfold finalSection at ran
  cases found : m.started[k]? with
  | none => simp [found] at ran
  | some thread =>
    simp only [found] at ran
    cases reached : thread.phase with
    | body => simp [reached] at ran
    | finished => simp [reached] at ran
    | returned =>
      simp only [reached, Option.some.injEq] at ran
      exact ⟨thread, _, _, rfl, ran.symm, .inl ⟨reached, rfl⟩⟩
    | threw what =>
      simp only [reached, Option.some.injEq] at ran
      exact ⟨thread, _, _, rfl, ran.symm, .inr ⟨what, reached, rfl⟩⟩

/-- A thread that runs its final section has left its body and is not finished yet. -/
theorem alive_of_reached {P Q : Prop}
    (reached : (thread.phase = .returned ∧ P) ∨ ∃ what, thread.phase = .threw what ∧ Q) :
    thread.phase ≠ .finished := by
  rcases reached with ⟨returned, _⟩ | ⟨what, threw, _⟩
  · simp [returned]
  · simp [threw]

theorem Held.settle (held : m.Held) (found : m.started[k]? = some thread) (before : thread.phase ≠ .finished)
    (status : JobStatus) (error : Option String) : (m.settle k thread.jobId status error).Held :=
  Held.setPhase held found before

theorem Drained.settle {handles : List Nat} (drained : m.Drained handles) (found : m.started[k]? = some thread)
    (before : thread.phase ≠ .finished) (status : JobStatus) (error : Option String) :
    (m.settle k thread.jobId status error).Drained handles := by
  have moved : (m.setPhase k .finished).Drained handles := drained.setPhase found before
  exact ⟨moved.no_threads, moved.no_flags, moved.waits⟩

end progress

/-! ## Stop flags -/

section flags
variable {m : JobManager Work}

/-- Storing into flags that exist moves no flag and no thread. -/
theorem Wired.flags (wired : m.Wired) {flags : List Bool} (same : flags.length = m.flags.length) :
    ({ m with flags } : JobManager Work).Wired where
  flag_bound := by
    intro k thread found
    exact same ▸ wired.flag_bound k thread found
  flag_distinct := wired.flag_distinct
  stored_bound := by
    intro jobId flag found
    exact same ▸ wired.stored_bound jobId flag found
  flag_owner := wired.flag_owner
  handle := wired.handle

theorem Wired.cancelJob (wired : m.Wired) (jobId : String) : (m.cancelJob jobId).Wired := by
  unfold JobManager.cancelJob
  split
  · exact wired.flags List.length_set
  · exact wired

theorem Held.cancelJob (held : m.Held) (jobId : String) : (m.cancelJob jobId).Held := by
  unfold JobManager.cancelJob
  split
  · exact held
  · exact held

theorem Drained.cancelJob {handles : List Nat} (drained : m.Drained handles) (jobId : String) :
    m.cancelJob jobId = m := by
  simp [JobManager.cancelJob, drained.no_flags]

/-- The stores of `Stop`, over any list of stored flags. -/
theorem foldl_set_length (entries : List (Sigma fun _ : String => Nat)) (flags : List Bool) :
    (entries.foldl (fun flags entry => flags.set entry.2 true) flags).length = flags.length := by
  induction entries generalizing flags with
  | nil => rfl
  | cons entry rest ih => simp [ih]

theorem foldl_set_getD (entries : List (Sigma fun _ : String => Nat)) (flags : List Bool) (flag : Nat)
    (inside : flag < flags.length) :
    (entries.foldl (fun flags entry => flags.set entry.2 true) flags).getD flag false =
      (flags.getD flag false || entries.any fun entry => decide (entry.2 = flag)) := by
  induction entries generalizing flags with
  | nil => simp
  | cons entry rest ih =>
    rw [List.foldl_cons, ih _ (by simpa using inside), List.any_cons, ← Bool.or_assoc]
    congr 1
    by_cases here : entry.2 = flag
    · simp [here, List.getD_eq_getElem?_getD, inside]
    · simp [here, List.getD_eq_getElem?_getD, List.getElem?_set_ne here]

theorem Wired.stopSection (wired : m.Wired) : m.stopSection.1.Wired where
  flag_bound := by
    intro k thread found
    simpa [JobManager.stopSection, foldl_set_length] using wired.flag_bound k thread found
  flag_distinct := wired.flag_distinct
  stored_bound := by
    intro jobId flag found
    simp [JobManager.stopSection] at found
  flag_owner := by
    intro jobId flag found
    simp [JobManager.stopSection] at found
  handle := by
    intro jobId k found
    simp [JobManager.stopSection] at found

/-- The section of `Stop` reaches every job the manager holds. -/
theorem Held.stopSection (wired : m.Wired) (held : m.Held) : m.stopSection.1.Drained m.stopSection.2 where
  no_threads := rfl
  no_flags := rfl
  waits := by
    intro k thread found alive
    obtain ⟨stored, flagged⟩ := held k thread found alive
    constructor
    · exact List.mem_map.mpr ⟨⟨thread.jobId, k⟩, Table.mem_entries_iff.mpr stored, rfl⟩
    · have inside := wired.flag_bound k thread found
      have reached : (m.stopFlags.entries.any fun entry => decide (entry.2 = thread.flag)) = true :=
        List.any_eq_true.mpr ⟨⟨thread.jobId, thread.flag⟩, Table.mem_entries_iff.mpr flagged, by simp⟩
      simp only [flagSet, JobManager.stopSection, foldl_set_getD _ _ _ inside, reached, Bool.or_true]

/-- Joining a handle needs its thread past the final section. -/
theorem Drained.join {k : Nat} {rest : List Nat} (drained : m.Drained (k :: rest)) {thread : JobThread Work}
    (found : m.started[k]? = some thread) (done : thread.phase = .finished) : m.Drained rest where
  no_threads := drained.no_threads
  no_flags := drained.no_flags
  waits := by
    intro j other present alive
    obtain ⟨member, flagged⟩ := drained.waits j other present alive
    refine ⟨?_, flagged⟩
    rcases List.mem_cons.mp member with rfl | later
    · cases found.symm.trans present
      exact absurd done alive
    · exact later

end flags

/-- What the manager owes the jobs still executing, at each stage of `Stop`. -/
def Custody (m : JobManager Work) : StopPhase → Prop
  | .idle => m.stopping = false ∧ m.Held
  | .exchanged => m.stopping = true ∧ m.Held
  | .joining handles => m.stopping = true ∧ m.Drained handles
  | .returned => m.stopping = true ∧ m.Drained []

theorem Custody.keep {m after : JobManager Work} {stop : StopPhase} (custody : m.Custody stop)
    (stopping : after.stopping = m.stopping) (held : m.Held → after.Held)
    (drained : ∀ handles, m.Drained handles → after.Drained handles) : after.Custody stop := by
  cases stop with
  | idle => exact ⟨stopping.trans custody.1, held custody.2⟩
  | exchanged => exact ⟨stopping.trans custody.1, held custody.2⟩
  | joining handles => exact ⟨stopping.trans custody.1, drained handles custody.2⟩
  | returned => exact ⟨stopping.trans custody.1, drained [] custody.2⟩

/-- Under either arrangement a thread still executing is the only one stored under its id. -/
theorem Custody.own {m : JobManager Work} {stop : StopPhase} (custody : m.Custody stop) {k : Nat}
    {thread : JobThread Work} (found : m.started[k]? = some thread) (alive : thread.phase ≠ .finished) (j : Nat)
    (stored : m.threads.lookup thread.jobId = some j) : j = k := by
  have fromHeld (held : m.Held) : j = k := Option.some.inj (stored.symm.trans (held k thread found alive).1)
  have fromDrained (empty : m.threads = ∅) : j = k := by simp [empty] at stored
  cases stop with
  | idle => exact fromHeld custody.2
  | exchanged => exact fromHeld custody.2
  | joining handles => exact fromDrained custody.2.no_threads
  | returned => exact fromDrained custody.2.no_threads

end JobManager

/-! ## Steps -/

open JobManager

/-- Everything a step can do, with what it finds. -/
inductive Takes (w : World Work) : Label Work → World Work → Prop
  | startJob (jobId requestId : String) (work : Work) (threadStarts : Bool) :
      Takes w (.startJob jobId requestId work threadStarts) { w with
        manager := (w.manager.startJob jobId requestId work threadStarts).2
        terminated := decide ((w.manager.startJob jobId requestId work threadStarts).1 = .terminated) }
  | bodyReturn (k : Nat) (thread : JobThread Work) (found : w.manager.started[k]? = some thread)
      (inside : thread.phase = .body) :
      Takes w (.bodyReturn k) { w with manager := w.manager.setPhase k .returned }
  | bodyThrow (k : Nat) (error : String) (thread : JobThread Work) (found : w.manager.started[k]? = some thread)
      (inside : thread.phase = .body) :
      Takes w (.bodyThrow k error) { w with manager := w.manager.setPhase k (.threw error) }
  | finalSection (k : Nat) (thread : JobThread Work) (status : JobStatus) (error : Option String)
      (found : w.manager.started[k]? = some thread)
      (reached : (thread.phase = .returned ∧ status = if w.manager.flagSet thread.flag then .cancelled else .completed) ∨
        (∃ what, thread.phase = .threw what ∧ status = .failed)) :
      Takes w (.finalSection k) { w with manager := w.manager.settle k thread.jobId status error }
  | cancelJob (jobId : String) : Takes w (.cancelJob jobId) { w with manager := w.manager.cancelJob jobId }
  | setMaxConcurrentJobs (maxJobs : UInt64) :
      Takes w (.setMaxConcurrentJobs maxJobs) { w with manager := w.manager.setMaxConcurrentJobs maxJobs }
  | stopAgain (stopping : w.manager.stopping = true) : Takes w .stop w
  | stop (running : w.manager.stopping = false) :
      Takes w .stop { w with manager := { w.manager with stopping := true }, stop := .exchanged }
  | stopSection (exchanged : w.stop = .exchanged) :
      Takes w .stopSection { w with manager := w.manager.stopSection.1, stop := .joining w.manager.stopSection.2 }
  | stopJoin (k : Nat) (rest : List Nat) (thread : JobThread Work) (joining : w.stop = .joining (k :: rest))
      (found : w.manager.started[k]? = some thread) (finished : thread.phase = .finished) :
      Takes w .stopJoin { w with stop := .joining rest }
  | stopReturn (joined : w.stop = .joining []) : Takes w .stopReturn { w with stop := .returned }

theorem stepLive_takes {w next : World Work} {label : Label Work} (taken : stepLive w label = some next) :
    Takes w label next := by
  cases label with
  | startJob jobId requestId work threadStarts =>
    cases taken
    exact .startJob jobId requestId work threadStarts
  | bodyReturn k =>
    obtain ⟨thread, found, inside, rfl⟩ := World.leaveBody_eq_some taken
    exact .bodyReturn k thread found inside
  | bodyThrow k error =>
    obtain ⟨thread, found, inside, rfl⟩ := World.leaveBody_eq_some taken
    exact .bodyThrow k error thread found inside
  | finalSection k =>
    obtain ⟨after, ran, rfl⟩ := Option.map_eq_some_iff.mp taken
    obtain ⟨thread, status, error, found, rfl, reached⟩ := finalSection_cases ran
    exact .finalSection k thread status error found reached
  | cancelJob jobId =>
    cases taken
    exact .cancelJob jobId
  | setMaxConcurrentJobs maxJobs =>
    cases taken
    exact .setMaxConcurrentJobs maxJobs
  | stop =>
    simp only [stepLive] at taken
    split at taken
    next stopping =>
      cases taken
      exact .stopAgain stopping
    next running =>
      cases taken
      exact .stop (Bool.eq_false_of_not_eq_true running)
  | stopSection =>
    simp only [stepLive] at taken
    split at taken
    next exchanged =>
      cases taken
      exact .stopSection exchanged
    · cases taken
  | stopJoin =>
    simp only [stepLive] at taken
    split at taken
    next k rest joining =>
      split at taken
      next joinable =>
        cases taken
        cases found : w.manager.started[k]? with
        | none => simp [found] at joinable
        | some thread => exact .stopJoin k rest thread joining found (by simpa [found] using joinable)
      · cases taken
    · cases taken
  | stopReturn =>
    simp only [stepLive] at taken
    split at taken
    next joined =>
      cases taken
      exact .stopReturn joined
    · cases taken

theorem step_takes {w next : World Work} {label : Label Work} (taken : step w label = some next) :
    w.terminated = false ∧ Takes w label next := by
  unfold step at taken
  split at taken
  · cases taken
  next live => exact ⟨Bool.eq_false_of_not_eq_true live, stepLive_takes taken⟩

end TelemetryLab.Jobs
