import TelemetryLab.Jobs.Consistency

/-! When the job manager keeps hold of every running job.

The reachable states of the manager are consistent as long as no admission
reuses the id of a job that is still running. The converse holds too: such an
admission either overwrites the stop flag of the running job, when the thread
cannot be created, or assigns over its handle and ends the process.
-/

set_option autoImplicit false
namespace TelemetryLab.Jobs
open Transition JobManager

variable {Work : Type}

structure Consistent (w : World Work) : Prop where
  live : w.terminated = false
  wired : w.manager.Wired
  custody : w.manager.Custody w.stop

theorem init_consistent : Consistent (World.init : World Work) where
  live := rfl
  wired := init_wired
  custody := ⟨rfl, init_held⟩

/-- An admission under an id finds no running job stored under it. -/
def NoRunningReuse (w : World Work) : Label Work → Prop
  | .startJob jobId _ _ _ =>
    w.manager.Admits → ¬ (jobId ∈ w.manager.threads ∧ w.manager.getStatus jobId = .running)
  | _ => True

/-- Before the section of `Stop`, each executing body has its own stop flag and
its own handle stored under its id, and no handle has been assigned over. -/
def KeepsHold (w : World Work) : Prop :=
  w.stop = .idle ∨ w.stop = .exchanged → w.manager.Held ∧ w.terminated = false

theorem Consistent.keepsHold {w : World Work} (consistent : Consistent w) : KeepsHold w := by
  intro before
  refine ⟨?_, consistent.live⟩
  have custody := consistent.custody
  rcases before with idle | exchanged
  · rw [idle] at custody
    exact custody.2
  · rw [exchanged] at custody
    exact custody.2

/-- Only a manager that has not begun to stop admits jobs. -/
theorem Consistent.idle_of_admits {w : World Work} (consistent : Consistent w) (admits : w.manager.Admits) :
    w.stop = .idle ∧ w.manager.Held := by
  obtain ⟨_, _, custody⟩ := consistent
  have running := admits.1
  cases phase : w.stop with
  | idle => exact ⟨rfl, (phase ▸ custody).2⟩
  | exchanged => exact absurd (phase ▸ custody).1 (by simp [running])
  | joining handles => exact absurd (phase ▸ custody).1 (by simp [running])
  | returned => exact absurd (phase ▸ custody).1 (by simp [running])

/-- For a stored id, cleanup keeps the handle exactly when the job is running. -/
theorem JobManager.Wired.mem_cleanup_iff {m : JobManager Work} (wired : m.Wired) {jobId : String} :
    jobId ∈ m.cleanupFinishedThreads.threads ↔ jobId ∈ m.threads ∧ m.getStatus jobId = .running := by
  rw [mem_cleanup_threads]
  refine and_congr_right fun stored => ?_
  obtain ⟨k, lookup⟩ := Table.exists_lookup stored
  obtain ⟨_, info, _, _, recorded, _⟩ := wired.handle jobId k lookup
  simp [finishedJob, getStatus, recorded]

/-! ## Steps -/

/-- `StartJob`, under any outcome that leaves the process alive. -/
theorem startJob_consistent {w : World Work} (consistent : Consistent w) {jobId requestId : String} {work : Work}
    {threadStarts : Bool} (fresh : NoRunningReuse w (.startJob jobId requestId work threadStarts)) :
    let result := w.manager.startJob jobId requestId work threadStarts
    Consistent { w with manager := result.2, terminated := decide (result.1 = .terminated) } := by
  obtain ⟨live, wired, custody⟩ := consistent
  have idle := fun admits => (Consistent.idle_of_admits ⟨live, wired, custody⟩ admits : w.stop = .idle ∧ _)
  rcases startJob_cases w.manager jobId requestId work threadStarts with
    ⟨_, what, outcome, ⟨_, same⟩ | cleaned⟩ | ⟨admits, _, result⟩ | ⟨admits, _, stored, _⟩ | ⟨admits, _, free, result⟩
  · refine ⟨by simp [outcome], ?_, ?_⟩
    · simpa only [same] using wired
    · simpa only [same] using custody
  · refine ⟨by simp [outcome], cleaned ▸ wired.cleanup, ?_⟩
    simp only [cleaned]
    exact custody.keep rfl (Held.cleanup wired) fun handles drained =>
      ⟨by simp [cleanupFinishedThreads, drained.no_threads]; rfl,
        by simp [cleanupFinishedThreads, drained.no_flags]; rfl, drained.waits⟩
  · -- no thread: the flag is replaced, the handles are not
    have free : jobId ∉ w.manager.cleanupFinishedThreads.threads :=
      fun stored => fresh admits (wired.mem_cleanup_iff.mp stored)
    refine ⟨by simp [result], result ▸ wired.cleanup.enlist free, ?_⟩
    simp only [result, (idle admits).1]
    exact ⟨admits.1, (Held.cleanup wired (idle admits).2).enlist free⟩
  · exact absurd (wired.mem_cleanup_iff.mp stored) (fresh admits)
  · refine ⟨by simp [result], result ▸ wired.cleanup.launch free, ?_⟩
    simp only [result, (idle admits).1]
    exact ⟨admits.1, (Held.cleanup wired (idle admits).2).launch free⟩

theorem leaveBody_consistent {w : World Work} (consistent : Consistent w) {k : Nat} {thread : JobThread Work}
    (found : w.manager.started[k]? = some thread) (inside : thread.phase = .body) {phase : Phase}
    (after : phase ≠ .finished) : Consistent { w with manager := w.manager.setPhase k phase } := by
  obtain ⟨live, wired, custody⟩ := consistent
  have before : thread.phase ≠ .finished := by simp [inside]
  exact ⟨live, wired.setPhase found before after,
    custody.keep rfl (fun held => held.setPhase found before) fun _ drained => drained.setPhase found before⟩

theorem finalSection_consistent {w : World Work} (consistent : Consistent w) {k : Nat} {thread : JobThread Work}
    {status : JobStatus} (error : Option String) (found : w.manager.started[k]? = some thread)
    (reached : (thread.phase = .returned ∧ status = if w.manager.flagSet thread.flag then .cancelled else .completed) ∨
      (∃ what, thread.phase = .threw what ∧ status = .failed)) :
    Consistent { w with manager := w.manager.settle k thread.jobId status error } := by
  obtain ⟨live, wired, custody⟩ := consistent
  have before : thread.phase ≠ .finished := alive_of_reached reached
  have ended : status ≠ .running := by
    rcases reached with ⟨_, rfl⟩ | ⟨_, _, rfl⟩
    · split <;> simp
    · simp
  exact ⟨live, wired.settle found (custody.own found before) ended error,
    custody.keep rfl (fun held => held.settle found before status error) fun _ drained => drained.settle found before status error⟩

theorem step_consistent {w next : World Work} {label : Label Work} (consistent : Consistent w)
    (fresh : NoRunningReuse w label) (taken : step w label = some next) : Consistent next := by
  obtain ⟨live, takes⟩ := step_takes taken
  cases takes with
  | startJob jobId requestId work threadStarts => exact startJob_consistent consistent fresh
  | bodyReturn k thread found inside => exact leaveBody_consistent consistent found inside (by simp)
  | bodyThrow k error thread found inside => exact leaveBody_consistent consistent found inside (by simp)
  | finalSection k thread status error found reached => exact finalSection_consistent consistent error found reached
  | cancelJob jobId =>
    obtain ⟨_, wired, custody⟩ := consistent
    refine ⟨live, wired.cancelJob jobId, ?_⟩
    apply custody.keep
    · simp only [JobManager.cancelJob]
      split <;> rfl
    · exact fun held => held.cancelJob jobId
    · exact fun _ drained => (drained.cancelJob jobId).symm ▸ drained
  | setMaxConcurrentJobs maxJobs =>
    obtain ⟨_, wired, custody⟩ := consistent
    exact ⟨live, ⟨wired.flag_bound, wired.flag_distinct, wired.stored_bound, wired.flag_owner, wired.handle⟩,
      custody.keep rfl id fun _ drained => ⟨drained.no_threads, drained.no_flags, drained.waits⟩⟩
  | stopAgain => exact consistent
  | stop running =>
    obtain ⟨_, wired, custody⟩ := consistent
    -- A manager that is not stopping has never been asked to, so it holds its jobs.
    have asked {P : Prop} (stopping : w.manager.stopping = true) : P := by simp [running] at stopping
    cases phase : w.stop with
    | idle =>
      rw [phase] at custody
      exact ⟨live, ⟨wired.flag_bound, wired.flag_distinct, wired.stored_bound, wired.flag_owner, wired.handle⟩,
        rfl, custody.2⟩
    | exchanged => exact asked (phase ▸ custody).1
    | joining handles => exact asked (phase ▸ custody).1
    | returned => exact asked (phase ▸ custody).1
  | stopSection exchanged =>
    obtain ⟨_, wired, custody⟩ := consistent
    rw [exchanged] at custody
    exact ⟨live, wired.stopSection, custody.1, custody.2.stopSection wired⟩
  | stopJoin k rest thread joining found finished =>
    obtain ⟨_, wired, custody⟩ := consistent
    rw [joining] at custody
    exact ⟨live, wired, custody.1, custody.2.join found finished⟩
  | stopReturn joined =>
    obtain ⟨_, wired, custody⟩ := consistent
    rw [joined] at custody
    exact ⟨live, wired, custody⟩

/-- An admission over a running job always breaks the hold on it. -/
theorem reuse_loses_hold {w next : World Work} {label : Label Work} (consistent : Consistent w)
    (taken : step w label = some next) (holds : KeepsHold next) : NoRunningReuse w label := by
  cases label with
  | startJob jobId requestId work threadStarts =>
    intro admits reused
    obtain ⟨idle, _⟩ := consistent.idle_of_admits admits
    have wired := consistent.wired
    simp only [step, consistent.live, Bool.false_eq_true, if_false, stepLive, Option.some.injEq] at taken
    subst taken
    obtain ⟨held, live⟩ := holds (.inl idle)
    have stored := wired.mem_cleanup_iff.mpr reused
    rcases startJob_cases w.manager jobId requestId work threadStarts with
      ⟨refused, _⟩ | ⟨_, _, result⟩ | ⟨_, _, _, result⟩ | ⟨_, _, free, _⟩
    · exact refused admits
    · -- The flag stored under the id is now the new one, not that of the running job.
      obtain ⟨k, thread, _, found, rfl, alive⟩ := wired.alive_of_mem_cleanup stored
      rw [result] at held
      have flagged := (held k thread found alive).2
      rw [enlist_stopFlags_lookup, if_pos rfl] at flagged
      have bound := wired.flag_bound k thread found
      simp only [cleanup_flags, Option.some.injEq] at flagged
      omega
    · -- the assignment over the handle has ended the process
      simp [result] at live
    · exact free stored
  | bodyReturn k => trivial
  | bodyThrow k error => trivial
  | finalSection k => trivial
  | cancelJob jobId => trivial
  | setMaxConcurrentJobs maxJobs => trivial
  | stop => trivial
  | stopSection => trivial
  | stopJoin => trivial
  | stopReturn => trivial

/-- Over any run, the manager keeps hold of every running job exactly when no
admission reuses the id of a job that is still running. -/
theorem keeps_hold_iff_no_running_reuse (schedule : List (Label Work)) :
    States step KeepsHold World.init schedule ↔ Steps step NoRunningReuse World.init schedule :=
  states_iff_steps (fun _ => Consistent.keepsHold) (fun _ _ _ => step_consistent)
    (fun _ _ _ => reuse_loses_hold) schedule init_consistent

/-- Two requests that see the same pending score job start it under one id. -/
theorem restart_over_running_job_terminates :
    ¬ ∀ schedule : List (Label Unit), States step KeepsHold World.init schedule := by
  intro all
  have visited := all [.startJob "score-j" "first" () true, .startJob "score-j" "second" () true]
  obtain ⟨_, live⟩ := visited.exec rfl (.inl rfl)
  exact absurd live (by decide)

end TelemetryLab.Jobs
