import TelemetryLab.Jobs.Threads

/-! Jobs whose id is used once.

The manager may lose the stop flag of a job when its id is used again. Ids of
which this cannot happen keep their jobs within reach of `CancelJob`, whatever
happens to the others.
-/

set_option autoImplicit false
namespace TelemetryLab.Jobs
open JobManager

variable {Work : Type}

/-- A stored flag belongs to jobs of one id. A job with a single-use id keeps its
record and its flag up to its final section, or has been told to stop. -/
structure JobManager.Watched (single : String → Prop) (m : JobManager Work) : Prop where
  flag_bound : ∀ (k : Nat) (thread : JobThread Work), m.started[k]? = some thread → thread.flag < m.flags.length
  stored_bound : ∀ jobId flag, m.stopFlags.lookup jobId = some flag → flag < m.flags.length
  flag_owner : ∀ jobId flag, m.stopFlags.lookup jobId = some flag →
    ∀ (k : Nat) (thread : JobThread Work), m.started[k]? = some thread → thread.flag = flag → thread.jobId = jobId
  once : ∀ (i j : Nat) (first second : JobThread Work), m.started[i]? = some first → m.started[j]? = some second →
    single first.jobId → first.jobId = second.jobId → i = j
  recorded : ∀ (k : Nat) (thread : JobThread Work), m.started[k]? = some thread → single thread.jobId →
    thread.phase ≠ .finished → m.finishedJob thread.jobId = false
  stored : ∀ (k : Nat) (thread : JobThread Work), m.started[k]? = some thread → single thread.jobId →
    thread.phase ≠ .finished → m.stopFlags.lookup thread.jobId = some thread.flag ∨ m.flagSet thread.flag = true

/-- A single-use id is started while no thread has it. -/
def FirstUse (single : String → Prop) (m : JobManager Work) (jobId : String) : Prop :=
  single jobId → ∀ (k : Nat) (thread : JobThread Work), m.started[k]? = some thread → thread.jobId ≠ jobId

namespace JobManager
variable {single : String → Prop} {m : JobManager Work}

theorem init_watched : Watched single (JobManager.init : JobManager Work) := by
  constructor <;> simp [init]

/-- `CancelJob` under another id leaves the flag of a thread alone. -/
theorem Watched.cancelJob_other (watched : m.Watched single) {k : Nat} {thread : JobThread Work}
    (found : m.started[k]? = some thread) {jobId : String} (other : jobId ≠ thread.jobId) :
    (m.cancelJob jobId).flagSet thread.flag = m.flagSet thread.flag := by
  unfold JobManager.cancelJob
  split
  next flag stored =>
    have different : flag ≠ thread.flag :=
      fun same => other (watched.flag_owner jobId flag stored k thread found same.symm).symm
    simp [flagSet, List.getD_eq_getElem?_getD, List.getElem?_set_ne different]
  · rfl

theorem Watched.cancelJob_self (watched : m.Watched single) {k : Nat} {thread : JobThread Work}
    (found : m.started[k]? = some thread) (once : single thread.jobId) (alive : thread.phase ≠ .finished) :
    (m.cancelJob thread.jobId).flagSet thread.flag = true := by
  rcases watched.stored k thread found once alive with stored | set
  · have bound := watched.flag_bound k thread found
    simp [JobManager.cancelJob, stored, flagSet, List.getD_eq_getElem?_getD, bound]
  · exact m.cancelJob_flagsGrow thread.jobId thread.flag set

/-! ## The operations -/

/-- Threads that move on within their jobs. -/
theorem Watched.threads (watched : m.Watched single) {after : JobManager Work} (flags : after.flags = m.flags)
    (stopFlags : after.stopFlags = m.stopFlags)
    (kept : ∀ (k : Nat) (thread : JobThread Work), after.started[k]? = some thread → ∃ before,
      m.started[k]? = some before ∧ thread.jobId = before.jobId ∧ thread.flag = before.flag ∧
        (single thread.jobId → thread.phase ≠ .finished → before.phase ≠ .finished ∧
          (m.finishedJob thread.jobId = false → after.finishedJob thread.jobId = false))) :
    after.Watched single where
  flag_bound := by
    intro k thread found
    obtain ⟨before, present, _, flag, _⟩ := kept k thread found
    rw [flags, flag]
    exact watched.flag_bound k before present
  stored_bound := by
    rw [flags, stopFlags]
    exact watched.stored_bound
  flag_owner := by
    intro jobId flag stored k thread found same
    obtain ⟨before, present, sameId, sameFlag, _⟩ := kept k thread found
    rw [sameId]
    exact watched.flag_owner jobId flag (stopFlags ▸ stored) k before present (sameFlag ▸ same)
  once := by
    intro i j first second foundFirst foundSecond once same
    obtain ⟨oldFirst, presentFirst, idFirst, _⟩ := kept i first foundFirst
    obtain ⟨oldSecond, presentSecond, idSecond, _⟩ := kept j second foundSecond
    exact watched.once i j oldFirst oldSecond presentFirst presentSecond (idFirst ▸ once) (idFirst ▸ idSecond ▸ same)
  recorded := by
    intro k thread found once alive
    obtain ⟨before, present, sameId, _, moved⟩ := kept k thread found
    obtain ⟨was, records⟩ := moved once alive
    exact records (sameId ▸ watched.recorded k before present (sameId ▸ once) was)
  stored := by
    intro k thread found once alive
    obtain ⟨before, present, sameId, sameFlag, moved⟩ := kept k thread found
    rw [sameId, sameFlag, stopFlags, flagSet, flags]
    exact watched.stored k before present (sameId ▸ once) (moved once alive).1

/-- Nothing happens to the threads, their flags and their records. -/
theorem Watched.aside (watched : m.Watched single) {after : JobManager Work} (started : after.started = m.started)
    (flags : after.flags = m.flags) (stopFlags : after.stopFlags = m.stopFlags) (jobs : after.jobs = m.jobs) :
    after.Watched single := by
  refine watched.threads flags stopFlags fun k thread found => ?_
  refine ⟨thread, started ▸ found, rfl, rfl, fun _ alive => ⟨alive, fun unfinished => ?_⟩⟩
  rw [finishedJob, jobs]
  exact unfinished

theorem Watched.setPhase (watched : m.Watched single) {k : Nat} {thread : JobThread Work} {phase : Phase}
    (found : m.started[k]? = some thread) (alive : thread.phase ≠ .finished) : (m.setPhase k phase).Watched single := by
  refine watched.threads rfl rfl fun j after moved => ?_
  obtain ⟨before, present, sameId, sameFlag, samePhase⟩ := setPhase_thread moved
  refine ⟨before, present, sameId, sameFlag, fun _ unfinished => ⟨?_, fun recorded => recorded⟩⟩
  by_cases here : k = j
  · subst here
    cases found.symm.trans present
    exact alive
  · rw [samePhase, if_neg here] at unfinished
    exact unfinished

/-- A final section ends the record of its own job, which no other thread with a
single-use id shares. -/
theorem Watched.settle (watched : m.Watched single) {k : Nat} {thread : JobThread Work}
    (found : m.started[k]? = some thread) (status : JobStatus) (error : Option String) :
    (m.settle k thread.jobId status error).Watched single := by
  refine watched.threads rfl rfl fun j after moved => ?_
  obtain ⟨before, present, sameId, sameFlag, samePhase⟩ := setPhase_thread moved
  refine ⟨before, present, sameId, sameFlag, fun once unfinished => ?_⟩
  have elsewhere : k ≠ j := fun here => by simp [samePhase, here] at unfinished
  rw [samePhase, if_neg elsewhere] at unfinished
  refine ⟨unfinished, fun recorded => ?_⟩
  have different : after.jobId ≠ thread.jobId := by
    intro same
    exact elsewhere (watched.once j k before thread present found (sameId ▸ once) (sameId ▸ same)).symm
  rw [finishedJob, JobManager.settle, Table.lookup_modify_ne _ _ different]
  exact recorded

theorem Watched.flags (watched : m.Watched single) {flags : List Bool} (same : flags.length = m.flags.length)
    (grow : ∀ flag, m.flagSet flag = true → flags.getD flag false = true) :
    ({ m with flags } : JobManager Work).Watched single where
  flag_bound := fun k thread found => same ▸ watched.flag_bound k thread found
  stored_bound := fun jobId flag found => same ▸ watched.stored_bound jobId flag found
  flag_owner := watched.flag_owner
  once := watched.once
  recorded := watched.recorded
  stored := fun k thread found once alive => (watched.stored k thread found once alive).imp_right (grow thread.flag)

theorem Watched.cancelJob (watched : m.Watched single) (jobId : String) : (m.cancelJob jobId).Watched single := by
  have grow := m.cancelJob_flagsGrow jobId
  unfold JobManager.cancelJob at grow ⊢
  split at grow
  next => exact watched.flags (List.length_set ..) grow
  next => exact watched

/-- `Stop` tells every stored job, and forgets them. -/
theorem Watched.stopSection (watched : m.Watched single) : m.stopSection.1.Watched single where
  flag_bound := by
    intro k thread found
    have length (entries : List (Sigma fun _ : String => Nat)) (flags : List Bool) :
        (entries.foldl (fun flags entry => flags.set entry.2 true) flags).length = flags.length := by
      induction entries generalizing flags with
      | nil => rfl
      | cons entry rest ih => rw [List.foldl_cons, ih, List.length_set]
    rw [JobManager.stopSection, length]
    exact watched.flag_bound k thread found
  stored_bound := by simp [JobManager.stopSection]
  flag_owner := by simp [JobManager.stopSection]
  once := watched.once
  recorded := watched.recorded
  stored := by
    intro k thread found once alive
    refine .inr ?_
    rcases watched.stored k thread found once alive with stored | set
    · have reached : (m.stopFlags.entries.any fun entry => decide (entry.2 = thread.flag)) = true :=
        List.any_eq_true.mpr ⟨⟨_, _⟩, Table.mem_entries_iff.mpr stored, decide_eq_true rfl⟩
      have bound := watched.flag_bound k thread found
      simp only [flagSet, JobManager.stopSection, foldl_set_getD _ _ _ bound, reached, Bool.or_true]
    · exact m.stopSection_flagsGrow thread.flag set

theorem Watched.cleanup (watched : m.Watched single) : m.cleanupFinishedThreads.Watched single where
  flag_bound := watched.flag_bound
  stored_bound := fun jobId flag found => watched.stored_bound jobId flag (cleanup_stopFlags_lookup found)
  flag_owner := fun jobId flag found => watched.flag_owner jobId flag (cleanup_stopFlags_lookup found)
  once := watched.once
  recorded := watched.recorded
  stored := by
    intro k thread found once alive
    have running := watched.recorded k thread found once alive
    refine (watched.stored k thread found once alive).imp_left fun stored => ?_
    simp [cleanupFinishedThreads, stored, running]

theorem Watched.enlist (watched : m.Watched single) {jobId requestId : String} (first : FirstUse single m jobId) :
    (m.enlist jobId requestId).Watched single where
  flag_bound := by
    intro k thread found
    have bound := watched.flag_bound k thread found
    simp only [JobManager.enlist, List.length_append, List.length_singleton]
    omega
  stored_bound := by
    intro other flag found
    rw [enlist_stopFlags_lookup] at found
    simp only [JobManager.enlist, List.length_append, List.length_singleton]
    split at found
    · cases found
      omega
    · have bound := watched.stored_bound other flag found
      omega
  flag_owner := by
    intro other flag found k thread present same
    rw [enlist_stopFlags_lookup] at found
    split at found
    · -- the new flag is not yet the flag of any thread
      have bound := watched.flag_bound k thread present
      cases found
      omega
    · exact watched.flag_owner other flag found k thread present same
  once := watched.once
  recorded := by
    intro k thread found once alive
    have different : thread.jobId ≠ jobId := fun same => first (same ▸ once) k thread found same
    rw [finishedJob, JobManager.enlist, AList.lookup_insert_ne different]
    exact watched.recorded k thread found once alive
  stored := by
    intro k thread found once alive
    have different : thread.jobId ≠ jobId := fun same => first (same ▸ once) k thread found same
    rw [enlist_stopFlags_lookup, if_neg different]
    exact (watched.stored k thread found once alive).imp_right (m.enlist_flagsGrow jobId requestId thread.flag)

theorem Watched.running (watched : m.Watched single) {jobId requestId : String} (work : Work)
    (first : FirstUse single m jobId) : (m.running jobId requestId work).Watched single := by
  have listed : (m.enlist jobId requestId).Watched single := watched.enlist first
  have thread_cases {k : Nat} {thread : JobThread Work}
      (found : (m.running jobId requestId work).started[k]? = some thread) :
      m.started[k]? = some thread ∨ k = m.started.length ∧ thread = ⟨jobId, requestId, work, m.flags.length, .body⟩ :=
    launch_thread found
  constructor
  · intro k thread found
    rcases thread_cases found with old | ⟨_, rfl⟩
    · exact listed.flag_bound k thread old
    · simp [JobManager.running, JobManager.enlist]
  · exact listed.stored_bound
  · intro other flag found k thread present same
    rcases thread_cases present with old | ⟨_, rfl⟩
    · exact listed.flag_owner other flag found k thread old same
    · have found : (m.enlist jobId requestId).stopFlags.lookup other = some flag := found
      rw [enlist_stopFlags_lookup] at found
      split at found
      next here => exact here.symm
      next elsewhere =>
        have bound := watched.stored_bound other flag found
        simp only at same
        omega
  · intro i j one two foundOne foundTwo once same
    rcases thread_cases foundOne with oldOne | ⟨atOne, rfl⟩ <;> rcases thread_cases foundTwo with oldTwo | ⟨atTwo, rfl⟩
    · exact watched.once i j one two oldOne oldTwo once same
    · have once : single jobId := by
        rw [same] at once
        exact once
      exact absurd same (first once i one oldOne)
    · exact absurd same.symm (first once j two oldTwo)
    · omega
  · intro k thread found once alive
    rcases thread_cases found with old | ⟨_, rfl⟩
    · exact listed.recorded k thread old once alive
    · simp [finishedJob, JobManager.running, JobManager.enlist]
  · intro k thread found once alive
    rcases thread_cases found with old | ⟨_, rfl⟩
    · exact listed.stored k thread old once alive
    · exact .inl (by simp [JobManager.running, JobManager.enlist])

theorem Watched.startJob (watched : m.Watched single) {jobId requestId : String} {work : Work} {threadStarts : Bool}
    (first : FirstUse single m jobId) : (m.startJob jobId requestId work threadStarts).2.Watched single := by
  have clean := watched.cleanup
  have unused : FirstUse single m.cleanupFinishedThreads jobId := first
  rcases startJob_cases m jobId requestId work threadStarts with
    ⟨_, what, _, ⟨_, same⟩ | cleaned⟩ | ⟨_, _, result⟩ | ⟨_, _, _, result⟩ | ⟨_, _, _, result⟩
  · rw [same]
    exact watched
  · rw [cleaned]
    exact clean
  · rw [result]
    exact clean.enlist unused
  · rw [result]
    exact clean.running work unused
  · rw [result]
    exact (clean.running work unused).aside rfl rfl rfl rfl

theorem Watched.stepLive {w next : World Work} {label : Label Work} (watched : w.manager.Watched single)
    (first : ∀ jobId requestId work threadStarts, label = .startJob jobId requestId work threadStarts →
      FirstUse single w.manager jobId)
    (taken : stepLive w label = some next) : next.manager.Watched single := by
  cases stepLive_takes taken with
  | startJob jobId requestId work threadStarts => exact watched.startJob (first jobId requestId work threadStarts rfl)
  | bodyReturn k thread found inside => exact watched.setPhase found (by simp [inside])
  | bodyThrow k error thread found inside => exact watched.setPhase found (by simp [inside])
  | finalSection k thread status error found => exact watched.settle found status error
  | cancelJob jobId => exact watched.cancelJob jobId
  | stopSection => exact watched.stopSection
  | setMaxConcurrentJobs | stop => exact watched.aside rfl rfl rfl rfl
  | stopAgain | stopJoin | stopReturn => exact watched

end JobManager
end TelemetryLab.Jobs
