import TelemetryLab.Jobs.Custody

/-! Slots and final statuses of jobs with distinct ids.

With distinct ids and threads that can be created, every step is one of four
effects: an admission, a body that ends, a final section, or a step that only
touches flags, limits and the maps. Slot accounting and final statuses are read
off these effects.
-/

set_option autoImplicit false
namespace TelemetryLab.Jobs
open Transition JobManager

variable {Work : Type}

/-- `StartJob` is called with an id no admitted job has had, and the thread can
be created. -/
def FreshIds (w : World Work) : Label Work → Prop
  | .startJob jobId _ _ threadStarts => threadStarts = true ∧ ∀ thread ∈ w.manager.started, thread.jobId ≠ jobId
  | _ => True

instance (w : World Work) : (label : Label Work) → Decidable (FreshIds w label)
  | .startJob jobId _ _ threadStarts =>
    inferInstanceAs (Decidable (threadStarts = true ∧ ∀ thread ∈ w.manager.started, thread.jobId ≠ jobId))
  | .bodyReturn _ | .bodyThrow _ _ | .finalSection _ | .cancelJob _ | .setMaxConcurrentJobs _
  | .stop | .stopSection | .stopJoin | .stopReturn => .isTrue trivial

/-- The label is the end of the body of job `k` by an exception. -/
def Label.throws (k : Nat) : Label Work → Bool
  | .bodyThrow j _ => decide (j = k)
  | _ => false

/-- The label sets the stop flag of every held job of this id. -/
def Label.cancels (jobId : String) : Label Work → Bool
  | .cancelJob other => decide (other = jobId)
  | .stopSection => true
  | _ => false

def Label.isFinal (k : Nat) : Label Work → Bool
  | .finalSection j => decide (j = k)
  | _ => false

/-- The final status owed to job `k`, from what happened while it executed. -/
def verdict (k : Nat) (jobId : String) (history : List (Label Work)) : JobStatus :=
  if history.any (Label.throws k) then .failed
  else if history.any (Label.cancels jobId) then .cancelled
  else .completed

def JobManager.unfinished (m : JobManager Work) : Nat :=
  m.started.countP fun thread => decide (thread.phase ≠ .finished)

def JobManager.isFinished (m : JobManager Work) (k : Nat) : Bool :=
  (m.started[k]?).any fun thread => decide (thread.phase = .finished)

/-! ## The effect of a step -/

/-- What a step that neither starts, ends nor settles a job leaves alone. -/
structure Aside (w next : World Work) (label : Label Work) : Prop where
  started : next.manager.started = w.manager.started
  jobs : next.manager.jobs = w.manager.jobs
  currentJobs : next.manager.currentJobs = w.manager.currentJobs
  flagged : ∀ (k : Nat) (thread : JobThread Work), w.manager.started[k]? = some thread → thread.phase ≠ .finished →
    next.manager.flagSet thread.flag = (w.manager.flagSet thread.flag || label.cancels thread.jobId)
  throws : ∀ k, label.throws k = false
  isFinal : ∀ k, label.isFinal k = false

inductive Effect (w : World Work) : Label Work → World Work → Prop
  | admission (jobId requestId : String) (work : Work) (admits : w.manager.Admits)
      (free : jobId ∉ w.manager.cleanupFinishedThreads.threads)
      (fresh : ∀ thread ∈ w.manager.started, thread.jobId ≠ jobId) :
      Effect w (.startJob jobId requestId work true)
        { w with manager := w.manager.cleanupFinishedThreads.launch jobId requestId work, terminated := false }
  | bodyReturn (k : Nat) (thread : JobThread Work) (found : w.manager.started[k]? = some thread)
      (inside : thread.phase = .body) :
      Effect w (.bodyReturn k) { w with manager := w.manager.setPhase k .returned }
  | bodyThrow (k : Nat) (error : String) (thread : JobThread Work) (found : w.manager.started[k]? = some thread)
      (inside : thread.phase = .body) :
      Effect w (.bodyThrow k error) { w with manager := w.manager.setPhase k (.threw error) }
  | finalSection (k : Nat) (thread : JobThread Work) (status : JobStatus) (error : Option String)
      (found : w.manager.started[k]? = some thread)
      (reached : (thread.phase = .returned ∧ status = if w.manager.flagSet thread.flag then .cancelled else .completed) ∨
        (∃ what, thread.phase = .threw what ∧ status = .failed)) :
      Effect w (.finalSection k) { w with manager := w.manager.settle k thread.jobId status error }
  | aside (label : Label Work) (next : World Work) (frame : Aside w next label) : Effect w label next

theorem FreshIds.noRunningReuse {w : World Work} {label : Label Work} (consistent : Consistent w)
    (fresh : FreshIds w label) : NoRunningReuse w label := by
  cases label with
  | startJob jobId requestId work threadStarts =>
    intro _ reused
    obtain ⟨k, thread, _, found, named, _⟩ :=
      consistent.wired.alive_of_mem_cleanup (consistent.wired.mem_cleanup_iff.mpr reused)
    exact fresh.2 thread (List.mem_of_getElem? found) named
  | bodyReturn k => trivial
  | bodyThrow k error => trivial
  | finalSection k => trivial
  | cancelJob jobId => trivial
  | setMaxConcurrentJobs maxJobs => trivial
  | stop => trivial
  | stopSection => trivial
  | stopJoin => trivial
  | stopReturn => trivial

/-- `CancelJob` reaches the flag of an executing job exactly under its own id;
after `Stop` it reaches nothing, and every executing job is flagged already. -/
theorem Consistent.cancelJob_flag {w : World Work} (consistent : Consistent w) {k : Nat} {thread : JobThread Work}
    (found : w.manager.started[k]? = some thread) (alive : thread.phase ≠ .finished) (jobId : String) :
    (w.manager.cancelJob jobId).flagSet thread.flag =
      (w.manager.flagSet thread.flag || decide (jobId = thread.jobId)) := by
  obtain ⟨_, wired, custody⟩ := consistent
  have fromHeld (held : w.manager.Held) : (w.manager.cancelJob jobId).flagSet thread.flag =
      (w.manager.flagSet thread.flag || decide (jobId = thread.jobId)) := by
    have flagged := (held k thread found alive).2
    have bound := wired.flag_bound k thread found
    by_cases same : jobId = thread.jobId
    · subst same
      simp [JobManager.cancelJob, flagged, flagSet, List.getD_eq_getElem?_getD, bound]
    · simp only [JobManager.cancelJob, same, decide_false, Bool.or_false]
      split
      next flag stored =>
        -- A stored flag belongs to one id only, so this one is another job's.
        have other : flag ≠ thread.flag :=
          fun here => same (wired.flag_owner jobId flag stored k thread found here.symm).symm
        simp [flagSet, List.getD_eq_getElem?_getD, List.getElem?_set_ne other]
      · rfl
  -- after `Stop` the flag is set already, and stays
  have fromDrained {handles : List Nat} (drained : w.manager.Drained handles) :
      (w.manager.cancelJob jobId).flagSet thread.flag =
        (w.manager.flagSet thread.flag || decide (jobId = thread.jobId)) := by
    rw [drained.cancelJob, (drained.waits k thread found alive).2, Bool.true_or]
  cases phase : w.stop with
  | idle => exact fromHeld (phase ▸ custody).2
  | exchanged => exact fromHeld (phase ▸ custody).2
  | joining handles => exact fromDrained (phase ▸ custody).2
  | returned => exact fromDrained (phase ▸ custody).2

/-- A step that leaves threads, records, slots and flags alone. -/
theorem Aside.of_same {w next : World Work} {label : Label Work} (started : next.manager.started = w.manager.started)
    (jobs : next.manager.jobs = w.manager.jobs) (currentJobs : next.manager.currentJobs = w.manager.currentJobs)
    (flags : next.manager.flags = w.manager.flags) (cancels : ∀ jobId, label.cancels jobId = false)
    (throws : ∀ k, label.throws k = false) (isFinal : ∀ k, label.isFinal k = false) : Aside w next label where
  started := started
  jobs := jobs
  currentJobs := currentJobs
  flagged := by
    intro k thread _ _
    simp [flagSet, flags, cancels]
  throws := throws
  isFinal := isFinal

theorem step_effect {w next : World Work} {label : Label Work} (consistent : Consistent w)
    (fresh : FreshIds w label) (taken : step w label = some next) : Effect w label next := by
  have reuse := fresh.noRunningReuse consistent
  cases (step_takes taken).2 with
  | startJob jobId requestId work threadStarts =>
    obtain ⟨rfl, unused⟩ := fresh
    rcases startJob_cases w.manager jobId requestId work true with
      ⟨_, what, outcome, ⟨_, same⟩ | cleaned⟩ | ⟨_, absurdly, _⟩ | ⟨admits, _, stored, _⟩ | ⟨admits, _, free, result⟩
    · apply Effect.aside
      exact Aside.of_same (by simp [same]) (by simp [same]) (by simp [same]) (by simp [same])
        (fun _ => rfl) (fun _ => rfl) fun _ => rfl
    · apply Effect.aside
      exact Aside.of_same (by simp [cleaned]) (by simp [cleaned]) (by simp [cleaned]) (by simp [cleaned])
        (fun _ => rfl) (fun _ => rfl) fun _ => rfl
    · cases absurdly
    · exact absurd (consistent.wired.mem_cleanup_iff.mp stored) (reuse admits)
    · rw [result]
      exact .admission jobId requestId work admits free unused
  | bodyReturn k thread found inside => exact .bodyReturn k thread found inside
  | bodyThrow k error thread found inside => exact .bodyThrow k error thread found inside
  | finalSection k thread status error found reached => exact .finalSection k thread status error found reached
  | cancelJob jobId =>
    apply Effect.aside
    constructor
    case flagged => exact fun _ _ found alive => consistent.cancelJob_flag found alive jobId
    case throws => exact fun _ => rfl
    case isFinal => exact fun _ => rfl
    all_goals
      simp only [JobManager.cancelJob]
      split <;> rfl
  | stopSection exchanged =>
    have held : w.manager.Held := (exchanged ▸ consistent.custody).2
    apply Effect.aside
    refine ⟨rfl, rfl, rfl, ?_, fun _ => rfl, fun _ => rfl⟩
    intro k thread found alive
    rw [((held.stopSection consistent.wired).waits k thread found alive).2]
    simp [Label.cancels]
  | setMaxConcurrentJobs | stopAgain | stop | stopJoin | stopReturn =>
    exact .aside _ _ (Aside.of_same rfl rfl rfl rfl (fun _ => rfl) (fun _ => rfl) fun _ => rfl)

/-! ## Slots -/

theorem countP_modify (list : List (JobThread Work)) (k : Nat) (p : JobThread Work → Bool)
    (f : JobThread Work → JobThread Work) {thread : JobThread Work} (found : list[k]? = some thread) :
    (list.modify k f).countP p + (if p thread then 1 else 0) = list.countP p + (if p (f thread) then 1 else 0) := by
  induction list generalizing k with
  | nil => simp at found
  | cons first rest ih =>
    cases k with
    | zero =>
      simp only [List.getElem?_cons_zero, Option.some.injEq] at found
      subst found
      simp only [List.modify_zero_cons, List.countP_cons]
      omega
    | succ k =>
      simp only [List.getElem?_cons_succ] at found
      simp only [List.modify_succ_cons, List.countP_cons]
      have later := ih k found
      omega

theorem setPhase_unfinished (m : JobManager Work) {k : Nat} {thread : JobThread Work}
    (found : m.started[k]? = some thread) (alive : thread.phase ≠ .finished) (phase : Phase) :
    (m.setPhase k phase).unfinished + (if phase = .finished then 1 else 0) = m.unfinished := by
  have counted := countP_modify m.started k (fun thread => decide (thread.phase ≠ .finished))
    (fun thread => { thread with phase }) found
  simp only [decide_not, alive, decide_false, Bool.not_false, if_true] at counted
  simp only [unfinished, setPhase, decide_not]
  by_cases ended : phase = .finished
  · simp [ended] at counted ⊢
    omega
  · simp [ended] at counted ⊢
    omega

theorem launch_unfinished (m : JobManager Work) (jobId requestId : String) (work : Work) :
    (m.launch jobId requestId work).unfinished = m.unfinished + 1 := by
  simp [unfinished, launch, running]

/-- The invariant of runs with distinct ids. -/
structure Tracked (w : World Work) : Prop where
  consistent : Consistent w
  slots : w.manager.currentJobs.toNat = w.manager.unfinished
  distinct : ∀ (i j : Nat) (first second : JobThread Work), w.manager.started[i]? = some first →
    w.manager.started[j]? = some second → first.jobId = second.jobId → i = j
  recorded : ∀ thread ∈ w.manager.started, thread.jobId ∈ w.manager.jobs

theorem init_tracked : Tracked (World.init : World Work) where
  consistent := init_consistent
  slots := rfl
  distinct := by
    intro i j first second found
    simp [World.init, JobManager.init] at found
  recorded := by simp [World.init, JobManager.init]

/-- A phase change keeps ids where they are. -/
theorem setPhase_distinct {m : JobManager Work} {k : Nat} {phase : Phase}
    (distinct : ∀ (i j : Nat) (first second : JobThread Work), m.started[i]? = some first →
      m.started[j]? = some second → first.jobId = second.jobId → i = j)
    (i j : Nat) (first second : JobThread Work) (foundFirst : (m.setPhase k phase).started[i]? = some first)
    (foundSecond : (m.setPhase k phase).started[j]? = some second) (same : first.jobId = second.jobId) : i = j := by
  obtain ⟨oldFirst, presentFirst, idFirst, _⟩ := setPhase_thread foundFirst
  obtain ⟨oldSecond, presentSecond, idSecond, _⟩ := setPhase_thread foundSecond
  exact distinct i j oldFirst oldSecond presentFirst presentSecond (idFirst ▸ idSecond ▸ same)

theorem setPhase_mem {m : JobManager Work} {k : Nat} {phase : Phase} {thread : JobThread Work}
    (member : thread ∈ (m.setPhase k phase).started) : ∃ old ∈ m.started, thread.jobId = old.jobId := by
  obtain ⟨j, found⟩ := List.mem_iff_getElem?.mp member
  obtain ⟨old, present, sameId, _⟩ := setPhase_thread found
  exact ⟨old, List.mem_of_getElem? present, sameId⟩

/-- The end of a body moves no slot, no id and no record. -/
theorem Tracked.leave {w : World Work} (tracked : Tracked w) {k : Nat} {thread : JobThread Work} {phase : Phase}
    (found : w.manager.started[k]? = some thread) (inside : thread.phase = .body) (left : phase ≠ .finished)
    (consistent : Consistent { w with manager := w.manager.setPhase k phase }) :
    Tracked { w with manager := w.manager.setPhase k phase } := by
  refine ⟨consistent, ?_, setPhase_distinct tracked.distinct, ?_⟩
  · have counted := setPhase_unfinished w.manager found (by simp [inside]) phase
    simp only [left, if_false, Nat.add_zero] at counted
    exact tracked.slots.trans counted.symm
  · intro after member
    obtain ⟨old, present, sameId⟩ := setPhase_mem member
    exact sameId ▸ tracked.recorded old present

theorem step_tracked {w next : World Work} {label : Label Work} (tracked : Tracked w)
    (fresh : FreshIds w label) (taken : step w label = some next) : Tracked next := by
  have consistent := step_consistent tracked.consistent (fresh.noRunningReuse tracked.consistent) taken
  obtain ⟨before, slots, distinct, recorded⟩ := tracked
  cases step_effect before fresh taken with
  | admission jobId requestId work admits free unused =>
    refine ⟨consistent, ?_, ?_, ?_⟩
    · -- The capacity test leaves room for one more below the 64-bit bound.
      have below : w.manager.currentJobs.toNat < w.manager.maxJobs.toNat := UInt64.lt_iff_toNat_lt.mp admits.2
      have bound := w.manager.maxJobs.toNat_lt
      rw [launch_unfinished]
      show (w.manager.currentJobs + 1).toNat = w.manager.unfinished + 1
      rw [UInt64.toNat_add, ← slots]
      exact Nat.mod_eq_of_lt (by simp only [UInt64.reduceToNat]; omega)
    · intro i j first second foundFirst foundSecond same
      rcases launch_thread foundFirst with oldFirst | ⟨atFirst, rfl⟩ <;>
        rcases launch_thread foundSecond with oldSecond | ⟨atSecond, rfl⟩
      · exact distinct i j first second oldFirst oldSecond same
      · exact absurd same (unused first (List.mem_of_getElem? oldFirst))
      · exact absurd same.symm (unused second (List.mem_of_getElem? oldSecond))
      · omega
    · intro thread member
      show thread.jobId ∈ w.manager.jobs.insert jobId _
      rcases List.mem_append.mp member with old | new
      · exact (AList.mem_insert _).mpr (.inr (recorded thread old))
      · cases List.mem_singleton.mp new
        exact (AList.mem_insert _).mpr (.inl rfl)
  | bodyReturn k thread found inside => exact Tracked.leave ⟨before, slots, distinct, recorded⟩ found inside (by simp) consistent
  | bodyThrow k error thread found inside =>
    exact Tracked.leave ⟨before, slots, distinct, recorded⟩ found inside (by simp) consistent
  | finalSection k thread status error found reached =>
    have alive : thread.phase ≠ .finished := alive_of_reached reached
    refine ⟨consistent, ?_, setPhase_distinct distinct, ?_⟩
    · -- the job itself is unfinished, so there is a slot to give back
      have counted := setPhase_unfinished w.manager found alive .finished
      simp only [if_true] at counted
      have one : (1 : UInt64) ≤ w.manager.currentJobs :=
        UInt64.le_iff_toNat_le.mpr (by simp only [UInt64.reduceToNat]; omega)
      show (w.manager.currentJobs - 1).toNat = (w.manager.setPhase k .finished).unfinished
      rw [UInt64.toNat_sub_of_le _ _ one, slots]
      simp only [UInt64.reduceToNat]
      omega
    · intro after member
      obtain ⟨old, present, sameId⟩ := setPhase_mem member
      exact Table.mem_modify.mpr (sameId ▸ recorded old present)
  | aside _ _ frame =>
    refine ⟨consistent, ?_, ?_, ?_⟩
    · rw [frame.currentJobs, slots, unfinished, unfinished, frame.started]
    · rw [frame.started]
      exact distinct
    · rw [frame.started, frame.jobs]
      exact recorded

/-! ## Final statuses -/

/-- Job `k` is executing, and its phase and flag are what `history`, the labels
since its admission, made of them. -/
def Executing (k : Nat) (jobId : String) (history : List (Label Work)) (w : World Work) : Prop :=
  ∃ thread, w.manager.started[k]? = some thread ∧ thread.jobId = jobId ∧ thread.phase ≠ .finished ∧
    ((∃ what, thread.phase = .threw what) ↔ history.any (Label.throws k) = true) ∧
    w.manager.flagSet thread.flag = history.any (Label.cancels jobId)

/-- Job `k` is past its final section, with this status recorded under its id. -/
structure Settled (k : Nat) (jobId : String) (status : JobStatus) (w : World Work) : Prop where
  done : ∃ thread, w.manager.started[k]? = some thread ∧ thread.jobId = jobId ∧ thread.phase = .finished
  status : ∃ info, w.manager.jobs.lookup jobId = some info ∧ info.status = status

theorem Settled.getStatus {k : Nat} {jobId : String} {status : JobStatus} {w : World Work}
    (settled : Settled k jobId status w) : w.manager.getStatus jobId = status := by
  obtain ⟨info, recorded, same⟩ := settled.status
  simp [JobManager.getStatus, recorded, same]

theorem launch_getElem? {m : JobManager Work} {jobId requestId : String} {work : Work} {k : Nat}
    {thread : JobThread Work} (found : m.started[k]? = some thread) :
    (m.launch jobId requestId work).started[k]? = some thread :=
  (List.getElem?_append_left (List.getElem?_eq_some_iff.mp found).1).trans found

theorem launch_flagSet {m : JobManager Work} {jobId requestId : String} {work : Work} {flag : Nat}
    (bound : flag < m.flags.length) : (m.launch jobId requestId work).flagSet flag = m.flagSet flag := by
  simp [flagSet, launch, running, enlist, List.getD_eq_getElem?_getD, List.getElem?_append_left bound]

@[simp] theorem cleanup_flagSet (m : JobManager Work) (flag : Nat) :
    m.cleanupFinishedThreads.flagSet flag = m.flagSet flag := rfl

@[simp] theorem setPhase_flagSet (m : JobManager Work) (k : Nat) (phase : Phase) (flag : Nat) :
    (m.setPhase k phase).flagSet flag = m.flagSet flag := rfl

@[simp] theorem settle_flagSet (m : JobManager Work) (k : Nat) (jobId : String) (status : JobStatus)
    (error : Option String) (flag : Nat) : (m.settle k jobId status error).flagSet flag = m.flagSet flag := rfl

theorem setPhase_other {m : JobManager Work} {j k : Nat} {phase : Phase} {thread : JobThread Work}
    (elsewhere : j ≠ k) (found : m.started[k]? = some thread) :
    (m.setPhase j phase).started[k]? = some thread := by
  simp [setPhase_getElem?, found, elsewhere]

/-- One step of another thread, or of a caller, leaves an executing job
executing and adds to its history what it did to it. -/
theorem Executing.step {k : Nat} {jobId : String} {history : List (Label Work)} {w next : World Work}
    {label : Label Work} (executing : Executing k jobId history w) (tracked : Tracked w) (fresh : FreshIds w label)
    (taken : step w label = some next) (other : label.isFinal k = false) :
    Executing k jobId (history ++ [label]) next := by
  obtain ⟨thread, found, named, alive, threw, flagged⟩ := executing
  have bound := tracked.consistent.wired.flag_bound k thread found
  simp only [Executing, List.any_append, List.any_cons, List.any_nil, Bool.or_false, Bool.or_eq_true]
  cases step_effect tracked.consistent fresh taken with
  | admission otherId requestId work admits free unused =>
    refine ⟨thread, launch_getElem? found, named, alive, by simp [threw, Label.throws], ?_⟩
    rw [launch_flagSet (by exact bound)]
    simpa [Label.cancels] using flagged
  | bodyReturn j body present inside =>
    by_cases here : j = k
    · subst here
      cases present.symm.trans found
      simp only [inside, reduceCtorEq, exists_false, false_iff, Bool.not_eq_true] at threw
      exact ⟨_, setPhase_self found, named, by simp, by simp [threw, Label.throws], by simpa [Label.cancels] using flagged⟩
    · exact ⟨thread, setPhase_other here found, named, alive, by simp [threw, Label.throws],
        by simpa [Label.cancels] using flagged⟩
  | bodyThrow j error body present inside =>
    by_cases here : j = k
    · subst here
      cases present.symm.trans found
      exact ⟨_, setPhase_self found, named, by simp, by simp [Label.throws], by simpa [Label.cancels] using flagged⟩
    · exact ⟨thread, setPhase_other here found, named, alive, by simp [threw, Label.throws, here],
        by simpa [Label.cancels] using flagged⟩
  | finalSection j body status error present reached =>
    have elsewhere : j ≠ k := by simpa [Label.isFinal] using other
    exact ⟨thread, setPhase_other elsewhere found, named, alive, by simp [threw, Label.throws],
      by simpa [Label.cancels] using flagged⟩
  | aside _ _ frame =>
    refine ⟨thread, ?_, named, alive, by simp [threw, frame.throws], ?_⟩
    · rw [frame.started]
      exact found
    · rw [frame.flagged k thread found alive, flagged, named]

/-- The final section of an executing job records the verdict on its history. -/
theorem Executing.settles {k : Nat} {jobId : String} {history : List (Label Work)} {w next : World Work}
    (executing : Executing k jobId history w) (tracked : Tracked w)
    (taken : Jobs.step w (.finalSection k) = some next) : Settled k jobId (verdict k jobId history) next := by
  obtain ⟨thread, found, named, alive, threw, flagged⟩ := executing
  simp only [Jobs.step, tracked.consistent.live, Bool.false_eq_true, if_false, stepLive] at taken
  obtain ⟨after, ran, rfl⟩ := Option.map_eq_some_iff.mp taken
  obtain ⟨body, status, error, present, rfl, reached⟩ := finalSection_cases ran
  cases present.symm.trans found
  subst named
  have recorded := tracked.recorded thread (List.mem_of_getElem? found)
  obtain ⟨info, lookup⟩ := Table.exists_lookup recorded
  refine ⟨⟨_, setPhase_self found, rfl, rfl⟩, { info with status, error := error.getD info.error }, ?_, ?_⟩
  · simp [JobManager.settle, lookup]
  · rcases reached with ⟨returned, rfl⟩ | ⟨what, ended, rfl⟩
    · -- no throw in the history, so the flag decides
      simp only [returned, reduceCtorEq, exists_false, false_iff] at threw
      simp only [verdict, threw, Bool.false_eq_true, if_false, flagged]
    · have seen := threw.mp ⟨what, ended⟩
      simp only [verdict, seen, if_true]

theorem Settled.step {k : Nat} {jobId : String} {status : JobStatus} {w next : World Work} {label : Label Work}
    (settled : Settled k jobId status w) (tracked : Tracked w) (fresh : FreshIds w label)
    (taken : step w label = some next) : Settled k jobId status next := by
  obtain ⟨⟨thread, found, named, finished⟩, info, recorded, same⟩ := settled
  cases step_effect tracked.consistent fresh taken with
  | admission otherId requestId work admits free unused =>
    have different : jobId ≠ otherId := named ▸ unused thread (List.mem_of_getElem? found)
    refine ⟨⟨thread, launch_getElem? found, named, finished⟩, info, ?_, same⟩
    show (w.manager.jobs.insert otherId _).lookup jobId = some info
    rw [AList.lookup_insert_ne different]
    exact recorded
  | bodyReturn j body present inside =>
    have elsewhere : j ≠ k := by
      rintro rfl
      cases present.symm.trans found
      simp [inside] at finished
    exact ⟨⟨thread, setPhase_other elsewhere found, named, finished⟩, info, recorded, same⟩
  | bodyThrow j error body present inside =>
    have elsewhere : j ≠ k := by
      rintro rfl
      cases present.symm.trans found
      simp [inside] at finished
    exact ⟨⟨thread, setPhase_other elsewhere found, named, finished⟩, info, recorded, same⟩
  | finalSection j body status error present reached =>
    have elsewhere : j ≠ k := by
      rintro rfl
      cases present.symm.trans found
      exact alive_of_reached reached finished
    have different : jobId ≠ body.jobId :=
      fun clash => elsewhere (tracked.distinct j k body thread present found (clash.symm.trans named.symm))
    refine ⟨⟨thread, setPhase_other elsewhere found, named, finished⟩, info, ?_, same⟩
    rw [JobManager.settle, Table.lookup_modify_ne _ _ different]
    exact recorded
  | aside _ _ frame => exact ⟨⟨thread, frame.started ▸ found, named, finished⟩, info, frame.jobs ▸ recorded, same⟩

/-! ## Whole runs -/

theorem launch_executing (m : JobManager Work) (jobId requestId : String) (work : Work) (stop : StopPhase) :
    Executing m.started.length jobId [] ⟨m.launch jobId requestId work, false, stop⟩ :=
  ⟨⟨jobId, requestId, work, m.flags.length, .body⟩, by simp [launch, running], rfl, by simp, by simp,
    by simp [flagSet, launch, running, enlist]⟩

/-- The job admitted by a call of `StartJob` begins executing with no history. -/
theorem Tracked.launched {w next : World Work} (tracked : Tracked w) {jobId requestId : String} {work : Work}
    (fresh : FreshIds w (.startJob jobId requestId work true)) (admits : w.manager.Admits)
    (taken : step w (.startJob jobId requestId work true) = some next) :
    Executing w.manager.started.length jobId [] next := by
  have reuse := fresh.noRunningReuse tracked.consistent
  simp only [step, tracked.consistent.live, Bool.false_eq_true, if_false, stepLive, Option.some.injEq] at taken
  subst taken
  rcases startJob_cases w.manager jobId requestId work true with
    ⟨refused, _⟩ | ⟨_, absurdly, _⟩ | ⟨_, _, stored, _⟩ | ⟨_, _, _, result⟩
  · exact absurd admits refused
  · cases absurdly
  · exact absurd (tracked.consistent.wired.mem_cleanup_iff.mp stored) (reuse admits)
  · rw [result]
    exact launch_executing w.manager.cleanupFinishedThreads jobId requestId work w.stop

/-- Once settled, for good. -/
theorem Settled.run {k : Nat} {jobId : String} {status : JobStatus} {w : World Work} {schedule : List (Label Work)}
    (settled : Settled k jobId status w) (tracked : Tracked w) (fresh : Steps Jobs.step FreshIds w schedule) :
    States Jobs.step (Settled k jobId status) w schedule := by
  have kept := states_of_steps (P := fun w => Tracked w ∧ Settled k jobId status w)
    (fun _ _ _ both here taken => ⟨step_tracked both.1 here taken, both.2.step both.1 here taken⟩)
    ⟨tracked, settled⟩ fresh
  exact kept.mono fun _ both => both.2

/-- Until its final section an admitted job executes under its own history. -/
theorem Executing.run {k : Nat} {jobId : String} {history schedule : List (Label Work)} {w final : World Work}
    (executing : Executing k jobId history w) (tracked : Tracked w) (fresh : Steps Jobs.step FreshIds w schedule)
    (ran : exec Jobs.step w schedule = some final) :
    Executing k jobId (history ++ schedule) final ∨ ∃ status, Settled k jobId status final := by
  -- along the schedule, with the history growing by each label, until the label is its own final section
  induction schedule generalizing w history with
  | nil =>
    cases ran
    exact .inl (by simpa using executing)
  | cons label rest ih =>
    obtain ⟨next, taken, onward⟩ := Option.bind_eq_some_iff.mp ran
    obtain ⟨here, later⟩ := fresh next taken
    have after := step_tracked tracked here taken
    cases own : label.isFinal k with
    | false =>
      have moved := executing.step tracked here taken own
      simpa using ih moved after later onward
    | true =>
      cases label with
      | finalSection j =>
        cases of_decide_eq_true own
        have settled : Settled k jobId (verdict k jobId history) next := executing.settles tracked taken
        exact .inr ⟨_, (settled.run after later).exec onward⟩
      | startJob _ _ _ _ => cases own
      | bodyReturn _ => cases own
      | bodyThrow _ _ => cases own
      | cancelJob _ => cases own
      | setMaxConcurrentJobs _ => cases own
      | stop => cases own
      | stopSection => cases own
      | stopJoin => cases own
      | stopReturn => cases own

/-- A settled job has no second final section. -/
theorem Settled.no_final {k : Nat} {jobId : String} {status : JobStatus} {w next : World Work}
    (settled : Settled k jobId status w) (live : w.terminated = false) :
    Jobs.step w (.finalSection k) ≠ some next := by
  intro taken
  obtain ⟨thread, found, _, finished⟩ := settled.done
  simp only [Jobs.step, live, Bool.false_eq_true, if_false, stepLive] at taken
  obtain ⟨after, ran, _⟩ := Option.map_eq_some_iff.mp taken
  obtain ⟨body, _, _, present, _, reached⟩ := finalSection_cases ran
  cases present.symm.trans found
  exact alive_of_reached reached finished

/-- The final section of a job records the verdict on everything that happened
since its admission, and nothing changes that status afterwards. -/
theorem Tracked.status_of_final {w ended : World Work} (tracked : Tracked w) {jobId requestId : String} {work : Work}
    {middle after : List (Label Work)}
    (fresh : Steps step FreshIds w (.startJob jobId requestId work true ::
      (middle ++ .finalSection w.manager.started.length :: after)))
    (admits : w.manager.Admits)
    (ran : exec step w (.startJob jobId requestId work true :: (middle ++ [.finalSection w.manager.started.length])) =
      some ended) :
    States step (fun later => later.manager.getStatus jobId = verdict w.manager.started.length jobId middle)
      ended after := by
  obtain ⟨begun, launched, ran⟩ := Option.bind_eq_some_iff.mp ran
  obtain ⟨here, fresh⟩ := fresh begun launched
  have atLaunch := step_tracked tracked here launched
  have executing := tracked.launched here admits launched
  rw [exec_append] at ran
  obtain ⟨last, ran, final⟩ := Option.bind_eq_some_iff.mp ran
  rw [exec_singleton] at final
  obtain ⟨freshMiddle, fresh⟩ := (steps_append _ ran).mp fresh
  have atLast := (states_of_steps (fun _ _ _ => step_tracked) atLaunch freshMiddle).exec ran
  obtain ⟨hereFinal, freshAfter⟩ := fresh ended final
  rcases executing.run atLaunch freshMiddle ran with still | ⟨status, settled⟩
  · have settled := (still.settles atLast final).run (step_tracked atLast hereFinal final) freshAfter
    exact settled.mono fun _ holds => holds.getStatus
  · -- a second final section of the same thread is not enabled
    exact absurd final (settled.no_final atLast.consistent.live)

/-- Each step runs the final section of `k` exactly when it makes `k` finished. -/
theorem step_isFinished {w next : World Work} {label : Label Work} (tracked : Tracked w)
    (fresh : FreshIds w label) (taken : step w label = some next) (k : Nat) :
    (if label.isFinal k then 1 else 0) + (if w.manager.isFinished k then 1 else 0) =
      if next.manager.isFinished k then 1 else 0 := by
  have phaseOnly (m : JobManager Work) {j : Nat} {body : JobThread Work} (present : m.started[j]? = some body)
      (alive : body.phase ≠ .finished) (phase : Phase) :
      (m.setPhase j phase).isFinished k = (m.isFinished k || decide (j = k ∧ phase = .finished)) := by
    by_cases here : j = k
    · subst here
      simp [isFinished, setPhase_getElem?, present, alive]
    · simp [isFinished, setPhase_getElem?, here]
  cases step_effect tracked.consistent fresh taken with
  | admission jobId requestId work admits free unused =>
    have same : (w.manager.cleanupFinishedThreads.launch jobId requestId work).isFinished k =
        w.manager.isFinished k := by
      simp only [isFinished, launch, running, cleanup_started, List.getElem?_append]
      split
      · rfl
      next beyond =>
        rw [List.getElem?_eq_none (Nat.le_of_not_lt beyond), List.getElem?_singleton]
        split <;> rfl
    simp [Label.isFinal, same]
  | bodyReturn j body present inside =>
    simp [Label.isFinal, phaseOnly w.manager present (by simp [inside])]
  | bodyThrow j error body present inside =>
    simp [Label.isFinal, phaseOnly w.manager present (by simp [inside])]
  | finalSection j body status error present reached =>
    have alive : body.phase ≠ .finished := alive_of_reached reached
    have settled : (w.manager.settle j body.jobId status error).isFinished k =
        (w.manager.setPhase j .finished).isFinished k := rfl
    rw [settled, phaseOnly w.manager present alive]
    by_cases here : j = k
    · subst here
      simp [Label.isFinal, isFinished, present, alive]
    · simp [Label.isFinal, here]
  | aside _ _ frame =>
    have same : next.manager.isFinished k = w.manager.isFinished k := by rw [isFinished, isFinished, frame.started]
    simp [frame.isFinal, same]

theorem count_finals {w final : World Work} {schedule : List (Label Work)} (tracked : Tracked w)
    (fresh : Steps step FreshIds w schedule) (run : exec step w schedule = some final) (k : Nat) :
    schedule.countP (Label.isFinal k) + (if w.manager.isFinished k then 1 else 0) =
      if final.manager.isFinished k then 1 else 0 := by
  induction schedule generalizing w with
  | nil =>
    cases run
    simp
  | cons label rest ih =>
    obtain ⟨next, taken, run⟩ := Option.bind_eq_some_iff.mp run
    obtain ⟨here, later⟩ := fresh next taken
    have first := step_isFinished tracked here taken k
    have others := ih (step_tracked tracked here taken) later run
    rw [List.countP_cons]
    omega

theorem step_started_length {w next : World Work} {label : Label Work} (tracked : Tracked w)
    (fresh : FreshIds w label) (taken : step w label = some next) :
    next.manager.started.length = w.manager.started.length ∨ w.manager.Admits := by
  cases step_effect tracked.consistent fresh taken with
  | admission jobId requestId work admits free unused => exact .inr admits
  | bodyReturn j body present inside => exact .inl (List.length_modify ..)
  | bodyThrow j error body present inside => exact .inl (List.length_modify ..)
  | finalSection j body status error present reached => exact .inl (List.length_modify ..)
  | aside _ _ frame => exact .inl (congrArg List.length frame.started)

theorem step_stop_returned {w next : World Work} {label : Label Work} (consistent : Consistent w)
    (taken : step w label = some next) (returned : w.stop = .returned) : next.stop = .returned := by
  have stopping : w.manager.stopping = true := (returned ▸ consistent.custody).1
  cases (step_takes taken).2 with
  | startJob | bodyReturn | bodyThrow | finalSection | cancelJob | setMaxConcurrentJobs | stopAgain => exact returned
  | stop running => simp [running] at stopping
  | stopSection exchanged => simp [exchanged] at returned
  | stopJoin k rest thread joining => simp [joining] at returned
  | stopReturn joined => simp [joined] at returned

/-- Once `Stop` has returned, nothing executes. -/
theorem Consistent.all_finished {w : World Work} (consistent : Consistent w) (returned : w.stop = .returned) :
    ∀ thread ∈ w.manager.started, thread.phase = .finished := by
  intro thread member
  obtain ⟨k, found⟩ := List.mem_iff_getElem?.mp member
  have drained : w.manager.Drained [] := (returned ▸ consistent.custody).2
  by_contra alive
  simpa using (drained.waits k thread found alive).1

theorem stopReturn_returned {w next : World Work} (taken : step w .stopReturn = some next) : next.stop = .returned := by
  cases (step_takes taken).2 with
  | stopReturn => rfl

/-- After the first `Stop` has returned no job is admitted, and none executes. -/
theorem Tracked.stays_stopped {w : World Work} (tracked : Tracked w) (returned : w.stop = .returned)
    {schedule : List (Label Work)} (fresh : Steps step FreshIds w schedule) :
    States step (fun later => later.manager.started.length = w.manager.started.length ∧
      ∀ thread ∈ later.manager.started, thread.phase = .finished) w schedule := by
  have kept := states_of_steps
    (P := fun later => (Tracked later ∧ later.stop = .returned) ∧
      later.manager.started.length = w.manager.started.length)
    (fun later label next holds here taken => by
      obtain ⟨⟨holds, still⟩, same⟩ := holds
      refine ⟨⟨step_tracked holds here taken, step_stop_returned holds.consistent taken still⟩, ?_⟩
      rcases step_started_length holds here taken with unchanged | admits
      · exact unchanged.trans same
      · have stopping : later.manager.stopping = true := (still ▸ holds.consistent.custody).1
        exact absurd admits.1 (by simp [stopping]))
    ⟨⟨tracked, returned⟩, rfl⟩ fresh
  exact kept.mono fun later holds => ⟨holds.2, holds.1.1.consistent.all_finished holds.1.2⟩

/-- What the manager guarantees along a schedule. -/
structure Lifecycle (schedule : List (Label Work)) : Prop where
  /-- The slots in use are the admitted jobs whose final section has not run. -/
  slots : States step (fun w => w.manager.currentJobs.toNat = w.manager.unfinished) World.init schedule
  /-- Every finished job has run one final section, every other none. -/
  released : ∀ final, exec step World.init schedule = some final → ∀ k,
    schedule.countP (Label.isFinal k) = if final.manager.isFinished k then 1 else 0
  admissions : Steps step (fun w label => ∀ next, step w label = some next →
    next.manager.started.length ≠ w.manager.started.length →
      w.manager.currentJobs < w.manager.maxJobs ∧ w.manager.stopping = false) World.init schedule
  joins : States step (fun w => ∀ k ∈ w.manager.joinedByCleanup, w.manager.isFinished k = true) World.init schedule
  /-- The status of a job admitted in `w` once its final section has run. -/
  statuses : ∀ before middle after jobId requestId work w ended,
    schedule = before ++ .startJob jobId requestId work true ::
      (middle ++ .finalSection w.manager.started.length :: after) →
    exec step World.init before = some w → w.manager.Admits →
    exec step w (.startJob jobId requestId work true :: (middle ++ [.finalSection w.manager.started.length])) =
      some ended →
    States step (fun later => later.manager.getStatus jobId = verdict w.manager.started.length jobId middle) ended after
  /-- After the first `Stop` has returned. -/
  stopped : ∀ before after w, schedule = before ++ .stopReturn :: after →
    exec step World.init (before ++ [.stopReturn]) = some w →
    States step (fun later => later.manager.started.length = w.manager.started.length ∧
      ∀ thread ∈ later.manager.started, thread.phase = .finished) w after

/-- With distinct ids and threads that can be created, the manager keeps its
slots, joins, statuses and shutdown in order over every run. -/
theorem lifecycle_of_fresh_ids (schedule : List (Label Work)) (fresh : Steps step FreshIds World.init schedule) :
    Lifecycle schedule := by
  have tracked : States step Tracked World.init schedule :=
    states_of_steps (fun _ _ _ => step_tracked) init_tracked fresh
  constructor
  case slots => exact tracked.mono fun _ holds => holds.slots
  case released =>
    intro final run k
    have counted := count_finals init_tracked fresh run k
    simpa [World.init, JobManager.init, isFinished] using counted
  case admissions =>
    apply steps_of_steps (fun _ _ _ => step_tracked) _ init_tracked fresh
    intro w label next holds here taken other moved grew
    cases taken.symm.trans moved
    rcases step_started_length holds here taken with same | admits
    · exact absurd same grew
    · exact ⟨admits.2, admits.1⟩
  case joins =>
    apply tracked.mono
    intro w holds k joined
    obtain ⟨thread, found, finished⟩ := holds.consistent.wired.joined_finished joined
    simp [isFinished, found, finished]
  case statuses =>
    rintro before middle after jobId requestId work w ended rfl reached admits ran
    obtain ⟨freshBefore, freshLater⟩ := (steps_append _ reached).mp fresh
    have atStart := (states_of_steps (fun _ _ _ => step_tracked) init_tracked freshBefore).exec reached
    exact atStart.status_of_final freshLater admits ran
  case stopped =>
    rintro before after w rfl reached
    rw [List.append_cons] at fresh
    obtain ⟨freshBefore, freshAfter⟩ := (steps_append after reached).mp fresh
    have atReturn := (states_of_steps (fun _ _ _ => step_tracked) init_tracked freshBefore).exec reached
    have returned : w.stop = .returned := by
      rw [exec_append] at reached
      obtain ⟨last, _, final⟩ := Option.bind_eq_some_iff.mp reached
      rw [exec_singleton] at final
      exact stopReturn_returned final
    exact atReturn.stays_stopped returned freshAfter

/-- One job throws, one is cancelled, one is reached by `Stop`. -/
def mixedSchedule : List (Label Unit) :=
  [.startJob "a" "r" () true, .startJob "b" "r" () true, .cancelJob "b", .bodyThrow 0 "bad input", .finalSection 0,
    .bodyReturn 1, .startJob "c" "r" () true, .finalSection 1, .stop, .stopSection, .bodyReturn 2, .finalSection 2,
    .stopJoin, .stopJoin, .stopReturn, .startJob "d" "r" () true]

theorem lifecycle_mixedSchedule :
    (exec step World.init mixedSchedule).isSome = true ∧ Lifecycle mixedSchedule :=
  ⟨by decide, lifecycle_of_fresh_ids mixedSchedule (by decide)⟩

end TelemetryLab.Jobs
