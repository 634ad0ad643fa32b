import TelemetryLab.Jobs.Consistency

/-! What any step of the job manager does to the threads it has started, without
any assumption on ids: bodies and flags stay with their threads, a phase only
moves forward, a set flag stays set, and a thread appears only by `StartJob`.
-/

set_option autoImplicit false
namespace TelemetryLab.Jobs
open JobManager

variable {Work : Type}

/-- A thread after a step that is not a step of its own body. -/
structure JobThread.Kept (before after : JobThread Work) : Prop where
  work : after.work = before.work
  flag : after.flag = before.flag
  body : after.phase = .body ↔ before.phase = .body

theorem JobThread.Kept.refl (thread : JobThread Work) : thread.Kept thread := ⟨rfl, rfl, Iff.rfl⟩

namespace JobManager

/-- Set flags stay set. -/
def FlagsGrow (m after : JobManager Work) : Prop := ∀ flag, m.flagSet flag = true → after.flagSet flag = true

theorem FlagsGrow.refl (m : JobManager Work) : m.FlagsGrow m := fun _ set => set

theorem FlagsGrow.of_eq {m after : JobManager Work} (same : after.flags = m.flags) : m.FlagsGrow after := by
  intro flag set
  rw [flagSet, same]
  exact set

theorem flagSet_lt {m : JobManager Work} {flag : Nat} (set : m.flagSet flag = true) : flag < m.flags.length := by
  by_contra beyond
  simp [flagSet, List.getD_eq_getElem?_getD, List.getElem?_eq_none (Nat.le_of_not_lt beyond)] at set

theorem cancelJob_flagsGrow (m : JobManager Work) (jobId : String) : m.FlagsGrow (m.cancelJob jobId) := by
  intro flag set
  unfold cancelJob
  split
  next stored _ =>
    have bound := flagSet_lt set
    by_cases same : stored = flag
    · simp [flagSet, List.getD_eq_getElem?_getD, same, bound]
    · simpa [flagSet, List.getD_eq_getElem?_getD, List.getElem?_set_ne same] using set
  · exact set

theorem cancelJob_started (m : JobManager Work) (jobId : String) : (m.cancelJob jobId).started = m.started := by
  unfold cancelJob
  split <;> rfl

theorem stopSection_flagsGrow (m : JobManager Work) : m.FlagsGrow m.stopSection.1 := by
  intro flag set
  have bound := flagSet_lt set
  simp only [flagSet, stopSection, foldl_set_getD _ _ _ bound]
  simp [flagSet] at set
  simp [set]

/-- The threads after `StartJob`: those before, and the new one unless it was refused. -/
theorem startJob_started (m : JobManager Work) (jobId requestId : String) (work : Work) (threadStarts : Bool) :
    ((m.startJob jobId requestId work threadStarts).2.started = m.started ∧ ¬ (m.Admits ∧ threadStarts = true)) ∨
    ((m.startJob jobId requestId work threadStarts).2.started =
        m.started ++ [⟨jobId, requestId, work, m.flags.length, .body⟩] ∧ m.Admits ∧ threadStarts = true) := by
  rcases startJob_cases m jobId requestId work threadStarts with
    ⟨closed, what, _, ⟨_, same⟩ | cleaned⟩ | ⟨_, fails, result⟩ | ⟨admits, starts, _, result⟩ |
    ⟨admits, starts, _, result⟩
  · exact .inl ⟨by rw [same], fun ready => closed ready.1⟩
  · exact .inl ⟨by rw [cleaned]; rfl, fun ready => closed ready.1⟩
  · exact .inl ⟨by rw [result]; rfl, by simp [fails]⟩
  · exact .inr ⟨by rw [result]; rfl, admits, starts⟩
  · exact .inr ⟨by rw [result]; rfl, admits, starts⟩

theorem enlist_flagsGrow (m : JobManager Work) (jobId requestId : String) : m.FlagsGrow (m.enlist jobId requestId) := by
  intro flag set
  have bound := flagSet_lt set
  simpa [flagSet, enlist, List.getD_eq_getElem?_getD, List.getElem?_append_left bound] using set

theorem startJob_flagsGrow (m : JobManager Work) (jobId requestId : String) (work : Work) (threadStarts : Bool) :
    m.FlagsGrow (m.startJob jobId requestId work threadStarts).2 := by
  have enlisted : m.FlagsGrow (m.cleanupFinishedThreads.enlist jobId requestId) :=
    m.cleanupFinishedThreads.enlist_flagsGrow jobId requestId
  rcases startJob_cases m jobId requestId work threadStarts with
    ⟨_, what, outcome, ⟨_, same⟩ | cleaned⟩ | ⟨_, _, result⟩ | ⟨_, _, _, result⟩ | ⟨_, _, _, result⟩
  · rw [same]
    exact FlagsGrow.refl m
  · rw [cleaned]
    exact FlagsGrow.of_eq rfl
  -- the flag of the job is new, the others are where they were
  · rw [result]
    exact enlisted
  · rw [result]
    exact enlisted
  · rw [result]
    exact enlisted

/-- Thread `j` after `StartJob`: as before, or the new one. -/
theorem startJob_place {m : JobManager Work} {jobId requestId : String} {work : Work} {threadStarts : Bool} {j : Nat}
    {after : JobThread Work} (found : (m.startJob jobId requestId work threadStarts).2.started[j]? = some after) :
    m.started[j]? = some after ∨ (m.started[j]? = none ∧ after.work = work ∧ after.phase = .body) := by
  rcases startJob_started m jobId requestId work threadStarts with ⟨same, _⟩ | ⟨grown, _⟩
  · exact .inl (same ▸ found)
  · rw [grown] at found
    rcases Nat.lt_or_ge j m.started.length with old | new
    · rw [List.getElem?_append_left old] at found
      exact .inl found
    · rw [List.getElem?_append_right new] at found
      cases List.mem_singleton.mp (List.mem_of_getElem? found)
      exact .inr ⟨List.getElem?_eq_none new, rfl, rfl⟩

end JobManager

/-- What a step does to the manager, as far as its threads and flags go. -/
inductive ManagerStep (w : World Work) : Label Work → JobManager Work → Prop
  | startJob (jobId requestId : String) (work : Work) (threadStarts : Bool) :
      ManagerStep w (.startJob jobId requestId work threadStarts)
        (w.manager.startJob jobId requestId work threadStarts).2
  | left (label : Label Work) (k : Nat) (phase : Phase)
      (here : label = .bodyReturn k ∨ ∃ error, label = .bodyThrow k error) :
      ManagerStep w label (w.manager.setPhase k phase)
  | finalSection (k : Nat) (thread : JobThread Work) (status : JobStatus) (error : Option String)
      (found : w.manager.started[k]? = some thread) (left : thread.phase ≠ .body) :
      ManagerStep w (.finalSection k) (w.manager.settle k thread.jobId status error)
  | cancelJob (jobId : String) : ManagerStep w (.cancelJob jobId) (w.manager.cancelJob jobId)
  | stopSection : ManagerStep w .stopSection w.manager.stopSection.1
  | aside (label : Label Work) (after : JobManager Work) (started : after.started = w.manager.started)
      (flags : after.flags = w.manager.flags) : ManagerStep w label after

theorem stepLive_manager {w next : World Work} {label : Label Work} (taken : stepLive w label = some next) :
    ManagerStep w label next.manager := by
  cases stepLive_takes taken with
  | startJob jobId requestId work threadStarts => exact .startJob jobId requestId work threadStarts
  | bodyReturn k => exact .left _ k _ (.inl rfl)
  | bodyThrow k error => exact .left _ k _ (.inr ⟨error, rfl⟩)
  | finalSection k thread status error found reached =>
    refine .finalSection k thread status error found ?_
    rcases reached with ⟨returned, _⟩ | ⟨what, threw, _⟩
    · simp [returned]
    · simp [threw]
  | cancelJob jobId => exact .cancelJob jobId
  | stopSection => exact .stopSection
  | setMaxConcurrentJobs | stopAgain | stop | stopJoin | stopReturn => exact .aside _ _ rfl rfl

/-- Where thread `j` after a step comes from. A body ends only by the label that
says so. -/
theorem stepLive_place {w next : World Work} {label : Label Work} (taken : stepLive w label = some next) {j : Nat}
    {after : JobThread Work} (found : next.manager.started[j]? = some after) :
    (∃ before, w.manager.started[j]? = some before ∧ before.Kept after) ∨
    (w.manager.started[j]? = none ∧ ∃ jobId requestId work threadStarts,
      label = .startJob jobId requestId work threadStarts ∧ after.work = work ∧ after.phase = .body) ∨
    (∃ before, (label = .bodyReturn j ∨ ∃ error, label = .bodyThrow j error) ∧ w.manager.started[j]? = some before ∧
      after.work = before.work) := by
  have change := stepLive_manager taken
  generalize next.manager = manager at change found
  cases change with
  | startJob jobId requestId work threadStarts =>
    rcases startJob_place found with old | ⟨absent, same, running⟩
    · exact .inl ⟨after, old, .refl after⟩
    · exact .inr (.inl ⟨absent, jobId, requestId, work, threadStarts, rfl, same, running⟩)
  | left _ k phase here =>
    rw [setPhase_getElem?] at found
    obtain ⟨before, present, rfl⟩ := Option.map_eq_some_iff.mp found
    by_cases same : k = j
    · subst same
      exact .inr (.inr ⟨before, here, present, by simp⟩)
    · exact .inl ⟨before, present, by simpa [same] using JobThread.Kept.refl before⟩
  | finalSection k thread status error here left =>
    have found : (w.manager.setPhase k .finished).started[j]? = some after := found
    rw [setPhase_getElem?] at found
    obtain ⟨before, present, rfl⟩ := Option.map_eq_some_iff.mp found
    by_cases same : k = j
    · subst same
      cases here.symm.trans present
      rw [if_pos rfl]
      -- its body had returned or thrown before, so it is not running on either side
      exact .inl ⟨thread, present, rfl, rfl, by simp [left]⟩
    · exact .inl ⟨before, present, by simpa [same] using JobThread.Kept.refl before⟩
  | cancelJob jobId => exact .inl ⟨after, w.manager.cancelJob_started jobId ▸ found, .refl after⟩
  | stopSection => exact .inl ⟨after, found, .refl after⟩
  | aside _ manager started _ => exact .inl ⟨after, started ▸ found, .refl after⟩

theorem stepLive_flagsGrow {w next : World Work} {label : Label Work} (taken : stepLive w label = some next) :
    w.manager.FlagsGrow next.manager := by
  have change := stepLive_manager taken
  generalize next.manager = manager at change
  cases change with
  | startJob jobId requestId work threadStarts => exact w.manager.startJob_flagsGrow jobId requestId work threadStarts
  | left _ k phase _ => exact FlagsGrow.of_eq rfl
  | finalSection k thread status error =>
    exact FlagsGrow.of_eq rfl
  | cancelJob jobId => exact w.manager.cancelJob_flagsGrow jobId
  | stopSection => exact w.manager.stopSection_flagsGrow
  | aside _ manager _ flags => exact FlagsGrow.of_eq flags

end TelemetryLab.Jobs
