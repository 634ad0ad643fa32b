import TelemetryLab.Lib.Table
import TelemetryLab.Lib.Transition

/-! The background job manager (`job_manager.cpp`).

The stop flags are heap objects shared between the manager and the job bodies,
and a `std::thread` handle names a thread of the process: `flags` and `started`
list both in order of creation, and their positions are the identities stored
in `stop_flags_` and `threads_`. The body of a job is a value of type `Work`;
the manager never inspects it.

Each critical section of `mutex_` is one step. `StartJob` reads `stopping_`
once, at the start of its section, so the whole section is placed there.
-/

set_option autoImplicit false
namespace TelemetryLab.Jobs

inductive JobStatus where
  | pending
  | running
  | completed
  | failed
  | cancelled
  deriving DecidableEq, Repr

structure JobInfo where
  jobId : String
  requestId : String
  status : JobStatus
  error : String
  deriving DecidableEq, Repr

/-- Progress of the thread of an admitted job: inside `work`, after `work` came
back in one of its two ways, and after the final locked section. -/
inductive Phase where
  | body
  | returned
  | threw (error : String)
  | finished
  deriving DecidableEq, Repr

/-- Where a body with these control points continues after one of its actions. -/
inductive Progress (Pc : Type) where
  | goto (pc : Pc)
  | returns
  | throws (what : String)
  deriving DecidableEq, Repr

def Progress.next {Pc : Type} : Progress Pc → Option Pc
  | .goto pc => some pc
  | .returns | .throws _ => none

theorem Progress.next_eq_some {Pc : Type} {progress : Progress Pc} {pc : Pc} (moved : progress.next = some pc) :
    progress = .goto pc := by
  cases progress <;> simp_all [Progress.next]

structure JobThread (Work : Type) where
  jobId : String
  requestId : String
  work : Work
  flag : Nat
  phase : Phase

structure JobManager (Work : Type) where
  jobs : Table String JobInfo
  stopFlags : Table String Nat
  threads : Table String Nat
  stopping : Bool
  maxJobs : UInt64
  currentJobs : UInt64
  flags : List Bool
  started : List (JobThread Work)

/-- How a call of `StartJob` ends. `terminated` is `std::terminate`, called by
the move assignment over a `std::thread` that is still joinable. -/
inductive StartOutcome where
  | admitted
  | rejected (what : String)
  | systemError
  | terminated
  deriving DecidableEq, Repr

variable {Work : Type}

def JobManager.init : JobManager Work := ⟨∅, ∅, ∅, false, 4, 0, [], []⟩

namespace JobManager

/-- The test of `CleanupFinishedThreads` on one id of `threads_`. -/
def finishedJob (m : JobManager Work) (jobId : String) : Bool :=
  match m.jobs.lookup jobId with
  | some info => decide (info.status ≠ .running)
  | none => false

/-- The handles `CleanupFinishedThreads` joins, holding the mutex. -/
def joinedByCleanup (m : JobManager Work) : List Nat :=
  (Table.keep (fun jobId _ => m.finishedJob jobId) m.threads).entries.map fun entry => entry.2

def cleanupFinishedThreads (m : JobManager Work) : JobManager Work :=
  { m with
    stopFlags := Table.keep (fun jobId _ => !(decide (jobId ∈ m.threads) && m.finishedJob jobId)) m.stopFlags
    threads := Table.keep (fun jobId _ => !m.finishedJob jobId) m.threads }

/-- The part of `StartJob` between the capacity test and the thread: a new stop
flag, a new job record, one slot taken. -/
def enlist (m : JobManager Work) (jobId requestId : String) : JobManager Work :=
  { m with
    stopFlags := m.stopFlags.insert jobId m.flags.length
    jobs := m.jobs.insert jobId ⟨jobId, requestId, .running, ""⟩
    currentJobs := m.currentJobs + 1
    flags := m.flags ++ [false] }

/-- `threadStarts` is whether the `std::thread` constructor succeeds. It runs
before `threads_[job_id]` is looked up, so a failure leaves `threads_` alone. -/
def startJob (m : JobManager Work) (jobId requestId : String) (work : Work) (threadStarts : Bool) :
    StartOutcome × JobManager Work :=
  if m.stopping then (.rejected "JobManager is stopping", m)
  else
    let clean := m.cleanupFinishedThreads
    if clean.maxJobs ≤ clean.currentJobs then (.rejected "Job queue full: max concurrent jobs reached", clean)
    else
      let enlisted := clean.enlist jobId requestId
      if threadStarts then
        let running :=
          { enlisted with started := clean.started ++ [⟨jobId, requestId, work, clean.flags.length, .body⟩] }
        -- after the cleanup a stored handle is still joinable
        if jobId ∈ clean.threads then (.terminated, running)
        else (.admitted, { running with threads := clean.threads.insert jobId clean.started.length })
      -- the slot, the flag and the record stay taken
      else (.systemError, enlisted)

def cancelJob (m : JobManager Work) (jobId : String) : JobManager Work :=
  match m.stopFlags.lookup jobId with
  | some flag => { m with flags := m.flags.set flag true }
  | none => m

def getStatus (m : JobManager Work) (jobId : String) : JobStatus :=
  match m.jobs.lookup jobId with
  | some info => info.status
  | none => .cancelled

def setMaxConcurrentJobs (m : JobManager Work) (maxJobs : UInt64) : JobManager Work := { m with maxJobs }

def setPhase (m : JobManager Work) (k : Nat) (phase : Phase) : JobManager Work :=
  { m with started := m.started.modify k fun thread => { thread with phase } }

/-- The common part of the three final locked sections of the wrapper. -/
def settle (m : JobManager Work) (k : Nat) (jobId : String) (status : JobStatus) (error : Option String) :
    JobManager Work :=
  { m.setPhase k .finished with
    jobs := Table.modify jobId (fun info => { info with status, error := error.getD info.error }) m.jobs
    currentJobs := m.currentJobs - 1 }

def flagSet (m : JobManager Work) (flag : Nat) : Bool := m.flags.getD flag false

def finalSection (m : JobManager Work) (k : Nat) : Option (JobManager Work) :=
  match m.started[k]? with
  | none => none
  | some thread =>
    match thread.phase with
    -- the flag is read under the lock, so a cancellation up to here counts
    | .returned => some (m.settle k thread.jobId (if m.flagSet thread.flag then .cancelled else .completed) none)
    | .threw error => some (m.settle k thread.jobId .failed (some error))
    | .body | .finished => none

/-- The critical section of `Stop`, with the handles it moves out to join. -/
def stopSection (m : JobManager Work) : JobManager Work × List Nat :=
  ({ m with
     flags := m.stopFlags.entries.foldl (fun flags entry => flags.set entry.2 true) m.flags
     stopFlags := ∅
     threads := ∅ },
   m.threads.entries.map fun entry => entry.2)

end JobManager

/-- Progress of the first `Stop` call; later calls return at its first test. -/
inductive StopPhase where
  | idle
  | exchanged
  | joining (handles : List Nat)
  | returned
  deriving DecidableEq, Repr

structure World (Work : Type) where
  manager : JobManager Work
  terminated : Bool
  stop : StopPhase

def World.init : World Work := ⟨.init, false, .idle⟩

inductive Label (Work : Type) where
  | startJob (jobId requestId : String) (work : Work) (threadStarts : Bool)
  | bodyReturn (k : Nat)
  | bodyThrow (k : Nat) (error : String)
  | finalSection (k : Nat)
  | cancelJob (jobId : String)
  | setMaxConcurrentJobs (maxJobs : UInt64)
  | stop
  | stopSection
  | stopJoin
  | stopReturn

/-- Leave the body of job `k`, which must still be executing. -/
def World.leaveBody (w : World Work) (k : Nat) (phase : Phase) : Option (World Work) :=
  match w.manager.started[k]? with
  | some thread => if thread.phase = .body then some { w with manager := w.manager.setPhase k phase } else none
  | none => none

theorem World.leaveBody_eq_some {w next : World Work} {k : Nat} {phase : Phase} (left : w.leaveBody k phase = some next) :
    ∃ thread, w.manager.started[k]? = some thread ∧ thread.phase = .body ∧
      next = { w with manager := w.manager.setPhase k phase } := by
  unfold leaveBody at left
  split at left
  next thread found =>
    split at left
    next inside => exact ⟨thread, found, inside, (Option.some.inj left).symm⟩
    · cases left
  · cases left

def stepLive (w : World Work) : Label Work → Option (World Work)
  | .startJob jobId requestId work threadStarts =>
    let result := w.manager.startJob jobId requestId work threadStarts
    some { w with manager := result.2, terminated := decide (result.1 = .terminated) }
  | .bodyReturn k => w.leaveBody k .returned
  | .bodyThrow k error => w.leaveBody k (.threw error)
  | .finalSection k => (w.manager.finalSection k).map fun manager => { w with manager }
  | .cancelJob jobId => some { w with manager := w.manager.cancelJob jobId }
  | .setMaxConcurrentJobs maxJobs => some { w with manager := w.manager.setMaxConcurrentJobs maxJobs }
  | .stop =>
    -- `stopping_.exchange(true)`: a later call returns at once
    if w.manager.stopping then some w
    else some { w with manager := { w.manager with stopping := true }, stop := .exchanged }
  | .stopSection =>
    if w.stop = .exchanged then
      let result := w.manager.stopSection
      some { w with manager := result.1, stop := .joining result.2 }
    else none
  | .stopJoin =>
    match w.stop with
    | .joining (k :: rest) =>
      -- `join` waits for the thread to have run its final section
      if (w.manager.started[k]?).any fun thread => decide (thread.phase = .finished) then
        some { w with stop := .joining rest }
      else none
    | _ => none
  | .stopReturn => if w.stop = .joining [] then some { w with stop := .returned } else none

/-- After `std::terminate` nothing runs. -/
def step (w : World Work) (label : Label Work) : Option (World Work) :=
  if w.terminated then none else stepLive w label

end TelemetryLab.Jobs
