import TelemetryLab.Jobs.Lifecycle
import TelemetryLab.Jobs.Threads

/-! What a call of `StartJob` that throws leaves behind.

Its two tests come before any change but the cleanup. The constructor of the
thread comes after the flag, the record and the slot, and nothing takes these
back when it throws.
-/

set_option autoImplicit false
namespace TelemetryLab.Jobs
open Transition JobManager

variable {Work : Type}

/-- The same as before, but for flags and handles of finished jobs. -/
structure JobManager.Untouched (m after : JobManager Work) : Prop where
  jobs : after.jobs = m.jobs
  currentJobs : after.currentJobs = m.currentJobs
  stopFlags : ∀ jobId, after.stopFlags.lookup jobId = m.stopFlags.lookup jobId ∨
    (after.stopFlags.lookup jobId = none ∧ jobId ∈ m.threads ∧ m.finishedJob jobId = true)
  threads : ∀ jobId, after.threads.lookup jobId = m.threads.lookup jobId ∨
    (after.threads.lookup jobId = none ∧ jobId ∈ m.threads ∧ m.finishedJob jobId = true)

namespace JobManager

theorem Untouched.refl (m : JobManager Work) : m.Untouched m where
  jobs := rfl
  currentJobs := rfl
  stopFlags := fun _ => .inl rfl
  threads := fun _ => .inl rfl

/-- What cleanup leaves of a table of ids: an entry is as before, or of a finished job. -/
theorem lookup_keep_cases {A : Type} (table : Table String A) (p : String → Bool) (jobId : String) :
    (Table.keep (fun jobId _ => !p jobId) table).lookup jobId = table.lookup jobId ∨
      ((Table.keep (fun jobId _ => !p jobId) table).lookup jobId = none ∧ p jobId = true) := by
  rw [Table.lookup_keep]
  cases removed : p jobId with
  | true => exact .inr ⟨by simp, rfl⟩
  | false => exact .inl (by cases table.lookup jobId <;> simp)

theorem cleanup_untouched (m : JobManager Work) : m.Untouched m.cleanupFinishedThreads where
  jobs := rfl
  currentJobs := rfl
  stopFlags := by
    intro jobId
    rcases lookup_keep_cases m.stopFlags (fun jobId => decide (jobId ∈ m.threads) && m.finishedJob jobId) jobId with
      same | ⟨gone, removed⟩
    · exact .inl same
    · exact .inr ⟨gone, by simpa using removed⟩
  threads := by
    intro jobId
    rcases lookup_keep_cases m.threads m.finishedJob jobId with same | ⟨gone, finished⟩
    · exact .inl same
    · by_cases stored : jobId ∈ m.threads
      · exact .inr ⟨gone, stored, finished⟩
      · exact .inl (gone.trans (AList.lookup_eq_none.mpr stored).symm)

theorem enlist_not_untouched (m before : JobManager Work) (jobId requestId : String)
    (same : m.currentJobs = before.currentJobs) : ¬ before.Untouched (m.enlist jobId requestId) := by
  intro untouched
  have taken : m.currentJobs + 1 = before.currentJobs := untouched.currentJobs
  rw [same] at taken
  exact absurd taken (by grind)

/-- Slots that are taken by no thread. -/
def leaked (m : JobManager Work) : Nat := m.currentJobs.toNat - m.unfinished

end JobManager

/-- `StartJob` does not come as far as a constructor that throws. -/
def ConstructsThread (w : World Work) : Label Work → Prop
  | .startJob _ _ _ threadStarts => w.manager.Admits → threadStarts = true
  | _ => True

instance (w : World Work) : (label : Label Work) → Decidable (ConstructsThread w label)
  | .startJob _ _ _ threadStarts => inferInstanceAs (Decidable (w.manager.Admits → threadStarts = true))
  | .bodyReturn _ | .bodyThrow _ _ | .finalSection _ | .cancelJob _ | .setMaxConcurrentJobs _
  | .stop | .stopSection | .stopJoin | .stopReturn => .isTrue trivial

/-- Every unfinished thread has a slot. -/
def Slotted (w : World Work) : Prop := w.manager.unfinished ≤ w.manager.currentJobs.toNat

/-- What a step does to slots and threads. -/
inductive SlotChange (w next : World Work) (label : Label Work) : Prop
  | none (slots : next.manager.currentJobs = w.manager.currentJobs)
      (threads : next.manager.unfinished = w.manager.unfinished) (constructs : ConstructsThread w label)
  | taken (below : w.manager.currentJobs < w.manager.maxJobs)
      (slots : next.manager.currentJobs = w.manager.currentJobs + 1)
      (threads : next.manager.unfinished = w.manager.unfinished + 1) (constructs : ConstructsThread w label)
  | lost (below : w.manager.currentJobs < w.manager.maxJobs)
      (slots : next.manager.currentJobs = w.manager.currentJobs + 1)
      (threads : next.manager.unfinished = w.manager.unfinished) (failed : ¬ ConstructsThread w label)
  | freed (slots : next.manager.currentJobs = w.manager.currentJobs - 1)
      (threads : next.manager.unfinished + 1 = w.manager.unfinished) (constructs : ConstructsThread w label)

theorem running_unfinished (m : JobManager Work) (jobId requestId : String) (work : Work) :
    (m.running jobId requestId work).unfinished = m.unfinished + 1 := by
  simp [unfinished, running]

theorem step_slotChange {w next : World Work} {label : Label Work} (taken : step w label = some next) :
    SlotChange w next label := by
  cases (step_takes taken).2 with
  | startJob jobId requestId work threadStarts =>
    rcases startJob_cases w.manager jobId requestId work threadStarts with
      ⟨closed, what, outcome, ⟨_, same⟩ | cleaned⟩ | ⟨admits, rfl, result⟩ | ⟨admits, rfl, _, result⟩ |
      ⟨admits, rfl, _, result⟩
    · exact .none (congrArg currentJobs same) (congrArg unfinished same) fun admits => absurd admits closed
    · exact .none ((congrArg currentJobs cleaned).trans rfl) ((congrArg unfinished cleaned).trans rfl) fun admits => absurd admits closed
    · have after : (w.manager.startJob jobId requestId work false).2 =
          w.manager.cleanupFinishedThreads.enlist jobId requestId := congrArg Prod.snd result
      exact .lost admits.2 (congrArg currentJobs after) ((congrArg unfinished after).trans rfl) fun constructs =>
        absurd (constructs admits) (by decide)
    · have after : (w.manager.startJob jobId requestId work true).2 =
          w.manager.cleanupFinishedThreads.running jobId requestId work := congrArg Prod.snd result
      exact .taken admits.2 (congrArg currentJobs after)
        ((congrArg unfinished after).trans (running_unfinished _ _ _ _)) fun _ => rfl
    · have after : (w.manager.startJob jobId requestId work true).2 =
          w.manager.cleanupFinishedThreads.launch jobId requestId work := congrArg Prod.snd result
      exact .taken admits.2 (congrArg currentJobs after)
        ((congrArg unfinished after).trans (launch_unfinished _ _ _ _)) fun _ => rfl
  | bodyReturn k thread found inside =>
    exact .none rfl (setPhase_unfinished w.manager found (by simp [inside]) .returned) trivial
  | bodyThrow k error thread found inside =>
    exact .none rfl (setPhase_unfinished w.manager found (by simp [inside]) (.threw error)) trivial
  | finalSection k thread status error found reached =>
    exact .freed rfl (setPhase_unfinished w.manager found (alive_of_reached reached) .finished) trivial
  | cancelJob jobId =>
    refine .none ?_ (congrArg (List.countP _) (w.manager.cancelJob_started jobId)) trivial
    show (w.manager.cancelJob jobId).currentJobs = _
    unfold cancelJob
    split <;> rfl
  | setMaxConcurrentJobs | stopAgain | stop | stopSection | stopJoin | stopReturn => exact .none rfl rfl trivial

/-- A slot below the limit is taken without overflow. -/
theorem toNat_take {slots limit : UInt64} (below : slots < limit) : (slots + 1).toNat = slots.toNat + 1 := by
  have room : slots.toNat < limit.toNat := UInt64.lt_iff_toNat_lt.mp below
  have bound := limit.toNat_lt
  rw [UInt64.toNat_add]
  exact Nat.mod_eq_of_lt (by simp only [UInt64.reduceToNat]; omega)

theorem toNat_free {slots : UInt64} (some : 0 < slots.toNat) : (slots - 1).toNat = slots.toNat - 1 := by
  have one : (1 : UInt64) ≤ slots := UInt64.le_iff_toNat_le.mpr (by simp only [UInt64.reduceToNat]; omega)
  rw [UInt64.toNat_sub_of_le _ _ one]
  rfl

/-- Every step keeps the slots of unfinished threads, and a failed construction leaks one more. -/
theorem step_leaked {w next : World Work} {label : Label Work} (slotted : Slotted w)
    (taken : step w label = some next) : Slotted next ∧
      (ConstructsThread w label → next.manager.leaked = w.manager.leaked) ∧
      (¬ ConstructsThread w label → next.manager.leaked = w.manager.leaked + 1) := by
  simp only [Slotted, leaked] at slotted ⊢
  cases step_slotChange taken with
  | none slots threads constructs =>
    rw [slots, threads]
    exact ⟨slotted, fun _ => rfl, fun failed => absurd constructs failed⟩
  | taken below slots threads constructs =>
    rw [slots, threads, toNat_take below]
    exact ⟨by omega, fun _ => by omega, fun failed => absurd constructs failed⟩
  | lost below slots threads failed =>
    rw [slots, threads, toNat_take below]
    exact ⟨by omega, fun constructs => absurd constructs failed, fun _ => by omega⟩
  | freed slots threads constructs =>
    rw [slots, toNat_free (by omega)]
    exact ⟨by omega, fun _ => by omega, fun failed => absurd constructs failed⟩

/-- A call that throws changes nothing but the cleanup exactly if it does not come
to a constructor that throws, and along a run exactly these calls leak slots. -/
theorem startJob_failure_atomic :
    (∀ (m : JobManager Work) (jobId requestId : String) (work : Work) (threadStarts : Bool),
      (m.startJob jobId requestId work threadStarts).1.throws = true →
      (m.Untouched (m.startJob jobId requestId work threadStarts).2 ↔
        m.stopping = true ∨ m.maxJobs ≤ m.currentJobs ∨ threadStarts = true)) ∧
    ∀ (schedule : List (Label Work)) (final : World Work), exec step World.init schedule = some final →
      (final.manager.leaked = 0 ↔ Steps step ConstructsThread World.init schedule) := by
  constructor
  · intro m jobId requestId work threadStarts threw
    rcases startJob_cases m jobId requestId work threadStarts with
      ⟨closed, what, outcome, after⟩ | ⟨admits, rfl, result⟩ | ⟨_, _, _, result⟩ | ⟨_, _, _, result⟩
    · refine iff_of_true ?_ ?_
      · rcases after with ⟨_, same⟩ | cleaned
        · rw [same]
          exact .refl m
        · rw [cleaned]
          exact m.cleanup_untouched
      · by_contra open_
        rw [not_or, not_or, Bool.not_eq_true, UInt64.not_le] at open_
        exact closed ⟨open_.1, open_.2.1⟩
    · refine iff_of_false ?_ ?_
      · rw [result]
        exact enlist_not_untouched _ m jobId requestId rfl
      · rintro (stopping | full | starts)
        · rw [admits.1] at stopping
          cases stopping
        · exact UInt64.not_lt.mpr full admits.2
        · cases starts
    · rw [result] at threw
      cases threw
    · rw [result] at threw
      cases threw
  · intro schedule final run
    have measured := steps_iff_of_measure (I := Slotted) (C := ConstructsThread) (m := fun w => w.manager.leaked)
      (fun _ _ _ slotted taken => (step_leaked slotted taken).1)
      (fun _ _ _ slotted taken => (step_leaked slotted taken).2.1)
      (fun _ _ _ slotted taken failed => by
        rw [(step_leaked slotted taken).2.2 failed]
        exact Nat.lt_succ_self _)
      (show Slotted World.init from Nat.le_refl 0) run
    exact measured.2.symm

/-- As many constructions fail as there are slots. -/
def fourFailures : List (Label Unit) :=
  [.startJob "a" "r" () false, .startJob "b" "r" () false, .startJob "c" "r" () false, .startJob "d" "r" () false]

/-- No thread is left to give a slot back, and every later job is rejected. -/
theorem failed_constructions_block_all_jobs :
    ¬ (∀ (m : JobManager Unit) (jobId requestId : String) (work : Unit) (threadStarts : Bool),
      (m.startJob jobId requestId work threadStarts).1.throws = true →
        m.Untouched (m.startJob jobId requestId work threadStarts).2) ∧
    (exec step World.init fourFailures).any (fun w =>
      decide (w.manager.unfinished = 0 ∧ w.manager.currentJobs = 4 ∧ w.manager.getStatus "a" = .running ∧
        (w.manager.startJob "e" "r" () true).1 = .rejected "Job queue full: max concurrent jobs reached")) = true := by
  constructor
  · intro all
    have untouched := all .init "a" "r" () false (by decide)
    exact absurd untouched.currentJobs (by decide)
  · decide +kernel

def startedAndFinished : List (Label Unit) := [.startJob "a" "r" () true, .bodyReturn 0, .finalSection 0]

theorem startJob_failure_atomic_stopping :
    ({ (JobManager.init : JobManager Unit) with stopping := true }).Untouched
      (({ (JobManager.init : JobManager Unit) with stopping := true }).startJob "a" "r" () false).2 ∧
    ∃ final, exec step World.init startedAndFinished = some final ∧ final.manager.leaked = 0 := by
  constructor
  · exact (startJob_failure_atomic.1 _ "a" "r" () false (by decide)).mpr (.inl rfl)
  · have ends : (exec step World.init startedAndFinished).isSome = true := by decide +kernel
    obtain ⟨final, run⟩ := Option.isSome_iff_exists.mp ends
    exact ⟨final, run, (startJob_failure_atomic.2 startedAndFinished final run).mpr (by decide +kernel)⟩

end TelemetryLab.Jobs
