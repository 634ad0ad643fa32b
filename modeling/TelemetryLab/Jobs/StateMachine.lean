import Mathlib.Data.Finset.Insert
import Mathlib.Data.Fintype.Defs

/-! The status values of runs and score jobs (`job_state_machine.cpp`).

The columns hold the strings of `stateToString`; the model stores the states.
-/

set_option autoImplicit false
namespace TelemetryLab.Jobs

inductive JobState where
  | pending
  | running
  | completed
  | failed
  | cancelled
  deriving DecidableEq, Repr

namespace JobState

def stateToString : JobState → String
  | .pending => "PENDING"
  | .running => "RUNNING"
  | .completed => "COMPLETED"
  | .failed => "FAILED"
  | .cancelled => "CANCELLED"

/-- `none` is the `std::runtime_error` for any other string. -/
def stringToState (text : String) : Option JobState :=
  if text = "PENDING" then some .pending
  else if text = "RUNNING" then some .running
  else if text = "COMPLETED" then some .completed
  else if text = "FAILED" then some .failed
  else if text = "CANCELLED" then some .cancelled
  else none

def isTransitionAllowed (current next : JobState) : Bool :=
  if current = next then true
  else
    match current with
    | .pending => decide (next = .running) || decide (next = .cancelled) || decide (next = .failed)
    | .running => decide (next = .completed) || decide (next = .failed) || decide (next = .cancelled)
    | .completed | .failed | .cancelled => false

def isTerminal (state : JobState) : Bool :=
  decide (state = .completed) || decide (state = .failed) || decide (state = .cancelled)

theorem stringToState_stateToString (state : JobState) : stringToState state.stateToString = some state := by
  cases state <;> decide

/-- A terminal state has no successor but itself. -/
theorem isTerminal_iff (state : JobState) :
    state.isTerminal = true ↔ ∀ next, isTransitionAllowed state next = true → next = state := by
  constructor
  · intro terminal next allowed
    cases state <;> simp_all [isTransitionAllowed, isTerminal]
  · intro only
    cases state with
    | pending => exact absurd (only .failed rfl) (by decide)
    | running => exact absurd (only .failed rfl) (by decide)
    | completed => rfl
    | failed => rfl
    | cancelled => rfl

@[simp] theorem isTransitionAllowed_self (state : JobState) : isTransitionAllowed state state = true := by
  simp [isTransitionAllowed]

/-- Storing a terminal status is a legal change except over another terminal
status, and except for completing what never ran. -/
theorem isTransitionAllowed_terminal {current next : JobState} (ended : next.isTerminal = true)
    (ran : next = .completed → current ≠ .pending) :
    isTransitionAllowed current next = true ↔ (current.isTerminal = true → current = next) := by
  cases current <;> cases next <;> simp_all [isTransitionAllowed, isTerminal]

theorem failed_of_live {state : JobState} (live : state.isTerminal = false) :
    isTransitionAllowed state .failed = true := by
  cases state <;> simp_all [isTransitionAllowed, isTerminal]

end JobState

/-! ## The reconciler -/

/-- The `WHERE` clause of `ReconcileStaleJobs`. -/
def stale (staleTtl : Option Nat) (now : Nat) (status : JobState) (updatedAt : Nat) : Bool :=
  (decide (status = .running) || decide (status = .pending)) &&
    match staleTtl with
    | none => true
    | some ttl => decide (updatedAt + ttl < now)

def reconcileError (staleTtl : Option Nat) : String :=
  if staleTtl.isSome then "Stale job detected (heartbeat timeout)" else "System restart/recovery"

theorem stale_live {staleTtl : Option Nat} {now updatedAt : Nat} {status : JobState}
    (hit : stale staleTtl now status updatedAt = true) : status.isTerminal = false := by
  cases status <;> simp_all [stale, JobState.isTerminal]

end TelemetryLab.Jobs
