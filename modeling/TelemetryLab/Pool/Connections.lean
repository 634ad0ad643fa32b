import Mathlib.Data.List.Nodup
import TelemetryLab.Lib.Transition

/-! The bounded connection pool (`PooledDbConnectionManager` in
`db_connection_manager.cpp`).

The mutex is held from a check of the wait predicate to the next wait, return or
exception, also while a connection is opened, so such a section is one step. The
condition variable is the list of the callers that wait on it. A waiter may wake
up without a notification, or at its timeout; `wait_for` then checks the
predicate once more. Only the time before the destruction of the manager is
modelled, so `shutdown_` is false throughout.
-/

set_option autoImplicit false
namespace TelemetryLab.Pool

/-- A caller inside `cv_.wait_for`. -/
inductive Waiter where
  | blocked
  | notified
  deriving DecidableEq, Repr

structure State where
  poolSize : UInt64
  /-- The idle connections, oldest first. -/
  pool : List Nat
  inUseCount : UInt64
  /-- The connections that callers hold. -/
  held : List Nat
  /-- Connections opened so far; the next one gets this number. -/
  opened : Nat
  waiters : List Waiter
  totalAcquires : Int
  totalTimeouts : Int
  deriving DecidableEq, Repr

def State.init (poolSize : UInt64) : State := ⟨poolSize, [], 0, [], 0, [], 0, 0⟩

/-- What came of opening a connection and running the initializer on it. -/
inductive Creation where
  | opened
  | failed
  deriving DecidableEq, Repr

/-- How a section of `GetConnection` or a call of `ReleaseConnection` ends. -/
inductive Outcome where
  | acquired (conn : Nat)
  | waits
  /-- `GetConnection` throws. -/
  | timedOut
  | createFailed
  | returned
  | dropped
  deriving DecidableEq, Repr

namespace State

/-- The wait predicate. -/
def ready (s : State) : Bool := !s.pool.isEmpty || decide (s.inUseCount < s.poolSize)

/-- `cv_.notify_one()`: one blocked waiter, chosen by the schedule, is notified
if there is any. -/
def notifyOne (s : State) (woken : Option Nat) : Option State :=
  match woken with
  | some i => if s.waiters[i]? = some .blocked then some { s with waiters := s.waiters.set i .notified } else none
  | none => if .blocked ∈ s.waiters then none else some s

/-- Hand out a connection. -/
def lend (s : State) (conn : Nat) : State :=
  { s with inUseCount := s.inUseCount + 1, held := conn :: s.held, totalAcquires := s.totalAcquires + 1 }

/-- `GetConnection` once its wait is over. -/
def acquire (s : State) (creation : Creation) (woken : Option Nat) : Option (State × Outcome) :=
  match s.pool with
  | conn :: rest => some (({ s with pool := rest } : State).lend conn, .acquired conn)
  | [] =>
    match creation with
    | .opened => some (({ s with opened := s.opened + 1 } : State).lend s.opened, .acquired s.opened)
    | .failed => (s.notifyOne woken).map fun next => (next, .createFailed)

/-- `ReleaseConnection` of a connection that a caller holds. -/
def release (s : State) (conn : Nat) (isOpen : Bool) (woken : Option Nat) : Option (State × Outcome) :=
  let s := { s with inUseCount := s.inUseCount - 1, held := s.held.erase conn }
  if isOpen then (({ s with pool := s.pool ++ [conn] } : State).notifyOne woken).map fun next => (next, .returned)
  else some (s, .dropped)

end State

/-- The creation and the choice of `notify_one` are used where a step needs them. -/
inductive Label where
  | enter (creation : Creation) (woken : Option Nat)
  | wake (i : Nat) (timeout : Bool) (creation : Creation) (woken : Option Nat)
  | release (conn : Nat) (isOpen : Bool) (woken : Option Nat)
  deriving DecidableEq, Repr

def act (s : State) : Label → Option (State × Outcome)
  | .enter creation woken =>
    if s.ready then s.acquire creation woken else some ({ s with waiters := s.waiters ++ [.blocked] }, .waits)
  | .wake i timeout creation woken =>
    if i < s.waiters.length then
      if s.ready then ({ s with waiters := s.waiters.eraseIdx i } : State).acquire creation woken
      else if timeout then
        some ({ s with waiters := s.waiters.eraseIdx i, totalTimeouts := s.totalTimeouts + 1 }, .timedOut)
      else some ({ s with waiters := s.waiters.set i .blocked }, .waits)
    else none
  | .release conn isOpen woken => if conn ∈ s.held then s.release conn isOpen woken else none

def step (s : State) (label : Label) : Option State := (act s label).map Prod.fst

theorem step_eq_some {s next : State} {label : Label} (taken : step s label = some next) :
    ∃ outcome, act s label = some (next, outcome) := by
  obtain ⟨⟨state, outcome⟩, acted, rfl⟩ := Option.map_eq_some_iff.mp taken
  exact ⟨outcome, acted⟩

/-- What a step can do. -/
inductive Acts (s : State) : Label → State → Outcome → Prop
  | entered {creation : Creation} {woken : Option Nat} {next : State} {outcome : Outcome} (ready : s.ready = true)
      (acted : s.acquire creation woken = some (next, outcome)) : Acts s (.enter creation woken) next outcome
  | queued {creation : Creation} {woken : Option Nat} (unready : s.ready = false) :
      Acts s (.enter creation woken) { s with waiters := s.waiters ++ [.blocked] } .waits
  | resumed {i : Nat} {timeout : Bool} {creation : Creation} {woken : Option Nat} {next : State} {outcome : Outcome}
      (inside : i < s.waiters.length) (ready : s.ready = true)
      (acted : ({ s with waiters := s.waiters.eraseIdx i } : State).acquire creation woken = some (next, outcome)) :
      Acts s (.wake i timeout creation woken) next outcome
  | gaveUp {i : Nat} {creation : Creation} {woken : Option Nat} (inside : i < s.waiters.length)
      (unready : s.ready = false) : Acts s (.wake i true creation woken)
        { s with waiters := s.waiters.eraseIdx i, totalTimeouts := s.totalTimeouts + 1 } .timedOut
  | slept {i : Nat} {creation : Creation} {woken : Option Nat} (inside : i < s.waiters.length)
      (unready : s.ready = false) :
      Acts s (.wake i false creation woken) { s with waiters := s.waiters.set i .blocked } .waits
  | released {conn : Nat} {isOpen : Bool} {woken : Option Nat} {next : State} {outcome : Outcome}
      (mine : conn ∈ s.held) (acted : s.release conn isOpen woken = some (next, outcome)) :
      Acts s (.release conn isOpen woken) next outcome

theorem act_acts {s next : State} {label : Label} {outcome : Outcome} (acted : act s label = some (next, outcome)) :
    Acts s label next outcome := by
  cases label with
  | enter creation woken =>
    simp only [act] at acted
    split at acted
    next ready => exact .entered ready acted
    next unready =>
      cases acted
      exact .queued (Bool.eq_false_iff.mpr unready)
  | wake i timeout creation woken =>
    simp only [act] at acted
    split at acted
    next inside =>
      split at acted
      next ready => exact .resumed inside ready acted
      next unready =>
        cases timeout with
        | true =>
          cases acted
          exact .gaveUp inside (Bool.eq_false_iff.mpr unready)
        | false =>
          cases acted
          exact .slept inside (Bool.eq_false_iff.mpr unready)
    next => cases acted
  | release conn isOpen woken =>
    simp only [act] at acted
    split at acted
    next mine => exact .released mine acted
    next => cases acted

/-! ## Accounting -/

/-- `in_use_count_` counts the held connections, and the pool leaves room for them. -/
structure Accounted (s : State) : Prop where
  bound : s.inUseCount.toNat + s.pool.length ≤ s.poolSize.toNat
  counted : s.inUseCount.toNat = s.held.length
  apart : (s.pool ++ s.held).Nodup
  /-- Connection numbers are not used again. -/
  known : ∀ conn ∈ s.pool ++ s.held, conn < s.opened

theorem init_accounted (poolSize : UInt64) : Accounted (.init poolSize) := by
  refine ⟨?_, rfl, List.nodup_nil, ?_⟩ <;> simp [State.init]

/-- Waiters and statistics play no part in it. -/
theorem Accounted.waiting {s : State} (accounted : Accounted s) (waiters : List Waiter) :
    Accounted { s with waiters } :=
  ⟨accounted.bound, accounted.counted, accounted.apart, accounted.known⟩

/-- `notify_one` touches the waiters only. -/
theorem notifyOne_frame {s next : State} {woken : Option Nat} (notified : s.notifyOne woken = some next) :
    next = { s with waiters := next.waiters } := by
  cases woken with
  | none =>
    simp only [State.notifyOne] at notified
    split at notified <;> cases notified
    rfl
  | some i =>
    simp only [State.notifyOne] at notified
    split at notified <;> cases notified
    rfl

theorem toNat_succ {n : UInt64} (bound : UInt64) (less : n.toNat < bound.toNat) : (n + 1).toNat = n.toNat + 1 := by
  have small := bound.toNat_lt
  rw [UInt64.toNat_add, UInt64.toNat_one, Nat.mod_eq_of_lt (by omega)]

theorem toNat_pred {n : UInt64} (some : 0 < n.toNat) : (n - 1).toNat = n.toNat - 1 := by
  have one : (1 : UInt64) ≤ n := UInt64.le_iff_toNat_le.mpr some
  rw [UInt64.toNat_sub_of_le _ _ one, UInt64.toNat_one]

theorem Accounted.lendIdle {s : State} (accounted : Accounted s) {conn : Nat} {rest : List Nat}
    (idle : s.pool = conn :: rest) : Accounted (({ s with pool := rest } : State).lend conn) := by
  have bound := accounted.bound
  have apart := accounted.apart
  have known := accounted.known
  rw [idle] at bound apart known
  rw [List.length_cons] at bound
  have more : (s.inUseCount + 1).toNat = s.inUseCount.toNat + 1 := toNat_succ s.poolSize (by omega)
  refine ⟨?_, ?_, ?_, ?_⟩
  · simp only [State.lend, more]
    omega
  · simp only [State.lend, more, accounted.counted, List.length_cons]
  · exact (List.perm_middle.nodup_iff).mpr apart
  · intro other mem
    exact known other (List.perm_middle.mem_iff.mp mem)

theorem Accounted.lendNew {s : State} (accounted : Accounted s) (empty : s.pool = [])
    (spare : s.inUseCount.toNat < s.poolSize.toNat) :
    Accounted (({ s with opened := s.opened + 1 } : State).lend s.opened) := by
  have more : (s.inUseCount + 1).toNat = s.inUseCount.toNat + 1 := toNat_succ s.poolSize spare
  have apart := accounted.apart
  have known := accounted.known
  rw [empty, List.nil_append] at apart known
  refine ⟨?_, ?_, ?_, ?_⟩
  · simp only [State.lend, more, empty, List.length_nil]
    omega
  · simp only [State.lend, more, accounted.counted, List.length_cons]
  · simp only [State.lend, empty, List.nil_append]
    exact List.nodup_cons.mpr ⟨fun mem => Nat.lt_irrefl _ (known _ mem), apart⟩
  · intro other mem
    simp only [State.lend, empty, List.nil_append] at mem ⊢
    rcases List.mem_cons.mp mem with rfl | old
    · exact Nat.lt_succ_self _
    · exact Nat.lt_succ_of_lt (known other old)

theorem spare_of_ready {s : State} (ready : s.ready = true) (empty : s.pool = []) :
    s.inUseCount.toNat < s.poolSize.toNat := by
  simpa [State.ready, empty, UInt64.lt_iff_toNat_lt] using ready

theorem Accounted.acquire {s next : State} {creation : Creation} {woken : Option Nat} {outcome : Outcome}
    (accounted : Accounted s) (ready : s.ready = true) (acted : s.acquire creation woken = some (next, outcome)) :
    Accounted next := by
  unfold State.acquire at acted
  split at acted
  next conn rest idle =>
    cases acted
    exact accounted.lendIdle idle
  next empty =>
    cases creation with
    | opened =>
      cases acted
      exact accounted.lendNew empty (spare_of_ready ready empty)
    | failed =>
      obtain ⟨notified, done, same⟩ := Option.map_eq_some_iff.mp acted
      cases same
      rw [notifyOne_frame done]
      exact accounted.waiting _

theorem Accounted.release {s next : State} {conn : Nat} {isOpen : Bool} {woken : Option Nat} {outcome : Outcome}
    (accounted : Accounted s) (mine : conn ∈ s.held) (acted : s.release conn isOpen woken = some (next, outcome)) :
    Accounted next := by
  have some : 0 < s.inUseCount.toNat := by
    rw [accounted.counted]
    exact List.length_pos_of_mem mine
  have fewer : (s.inUseCount - 1).toNat = s.inUseCount.toNat - 1 := toNat_pred some
  have length : (s.held.erase conn).length = s.held.length - 1 := List.length_erase_of_mem mine
  have bound := accounted.bound
  have counted := accounted.counted
  have apart := accounted.apart
  have known := accounted.known
  unfold State.release at acted
  cases isOpen with
  | true =>
    obtain ⟨notified, done, same⟩ := Option.map_eq_some_iff.mp acted
    cases same
    rw [notifyOne_frame done]
    -- the connection moves from the callers to the end of the queue
    have moved : ((s.pool ++ [conn]) ++ s.held.erase conn).Perm (s.pool ++ s.held) := by
      rw [List.append_assoc]
      exact (List.perm_cons_erase mine).symm.append_left s.pool
    refine ⟨?_, ?_, moved.nodup_iff.mpr apart, fun other mem => known other (moved.mem_iff.mp mem)⟩
    · simp only [fewer, List.length_append, List.length_singleton]
      omega
    · simp only [fewer, length, counted]
  | false =>
    cases acted
    have kept : (s.pool ++ s.held.erase conn).Sublist (s.pool ++ s.held) :=
      List.Sublist.append_left List.erase_sublist s.pool
    refine ⟨?_, ?_, kept.nodup apart, fun other mem => known other (kept.subset mem)⟩
    · simp only [fewer]
      omega
    · simp only [fewer, length, counted]

theorem step_accounted {s next : State} {label : Label} (accounted : Accounted s) (taken : step s label = some next) :
    Accounted next := by
  obtain ⟨outcome, acted⟩ := step_eq_some taken
  cases act_acts acted with
  | entered ready acted => exact accounted.acquire ready acted
  | queued => exact accounted.waiting _
  | @resumed i timeout creation woken _ _ inside ready acted =>
    exact (accounted.waiting (s.waiters.eraseIdx i)).acquire ready acted
  | gaveUp => exact ⟨accounted.bound, accounted.counted, accounted.apart, accounted.known⟩
  | slept => exact accounted.waiting _
  | released mine acted => exact accounted.release mine acted

/-- A section of `GetConnection` that hands out nothing, an exception among its ends. -/
def Outcome.refuses : Outcome → Bool
  | .waits | .timedOut | .createFailed => true
  | _ => false

theorem acquire_refused {s next : State} {creation : Creation} {woken : Option Nat} {outcome : Outcome}
    (acted : s.acquire creation woken = some (next, outcome)) (refused : outcome.refuses = true) :
    next.pool = s.pool ∧ next.inUseCount = s.inUseCount := by
  unfold State.acquire at acted
  split at acted
  next =>
    cases acted
    cases refused
  next =>
    cases creation with
    | opened =>
      cases acted
      cases refused
    | failed =>
      obtain ⟨notified, done, same⟩ := Option.map_eq_some_iff.mp acted
      cases same
      rw [notifyOne_frame done]
      exact ⟨rfl, rfl⟩

theorem act_refused {s next : State} {label : Label} {outcome : Outcome} (acted : act s label = some (next, outcome))
    (refused : outcome.refuses = true) : next.pool = s.pool ∧ next.inUseCount = s.inUseCount := by
  cases act_acts acted with
  | entered ready acted => exact acquire_refused acted refused
  | queued => exact ⟨rfl, rfl⟩
  | @resumed i timeout creation woken _ _ inside ready acted =>
    exact acquire_refused (s := { s with waiters := s.waiters.eraseIdx i }) acted refused
  | gaveUp => exact ⟨rfl, rfl⟩
  | slept => exact ⟨rfl, rfl⟩
  | released mine acted =>
    unfold State.release at acted
    split at acted
    · obtain ⟨notified, done, same⟩ := Option.map_eq_some_iff.mp acted
      cases same
      cases refused
    · cases acted
      cases refused

/-- The books of the pool balance in every state, and a call of `GetConnection`
changes them only by what it hands out. -/
theorem pool_accounting (poolSize : UInt64) (schedule : List Label) :
    Transition.States step (fun s => s.inUseCount.toNat + s.pool.length ≤ s.poolSize.toNat ∧
      s.inUseCount.toNat = s.held.length ∧ (∀ conn ∈ s.pool, conn ∉ s.held) ∧ (s.pool ++ s.held).Nodup)
      (.init poolSize) schedule ∧
    Transition.Steps step (fun s label => ∀ next outcome, act s label = some (next, outcome) →
      outcome.refuses = true → next.pool = s.pool ∧ next.inUseCount = s.inUseCount) (.init poolSize) schedule := by
  constructor
  · refine (Transition.states_of_invariant (fun s label next => step_accounted) schedule
      (init_accounted poolSize)).mono fun s accounted => ?_
    refine ⟨accounted.bound, accounted.counted, fun conn idle held => ?_, accounted.apart⟩
    exact (List.nodup_append.mp accounted.apart).2.2 conn idle conn held rfl
  · exact Transition.steps_of_all (fun s label _ _ next outcome => act_refused) _ schedule

end TelemetryLab.Pool
