import Mathlib.Data.List.Chain
import TelemetryLab.Lib.Transition

/-! The periodic sweeper for stale jobs (`job_reconciler.cpp`).

One thread owns the reconciler and calls `Start` and `Stop`, as the server and its
destructor do; the sweeper is a thread of its own. Only the sweeper takes the mutex,
so that the flag may change, and the notification come, between the sweeper's test
of the flag and its sleep: the notification is lost then, and the timeout has to end
the wait.
-/

set_option autoImplicit false
namespace TelemetryLab.Reconciler
open Transition

/-- Where the sweeper stands in its loop. -/
inductive Place where
  /-- Before the test of `while (running_)`. -/
  | loop
  /-- With the lock, before `wait_for`. -/
  | entering
  /-- Before a test of the predicate inside `wait_for`. -/
  | testing (deadline : Int)
  /-- The predicate was false, the sleep has not begun. -/
  | blocking (deadline : Int)
  | blocked (deadline : Int) (notified : Bool)
  /-- After a timeout, before the last test of the predicate. -/
  | timedOut
  /-- `wait_for` answered false. -/
  | sweeping
  | finished
  deriving DecidableEq, Repr

structure Sweeper where
  interval : Int
  place : Place
  deriving DecidableEq, Repr

/-- What the owner is doing. -/
inductive Owner where
  | idle
  /-- In `Start`, after the flag was set. -/
  | starting (interval : Int)
  /-- In `Stop`, after the flag was cleared. -/
  | notifying
  | joining
  deriving DecidableEq, Repr

/-- A call of `ReconcileStaleJobs` by the sweeper of an interval. -/
structure Sweep where
  time : Int
  interval : Int
  deriving DecidableEq, Repr

structure State where
  clock : Int
  running : Bool
  owner : Owner
  sweeper : Option Sweeper
  /-- The latest sweep stands first. -/
  sweeps : List Sweep
  /-- The `Start` that set the flag could not create its thread. The source keeps no such record. -/
  threadless : Bool
  deriving DecidableEq, Repr

inductive Label where
  | tick
  | start (interval : Int)
  | spawn (threadStarts : Bool)
  | stop
  | notify
  | join
  /-- The sweeper goes on, by its program or because it was notified. -/
  | sweeper
  | timeout
  | spurious
  deriving DecidableEq, Repr

def initial (clock : Int) : State := ⟨clock, false, .idle, none, [], false⟩

namespace State

def move (s : State) (sweeper : Sweeper) (place : Place) : State :=
  { s with sweeper := some { sweeper with place := place } }

/-- The next step of the sweeper's program. -/
def advance (s : State) (sweeper : Sweeper) : Option State :=
  match sweeper.place with
  | .loop => some (s.move sweeper (if s.running then .entering else .finished))
  | .entering => some (s.move sweeper (.testing (s.clock + sweeper.interval)))
  | .testing deadline => some (s.move sweeper (if s.running then .blocking deadline else .finished))
  | .blocking deadline => some (s.move sweeper (.blocked deadline false))
  | .blocked deadline true => some (s.move sweeper (.testing deadline))
  | .blocked _ false => none
  | .timedOut => some (s.move sweeper (if s.running then .sweeping else .finished))
  | .sweeping => some { s.move sweeper .loop with sweeps := ⟨s.clock, sweeper.interval⟩ :: s.sweeps }
  | .finished => none

end State

def step (s : State) : Label → Option State
  | .tick => some { s with clock := s.clock + 1 }
  | .start interval =>
    if s.owner = .idle then
      if s.running then some s else some { s with running := true, owner := .starting interval }
    else none
  | .spawn threadStarts =>
    match s.owner with
    | .starting interval =>
      if threadStarts then some { s with owner := .idle, sweeper := some ⟨interval, .loop⟩ }
      -- `std::thread` throws, and the flag stays set
      else some { s with owner := .idle, threadless := true }
    | _ => none
  | .stop =>
    if s.owner = .idle then some { s with running := false, owner := .notifying, threadless := false } else none
  | .notify =>
    if s.owner = .notifying then
      match s.sweeper with
      | some ⟨interval, .blocked deadline _⟩ =>
        some { s with owner := .joining, sweeper := some ⟨interval, .blocked deadline true⟩ }
      | _ => some { s with owner := .joining }
    else none
  | .join =>
    if s.owner = .joining then
      match s.sweeper with
      | none => some { s with owner := .idle }
      | some sweeper => if sweeper.place = .finished then some { s with owner := .idle, sweeper := none } else none
    else none
  | .sweeper => s.sweeper.bind s.advance
  | .timeout =>
    match s.sweeper with
    | some ⟨interval, .blocked deadline _⟩ =>
      if deadline ≤ s.clock then some { s with sweeper := some ⟨interval, .timedOut⟩ } else none
    | _ => none
  | .spurious =>
    match s.sweeper with
    | some ⟨interval, .blocked deadline _⟩ => some { s with sweeper := some ⟨interval, .testing deadline⟩ }
    | _ => none

/-- The outcomes of a step, each with what it requires. -/
inductive Took (s : State) : Label → State → Prop
  | tick : Took s .tick { s with clock := s.clock + 1 }
  | startsAgain {interval : Int} (idle : s.owner = .idle) (set : s.running = true) : Took s (.start interval) s
  | starts {interval : Int} (idle : s.owner = .idle) (clear : s.running = false) :
      Took s (.start interval) { s with running := true, owner := .starting interval }
  | spawns {interval : Int} (starting : s.owner = .starting interval) :
      Took s (.spawn true) { s with owner := .idle, sweeper := some ⟨interval, .loop⟩ }
  | throws {interval : Int} (starting : s.owner = .starting interval) :
      Took s (.spawn false) { s with owner := .idle, threadless := true }
  | stops (idle : s.owner = .idle) : Took s .stop { s with running := false, owner := .notifying, threadless := false }
  | wakes {interval deadline : Int} {notified : Bool} (notifying : s.owner = .notifying)
      (asleep : s.sweeper = some ⟨interval, .blocked deadline notified⟩) :
      Took s .notify { s.move ⟨interval, .blocked deadline notified⟩ (.blocked deadline true) with owner := .joining }
  /-- Nobody sleeps, and the notification is lost. -/
  | misses (notifying : s.owner = .notifying) : Took s .notify { s with owner := .joining }
  | nothingToJoin (joining : s.owner = .joining) (none : s.sweeper = none) : Took s .join { s with owner := .idle }
  | joins {interval : Int} (joining : s.owner = .joining) (ended : s.sweeper = some ⟨interval, .finished⟩) :
      Took s .join { s with owner := .idle, sweeper := none }
  | sweeper {next : State} {sweeper : Sweeper} (here : s.sweeper = some sweeper)
      (advanced : s.advance sweeper = some next) : Took s .sweeper next
  | timeout {interval deadline : Int} {notified : Bool} (past : deadline ≤ s.clock)
      (asleep : s.sweeper = some ⟨interval, .blocked deadline notified⟩) :
      Took s .timeout (s.move ⟨interval, .blocked deadline notified⟩ .timedOut)
  | spurious {interval deadline : Int} {notified : Bool}
      (asleep : s.sweeper = some ⟨interval, .blocked deadline notified⟩) :
      Took s .spurious (s.move ⟨interval, .blocked deadline notified⟩ (.testing deadline))

theorem step_took {s next : State} {label : Label} (taken : step s label = some next) : Took s label next := by
  cases label with
  | tick =>
    cases taken
    exact .tick
  | start interval =>
    simp only [step] at taken
    split at taken
    next idle =>
      split at taken <;> cases taken
      next set => exact .startsAgain idle set
      next clear => exact .starts idle (Bool.eq_false_iff.mpr clear)
    · cases taken
  | spawn threadStarts =>
    simp only [step] at taken
    split at taken
    next interval starting =>
      cases threadStarts <;> cases taken
      · exact .throws starting
      · exact .spawns starting
    · cases taken
  | stop =>
    simp only [step] at taken
    split at taken <;> cases taken
    next idle => exact .stops idle
  | notify =>
    simp only [step] at taken
    split at taken
    next notifying =>
      split at taken <;> cases taken
      next asleep => exact .wakes notifying asleep
      · exact .misses notifying
    · cases taken
  | join =>
    simp only [step] at taken
    split at taken
    next joining =>
      split at taken
      next none =>
        cases taken
        exact .nothingToJoin joining none
      next sweeper here =>
        obtain ⟨interval, place⟩ := sweeper
        split at taken <;> cases taken
        next ended =>
          cases ended
          exact .joins joining here
    · cases taken
  | sweeper =>
    obtain ⟨sweeper, here, advanced⟩ := Option.bind_eq_some_iff.mp taken
    exact .sweeper here advanced
  | timeout =>
    simp only [step] at taken
    split at taken
    next asleep =>
      split at taken <;> cases taken
      next past => exact .timeout past asleep
    · cases taken
  | spurious =>
    simp only [step] at taken
    split at taken <;> cases taken
    next asleep => exact .spurious asleep

/-! ## What every state keeps -/

/-- The flag, the owner and the sweeper agree, but for a thread that could not be created. -/
def Owned (s : State) : Prop :=
  match s.owner with
  | .idle => s.sweeper.isSome = (s.running && !s.threadless) ∧ (s.threadless = true → s.running = true)
  | .starting _ => s.running = true ∧ s.sweeper = none ∧ s.threadless = false
  | .notifying | .joining => s.running = false ∧ s.threadless = false

/-- A sweeper only ends when it is told to. -/
def Lasting (s : State) : Prop := ∀ sweeper, s.sweeper = some sweeper → sweeper.place = .finished → s.running = false

/-- The time at which a wait may end lies an interval behind the latest sweep, and at most an
interval ahead. -/
def Due (s : State) (sweeper : Sweeper) : Prop :=
  match sweeper.place with
  | .testing deadline | .blocking deadline | .blocked deadline _ =>
    (∀ last ∈ s.sweeps.head?, last.time + sweeper.interval ≤ deadline) ∧ deadline ≤ s.clock + sweeper.interval
  | .timedOut | .sweeping => ∀ last ∈ s.sweeps.head?, last.time + sweeper.interval ≤ s.clock
  | .loop | .entering | .finished => True

/-- A sweep follows the one before it only after the interval of its sweeper. -/
def Spaced (sweeps : List Sweep) : Prop :=
  sweeps.IsChain fun newer older => older.time + newer.interval ≤ newer.time

structure Sound (s : State) : Prop where
  owned : Owned s
  lasting : Lasting s
  past : ∀ last ∈ s.sweeps.head?, last.time ≤ s.clock
  due : ∀ sweeper, s.sweeper = some sweeper → Due s sweeper
  spaced : Spaced s.sweeps

theorem initial_sound (clock : Int) : Sound (initial clock) where
  owned := ⟨rfl, by simp [initial]⟩
  lasting := by simp [Lasting, initial]
  past := by simp [initial]
  due := by simp [initial]
  spaced := by simp [initial, Spaced]

theorem Due.tick {s : State} {sweeper : Sweeper} (due : Due s sweeper) :
    Due { s with clock := s.clock + 1 } sweeper := by
  obtain ⟨interval, place⟩ := sweeper
  have ahead {deadline : Int} (bound : deadline ≤ s.clock + interval) : deadline ≤ s.clock + 1 + interval := by omega
  have later (behind : ∀ last ∈ s.sweeps.head?, last.time + interval ≤ s.clock) :
      ∀ last ∈ s.sweeps.head?, last.time + interval ≤ s.clock + 1 := by
    intro last member
    have before := behind last member
    omega
  cases place with
  | loop | entering | finished => trivial
  | testing | blocking | blocked => exact ⟨due.1, ahead due.2⟩
  | timedOut | sweeping => exact later due

section Sweeper

variable {s next : State} {sweeper : Sweeper} (sound : Sound s) (here : s.sweeper = some sweeper)

include sound here

/-- The sweeper changes its place. -/
theorem move_sound {place : Place} (ends : place = .finished → s.running = false)
    (due : Due s { sweeper with place := place }) : Sound (s.move sweeper place) where
  owned := by
    have owned := sound.owned
    unfold Owned at owned ⊢
    simp only [State.move]
    split at owned <;> simp_all
  lasting := by
    rintro moved same finished
    cases same
    exact ends finished
  past := sound.past
  due := by
    rintro moved same
    cases same
    exact due
  spaced := sound.spaced

/-- The latest sweep lies an interval back when the next one is made. -/
theorem sweep_sound (now : sweeper.place = .sweeping) :
    Sound { s.move sweeper .loop with sweeps := ⟨s.clock, sweeper.interval⟩ :: s.sweeps } := by
  have due := sound.due sweeper here
  simp only [Due, now] at due
  have moved : Sound (s.move sweeper .loop) := move_sound sound here (by simp) trivial
  refine ⟨moved.owned, moved.lasting, by simp [State.move], ?_, ?_⟩
  · rintro other same
    cases same
    trivial
  · exact List.isChain_cons.mpr ⟨due, sound.spaced⟩

theorem advance_sound (advanced : s.advance sweeper = some next) : Sound next := by
  have due := sound.due sweeper here
  have past := sound.past
  obtain ⟨interval, place⟩ := sweeper
  cases place with
  | loop =>
    cases advanced
    apply move_sound sound here
    · split <;> simp_all
    · split <;> trivial
  | entering =>
    cases advanced
    apply move_sound sound here (by simp)
    exact ⟨fun last member => by have := past last member; dsimp only; omega, Int.le_refl _⟩
  | testing deadline =>
    cases advanced
    apply move_sound sound here
    · split <;> simp_all
    · split
      · exact due
      · trivial
  | blocking deadline =>
    cases advanced
    exact move_sound sound here (by simp) due
  | blocked deadline notified =>
    cases notified <;> cases advanced
    exact move_sound sound here (by simp) due
  | timedOut =>
    cases advanced
    apply move_sound sound here
    · split <;> simp_all
    · split
      · exact due
      · trivial
  | sweeping =>
    cases advanced
    exact sweep_sound sound here rfl
  | finished => cases advanced

end Sweeper

theorem step_sound (s : State) (label : Label) (next : State) (sound : Sound s) (taken : step s label = some next) :
    Sound next := by
  have owned := sound.owned
  cases step_took taken with
  | tick =>
    refine ⟨owned, sound.lasting, fun last member => ?_, fun sweeper here => (sound.due sweeper here).tick, sound.spaced⟩
    have past := sound.past last member
    dsimp only
    omega
  | startsAgain => exact sound
  | starts idle clear =>
    simp only [Owned, idle] at owned
    have none : s.sweeper = none := by simpa [clear] using owned.1
    have created : s.threadless = false := by simpa [clear] using owned.2
    exact ⟨⟨rfl, none, created⟩, by simp [Lasting, none], sound.past, by simp [none], sound.spaced⟩
  | spawns starting =>
    simp only [Owned, starting] at owned
    refine ⟨by simp [Owned, owned], ?_, sound.past, ?_, sound.spaced⟩
    · rintro sweeper same finished
      cases same
      cases finished
    · rintro sweeper same
      cases same
      trivial
  | throws starting =>
    simp only [Owned, starting] at owned
    exact ⟨by simp [Owned, owned], sound.lasting, sound.past, sound.due, sound.spaced⟩
  | stops idle => exact ⟨⟨rfl, rfl⟩, fun _ _ _ => rfl, sound.past, sound.due, sound.spaced⟩
  | wakes notifying asleep =>
    simp only [Owned, notifying] at owned
    -- the notification does not change the deadline of the wait
    have due := sound.due _ asleep
    have moved : Sound (s.move _ (.blocked _ true)) := move_sound sound asleep (by simp) due
    exact ⟨owned, moved.lasting, moved.past, moved.due, moved.spaced⟩
  | misses notifying =>
    simp only [Owned, notifying] at owned
    exact ⟨owned, sound.lasting, sound.past, sound.due, sound.spaced⟩
  | nothingToJoin joining none =>
    simp only [Owned, joining] at owned
    exact ⟨by simp [Owned, owned, none], sound.lasting, sound.past, sound.due, sound.spaced⟩
  | joins joining ended =>
    simp only [Owned, joining] at owned
    exact ⟨by simp [Owned, owned], by simp [Lasting], sound.past, by simp, sound.spaced⟩
  | sweeper here advanced => exact advance_sound sound here advanced
  | timeout past asleep =>
    refine move_sound sound asleep (by simp) fun last member => ?_
    have behind := (sound.due _ asleep).1 last member
    dsimp only at behind ⊢
    omega
  | spurious asleep =>
    have due := sound.due _ asleep
    exact move_sound sound asleep (by simp) due

/-! ## After the flag was cleared -/

/-- How many steps a sweeper can still take once the flag is cleared. -/
def Place.rank : Place → Nat
  | .finished => 0
  | .loop | .testing _ | .timedOut => 1
  | .entering | .sweeping | .blocked _ _ => 2
  | .blocking _ => 3

namespace State

def stepsLeft (s : State) : Nat := (s.sweeper.map fun sweeper => sweeper.place.rank).getD 0

/-- A sweep is under way that the flag cannot stop. -/
def committed (s : State) : Nat := if s.sweeper.map Sweeper.place = some .sweeping then 1 else 0

theorem stepsLeft_le (s : State) : s.stepsLeft ≤ 3 := by
  unfold stepsLeft
  cases s.sweeper with
  | none => exact Nat.zero_le _
  | some sweeper => cases place : sweeper.place <;> simp [place, Place.rank]

end State

def Label.isStart : Label → Bool
  | .start _ => true
  | _ => false

/-- The steps the sweeper takes, by its program or woken. -/
def Label.bySweeper : Label → Bool
  | .sweeper | .timeout | .spurious => true
  | _ => false

/-- Without a new `Start` the flag stays cleared, the sweeper comes nearer to its end with each
step, and only the sweep under way is made. -/
theorem cleared_step {s next : State} {label : Label} (cleared : s.running = false) (sound : Sound s)
    (noStart : label.isStart = false) (taken : step s label = some next) :
    next.running = false ∧ next.sweeps.length + next.committed ≤ s.sweeps.length + s.committed ∧
      next.stepsLeft + (if label.bySweeper then 1 else 0) ≤ s.stepsLeft := by
  have owned := sound.owned
  cases step_took taken with
  | tick | misses | nothingToJoin => exact ⟨cleared, le_rfl, le_rfl⟩
  | startsAgain | starts => cases noStart
  | spawns starting | throws starting => simp [Owned, starting, cleared] at owned
  | stops => exact ⟨rfl, le_rfl, le_rfl⟩
  | wakes notifying here | timeout past here | spurious here =>
    exact ⟨cleared, by simp [State.committed, State.move, here],
      by simp [State.stepsLeft, State.move, here, Label.bySweeper, Place.rank]⟩
  | joins joining ended =>
    exact ⟨cleared, by simp [State.committed, ended], by simp [State.stepsLeft, Label.bySweeper]⟩
  | @sweeper _ sweeper here advanced =>
    obtain ⟨interval, place⟩ := sweeper
    cases place with
    | blocked deadline notified =>
      cases notified <;> cases advanced
      exact ⟨cleared, by simp [State.committed, State.move],
        by simp [State.stepsLeft, State.move, here, Label.bySweeper, Place.rank]⟩
    | finished => cases advanced
    | _ =>
      -- each test of the flag ends the loop, and a sweep is made where one was under way
      cases advanced
      exact ⟨cleared, by simp [State.committed, State.move, here, cleared],
        by simp [State.stepsLeft, State.move, here, Label.bySweeper, Place.rank, cleared]⟩

theorem cleared_run {s final : State} {rest : List Label} (cleared : s.running = false) (sound : Sound s)
    (noStart : ∀ label ∈ rest, label.isStart = false) (run : exec step s rest = some final) :
    final.sweeps.length ≤ s.sweeps.length + s.committed ∧ rest.countP Label.bySweeper ≤ s.stepsLeft := by
  have bound : final.sweeps.length + final.committed ≤ s.sweeps.length + s.committed ∧
      final.stepsLeft + rest.countP Label.bySweeper ≤ s.stepsLeft := by
    induction rest generalizing s with
    | nil =>
      cases run
      exact ⟨le_rfl, le_rfl⟩
    | cons label rest ih =>
      obtain ⟨next, taken, run⟩ := Option.bind_eq_some_iff.mp run
      obtain ⟨still, fewer, nearer⟩ := cleared_step cleared sound (noStart label List.mem_cons_self) taken
      obtain ⟨sweeps, steps⟩ := ih still (step_sound s label next sound taken)
        (fun later member => noStart later (List.mem_cons_of_mem _ member)) run
      refine ⟨sweeps.trans fewer, ?_⟩
      rw [List.countP_cons]
      omega
  exact ⟨(Nat.le_add_right _ _).trans bound.1, (Nat.le_add_left _ _).trans bound.2⟩

/-! ## `Stop` returns -/

/-- What the owner and the sweeper do by themselves, together with the clock. -/
def Label.isOwn : Label → Bool
  | .start _ | .spurious => false
  | _ => true

/-- The call of `Stop` can return after at most so many ticks, whatever else does not happen. -/
def Returns (ticks : Nat) (s : State) : Prop :=
  ∃ rest final, exec step s rest = some final ∧ final.owner = .idle ∧ final.sweeper = none ∧
    (∀ label ∈ rest, label.isOwn = true) ∧ rest.count .tick ≤ ticks

theorem Returns.head {s next : State} {label : Label} {ticks : Nat} (own : label.isOwn = true)
    (noTick : label ≠ .tick) (taken : step s label = some next) (returns : Returns ticks next) : Returns ticks s := by
  obtain ⟨rest, final, run, idle, gone, all, few⟩ := returns
  refine ⟨label :: rest, final, by rw [exec, taken]; exact run, idle, gone, ?_, ?_⟩
  · intro other member
    rcases List.mem_cons.mp member with rfl | later
    · exact own
    · exact all other later
  · rwa [List.count_cons_of_ne noTick]

theorem Returns.mono {s : State} {few many : Nat} (returns : Returns few s) (more : few ≤ many) : Returns many s := by
  obtain ⟨rest, final, run, idle, gone, all, bound⟩ := returns
  exact ⟨rest, final, run, idle, gone, all, bound.trans more⟩

theorem Returns.wait {s : State} {ticks more : Nat}
    (returns : Returns ticks { s with clock := s.clock + more }) : Returns (more + ticks) s := by
  induction more generalizing s with
  | zero => simpa using returns
  | succ more ih =>
    have later : Returns (more + ticks) { s with clock := s.clock + 1 } := by
      apply ih
      have same : s.clock + 1 + (more : Int) = s.clock + (more + 1 : Nat) := by omega
      simpa only [same] using returns
    obtain ⟨rest, final, run, idle, gone, all, few⟩ := later
    refine ⟨.tick :: rest, final, by rw [exec]; exact run, idle, gone, ?_, ?_⟩
    · intro other member
      rcases List.mem_cons.mp member with rfl | later
      · rfl
      · exact all other later
    · rw [List.count_cons_self]
      omega

section Joining

variable {s : State} {sweeper : Sweeper} (cleared : s.running = false) (joining : s.owner = .joining)

include cleared joining

/-- The sweeper sees the flag in its next test. -/
theorem returns_of_test (here : s.sweeper = some sweeper)
    (tests : sweeper.place = .loop ∨ (∃ deadline, sweeper.place = .testing deadline) ∨ sweeper.place = .timedOut) :
    Returns 0 s := by
  have ends : step s .sweeper = some (s.move sweeper .finished) := by
    rcases tests with place | ⟨deadline, place⟩ | place <;>
      simp [step, here, State.advance, place, cleared]
  refine Returns.head rfl (by simp) ends ?_
  have joined : step (s.move sweeper .finished) .join = some { s with owner := .idle, sweeper := none } := by
    simp [step, State.move, joining]
  exact Returns.head rfl (by simp) joined ⟨[], _, rfl, rfl, rfl, by simp, by simp⟩

/-- A wait whose notification was lost ends with its timeout. -/
theorem returns_of_blocked {interval deadline : Int} {notified : Bool}
    (here : s.sweeper = some ⟨interval, .blocked deadline notified⟩) (ahead : deadline ≤ s.clock + interval) :
    Returns interval.toNat s := by
  let late : State := { s with clock := s.clock + (deadline - s.clock).toNat }
  have awake : step late .timeout = some (late.move ⟨interval, .blocked deadline notified⟩ .timedOut) := by
    have reached : deadline ≤ late.clock := by
      dsimp only [late]
      omega
    have still : late.sweeper = some ⟨interval, .blocked deadline notified⟩ := here
    simp only [step, still, State.move]
    rw [if_pos reached]
  have after : Returns 0 late :=
    Returns.head rfl (by simp) awake (returns_of_test cleared joining rfl (.inr (.inr rfl)))
  exact after.wait.mono (by omega)

theorem returns_of_joining (sound : Sound s) :
    Returns ((s.sweeper.map fun sweeper => sweeper.interval.toNat).getD 0) s := by
  cases here : s.sweeper with
  | none =>
    have joined : step s .join = some { s with owner := .idle } := by simp [step, joining, here]
    exact Returns.head rfl (by simp) joined ⟨[], _, rfl, rfl, here, by simp, by simp⟩
  | some sweeper =>
    have due := sound.due sweeper here
    have goesOn : step s .sweeper = s.advance sweeper := by simp only [step, here, Option.bind_some]
    obtain ⟨interval, place⟩ := sweeper
    rw [Option.map_some, Option.getD_some]
    cases place with
    | loop => exact (returns_of_test cleared joining here (.inl rfl)).mono (Nat.zero_le _)
    | testing deadline =>
      exact (returns_of_test cleared joining here (.inr (.inl ⟨deadline, rfl⟩))).mono (Nat.zero_le _)
    | timedOut => exact (returns_of_test cleared joining here (.inr (.inr rfl))).mono (Nat.zero_le _)
    | entering =>
      have tested := returns_of_test (s := s.move ⟨interval, .entering⟩ (.testing (s.clock + interval))) cleared joining
        rfl (.inr (.inl ⟨_, rfl⟩))
      exact (tested.head rfl (by simp) goesOn).mono (Nat.zero_le _)
    | sweeping =>
      have tested := returns_of_test (s := { s.move ⟨interval, .sweeping⟩ .loop with
        sweeps := ⟨s.clock, interval⟩ :: s.sweeps }) cleared joining rfl (.inl rfl)
      exact (tested.head rfl (by simp) goesOn).mono (Nat.zero_le _)
    | blocking deadline =>
      have asleep := returns_of_blocked (s := s.move ⟨interval, .blocking deadline⟩ (.blocked deadline false)) cleared
        joining rfl due.2
      exact asleep.head rfl (by simp) goesOn
    | blocked deadline notified => exact returns_of_blocked cleared joining here due.2
    | finished =>
      have joined : step s .join = some { s with owner := .idle, sweeper := none } := by simp [step, joining, here]
      exact Returns.head rfl (by simp) joined ⟨[], _, rfl, rfl, rfl, by simp, by simp⟩

end Joining

theorem returns_of_stopping {s : State} (sound : Sound s) (stopping : s.owner = .notifying ∨ s.owner = .joining) :
    Returns ((s.sweeper.map fun sweeper => sweeper.interval.toNat).getD 0) s := by
  have owned := sound.owned
  rcases stopping with notifying | joining
  · simp only [Owned, notifying] at owned
    obtain ⟨next, taken, joining, same⟩ : ∃ next, step s .notify = some next ∧ next.owner = .joining ∧
        next.sweeper.map Sweeper.interval = s.sweeper.map Sweeper.interval := by
      simp only [step, notifying, if_true]
      split
      next here => exact ⟨_, rfl, rfl, by simp [here]⟩
      · exact ⟨_, rfl, rfl, rfl⟩
    have sound := step_sound s .notify next sound taken
    have cleared : next.running = false := by
      have owned := sound.owned
      simp only [Owned, joining] at owned
      exact owned.1
    have interval := congrArg (fun i => (i.map Int.toNat).getD 0) same
    simp only [Option.map_map, Function.comp_def] at interval
    rw [← interval]
    exact (returns_of_joining cleared joining sound).head rfl (by simp) taken
  · simp only [Owned, joining] at owned
    exact returns_of_joining owned.1 joining sound

/-- Over every interleaving of the owner, the sweeper, the clock and spurious wake-ups:
between its calls the owner has a sweeper exactly if the flag is set and its thread could be
created, so none after `Stop` has returned; a flag without a thread stays, and `Start` does
nothing about it; a sweep comes at least the interval after the one before; once `Stop` has
cleared the flag, at most the sweep that is already under way is still made and the sweeper
takes at most three steps; and `Stop` returns, even when its notification is lost, after at
most the interval. -/
theorem sweeper_controlled (clock : Int) (schedule : List Label) :
    States step (fun s =>
      (s.owner = .idle → s.sweeper.isSome = (s.running && !s.threadless)) ∧
      (s.owner = .idle → s.threadless = true → s.running = true ∧ ∀ interval, step s (.start interval) = some s) ∧
      Spaced s.sweeps ∧
      (s.running = false → ∀ rest final, (∀ label ∈ rest, label.isStart = false) →
        exec step s rest = some final →
          final.sweeps.length ≤ s.sweeps.length + s.committed ∧ rest.countP Label.bySweeper ≤ 3) ∧
      (s.owner = .notifying ∨ s.owner = .joining →
        Returns ((s.sweeper.map fun sweeper => sweeper.interval.toNat).getD 0) s))
      (initial clock) schedule := by
  refine (states_of_invariant step_sound schedule (initial_sound clock)).mono fun s sound => ?_
  have owned := sound.owned
  refine ⟨fun idle => ?_, fun idle failed => ?_, sound.spaced, fun cleared rest final noStart run => ?_,
    returns_of_stopping sound⟩
  · simp only [Owned, idle] at owned
    exact owned.1
  · simp only [Owned, idle] at owned
    have set := owned.2 failed
    exact ⟨set, fun interval => by rw [step, if_pos idle, if_pos set]⟩
  · obtain ⟨sweeps, steps⟩ := cleared_run cleared sound noStart run
    exact ⟨sweeps, steps.trans s.stepsLeft_le⟩

/-- The notification of this `Stop` comes before the sweeper sleeps. -/
example : exec step (initial 0) [.start 5, .spawn true, .sweeper, .sweeper, .sweeper, .stop, .notify, .sweeper] =
    some ⟨0, false, .joining, some ⟨5, .blocked 5 false⟩, [], false⟩ := by decide

end TelemetryLab.Reconciler
