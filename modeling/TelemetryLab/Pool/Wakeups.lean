import Mathlib.Data.List.Perm.Basic
import TelemetryLab.Pool.Connections

/-! Wake-ups of the callers that wait for a connection.

A returned connection and a failed creation notify one waiter each; a broken
connection frees its place without a word. The law that the first two keep is
that the free places are covered by notifications under way as long as anyone is
blocked.
-/

set_option autoImplicit false
namespace TelemetryLab.Pool

namespace State

/-- Places that are not in use, an idle connection in each or not. -/
def free (s : State) : Nat := s.poolSize.toNat - s.inUseCount.toNat

/-- Notifications that their waiters have not acted upon. -/
def pending (s : State) : Nat := s.waiters.count .notified

/-- A caller is blocked and nothing is under way to wake it, though its wait is over. -/
def Missed (s : State) : Prop := .blocked ∈ s.waiters ∧ .notified ∉ s.waiters ∧ s.ready = true

instance Missed.decidable (s : State) : Decidable s.Missed := by
  unfold Missed
  infer_instance

end State

/-- A connection that its caller gives back broken leaves no blocked caller
behind, unless places were free already and a notification to spare is under way. -/
def Attended (s : State) : Label → Prop
  | .release _ false _ => .blocked ∈ s.waiters → s.ready = true ∧ s.free < s.pending
  | _ => True

/-- A step that ends the wait of blocked callers sends a notification. -/
def Notifies (s : State) (label : Label) : Prop :=
  ∀ next, step s label = some next → s.ready = false → next.ready = true → .blocked ∈ s.waiters →
    next.pending = s.pending + 1

instance Attended.decidable (s : State) (label : Label) : Decidable (Attended s label) := by
  unfold Attended
  split <;> infer_instance

theorem Accounted.ready_iff {s : State} (accounted : Accounted s) : s.ready = true ↔ 0 < s.free := by
  have bound := accounted.bound
  cases pool : s.pool with
  | nil =>
    simp only [State.ready, pool, List.isEmpty_nil, Bool.not_true, Bool.false_or, decide_eq_true_eq,
      UInt64.lt_iff_toNat_lt, State.free]
    omega
  | cons conn rest =>
    rw [pool, List.length_cons] at bound
    simp only [State.ready, pool, List.isEmpty_cons, Bool.not_false, Bool.true_or, State.free]
    exact iff_of_true trivial (by omega)

/-- `slack` notifications are still to be sent. -/
def Covered (slack : Nat) (s : State) : Prop := .blocked ∈ s.waiters → s.free ≤ s.pending + slack

theorem count_eraseIdx_add_one {α : Type} [DecidableEq α] (a : α) (l : List α) (i : Nat) :
    l.count a ≤ (l.eraseIdx i).count a + 1 := by
  by_cases inside : i < l.length
  · have same := (List.getElem_cons_eraseIdx_perm inside).count_eq a
    rw [← same, List.count_cons]
    split <;> omega
  · rw [List.eraseIdx_of_length_le (Nat.le_of_not_lt inside)]
    omega

/-- A waiter that leaves takes at most one notification with it. -/
theorem Covered.leave {s : State} (covered : Covered 0 s) (i : Nat) :
    Covered 1 { s with waiters := s.waiters.eraseIdx i } := by
  intro blocked
  have enough := covered (List.mem_of_mem_eraseIdx blocked)
  have fewer := count_eraseIdx_add_one Waiter.notified s.waiters i
  simp only [State.free, State.pending] at enough ⊢
  omega

/-- As long as somebody is blocked, `notify_one` adds a notification. -/
theorem notifyOne_pending {s next : State} {woken : Option Nat} (blocked : .blocked ∈ s.waiters)
    (notified : s.notifyOne woken = some next) : next.pending = s.pending + 1 := by
  unfold State.notifyOne at notified
  cases woken with
  | none => simp [blocked] at notified
  | some i =>
    simp only at notified
    split at notified <;> cases notified
    next found =>
      obtain ⟨inside, here⟩ := List.getElem?_eq_some_iff.mp found
      have more := List.count_set (a := Waiter.notified) (b := Waiter.notified) inside
      rw [here] at more
      simpa [State.pending] using more

theorem notifyOne_covered {s next : State} {woken : Option Nat} (covered : Covered 1 s)
    (notified : s.notifyOne woken = some next) : Covered 0 next := by
  intro waiting
  have same : next.free = s.free := by rw [notifyOne_frame notified]; rfl
  by_cases blocked : .blocked ∈ s.waiters
  · rw [same, notifyOne_pending blocked notified]
    exact covered blocked
  · -- nobody was blocked, so nobody is now
    cases woken with
    | none =>
      simp only [State.notifyOne, blocked, if_false, Option.some.injEq] at notified
      exact absurd (notified ▸ waiting) blocked
    | some i =>
      simp only [State.notifyOne] at notified
      split at notified <;> cases notified
      next found => exact absurd (List.mem_of_getElem? found) blocked

/-- A connection handed out takes a free place, a failed creation sends a notification. -/
theorem acquire_covered {s next : State} {creation : Creation} {woken : Option Nat} {outcome : Outcome}
    (accounted : Accounted s) (ready : s.ready = true) (covered : Covered 1 s)
    (acted : s.acquire creation woken = some (next, outcome)) : Covered 0 next := by
  have room : 0 < s.free := accounted.ready_iff.mp ready
  have more : (s.inUseCount + 1).toNat = s.inUseCount.toNat + 1 :=
    toNat_succ s.poolSize (by unfold State.free at room; omega)
  unfold State.acquire at acted
  split at acted
  next conn rest idle =>
    cases acted
    intro blocked
    -- one free place fewer makes up for the notification that the caller used
    have enough := covered blocked
    simp only [State.free, State.pending, State.lend, more] at enough ⊢
    omega
  next empty =>
    cases creation with
    | opened =>
      cases acted
      intro blocked
      have enough := covered blocked
      simp only [State.free, State.pending, State.lend, more] at enough ⊢
      omega
    | failed =>
      obtain ⟨notified, done, same⟩ := Option.map_eq_some_iff.mp acted
      cases same
      exact notifyOne_covered covered done

theorem release_covered {s next : State} {conn : Nat} {isOpen : Bool} {woken : Option Nat} {outcome : Outcome}
    (accounted : Accounted s) (covered : Covered 0 s) (attended : Attended s (.release conn isOpen woken))
    (mine : conn ∈ s.held) (acted : s.release conn isOpen woken = some (next, outcome)) : Covered 0 next := by
  have used : 0 < s.inUseCount.toNat := by
    rw [accounted.counted]
    exact List.length_pos_of_mem mine
  have fewer : (s.inUseCount - 1).toNat = s.inUseCount.toNat - 1 := toNat_pred used
  unfold State.release at acted
  cases isOpen with
  | true =>
    obtain ⟨notified, done, same⟩ := Option.map_eq_some_iff.mp acted
    cases same
    -- the place that becomes free has its own notification
    refine notifyOne_covered (fun blocked => ?_) done
    have enough := covered blocked
    simp only [State.free, State.pending, fewer] at enough ⊢
    omega
  | false =>
    cases acted
    intro blocked
    -- nobody is told of the place: a notification that is under way anyway has to do
    have spare := (attended blocked).2
    simp only [State.free, State.pending, fewer] at spare ⊢
    omega

structure Served (s : State) : Prop where
  accounted : Accounted s
  covered : Covered 0 s

theorem Served.not_missed {s : State} (served : Served s) : ¬ s.Missed := by
  intro missed
  obtain ⟨blocked, silent, ready⟩ := missed
  have enough := served.covered blocked
  have room := served.accounted.ready_iff.mp ready
  rw [State.pending, List.count_eq_zero_of_not_mem silent] at enough
  omega

theorem init_served (poolSize : UInt64) : Served (.init poolSize) :=
  ⟨init_accounted poolSize, fun blocked => absurd blocked List.not_mem_nil⟩

/-- Without a free place there is nothing to cover. -/
theorem Accounted.covered_of_unready {s : State} (accounted : Accounted s) (unready : s.ready = false)
    (waiters : List Waiter) : Covered 0 { s with waiters } := by
  intro _
  have none : ¬ 0 < s.free := fun room => by
    rw [accounted.ready_iff.mpr room] at unready
    cases unready
  simp only [State.free] at none ⊢
  omega

theorem step_served {s next : State} {label : Label} (served : Served s) (attended : Attended s label)
    (taken : step s label = some next) : Served next := by
  refine ⟨step_accounted served.accounted taken, ?_⟩
  obtain ⟨outcome, acted⟩ := step_eq_some taken
  cases act_acts acted with
  | entered ready acted =>
    exact acquire_covered served.accounted ready (fun blocked => Nat.le_succ_of_le (served.covered blocked)) acted
  | queued unready => exact served.accounted.covered_of_unready unready _
  | @resumed i timeout creation woken _ _ inside ready acted =>
    exact acquire_covered (served.accounted.waiting (s.waiters.eraseIdx i)) ready (served.covered.leave i) acted
  | @gaveUp i _ _ inside unready => exact served.accounted.covered_of_unready unready (s.waiters.eraseIdx i)
  | slept inside unready => exact served.accounted.covered_of_unready unready _
  | released mine acted => exact release_covered served.accounted served.covered attended mine acted

/-- The predicate becomes true by a release only, and then by one that notifies. -/
theorem notifies_of_attended {s : State} {label : Label} (attended : Attended s label) : Notifies s label := by
  intro next taken unready ready blocked
  obtain ⟨outcome, acted⟩ := step_eq_some taken
  cases act_acts acted with
  | entered was _ => exact absurd (was.symm.trans unready) (by decide)
  | resumed _ was _ => exact absurd (was.symm.trans unready) (by decide)
  | queued | gaveUp | slept => exact absurd (ready.symm.trans unready) (by decide)
  | @released conn isOpen woken _ _ mine acted =>
    unfold State.release at acted
    cases isOpen with
    | true =>
      obtain ⟨notified, done, same⟩ := Option.map_eq_some_iff.mp acted
      cases same
      refine (notifyOne_pending ?_ done).trans rfl
      exact blocked
    | false => exact absurd ((attended blocked).1.symm.trans unready) (by decide)

/-- No wake-up is missed in a run in which no broken connection is given back
while a caller is blocked that it makes room for, and every step that ends the
wait of blocked callers sends a notification. -/
theorem no_missed_wakeup (poolSize : UInt64) (schedule : List Label)
    (attended : Transition.Steps step Attended (.init poolSize) schedule) :
    Transition.States step (fun s => ¬ s.Missed) (.init poolSize) schedule ∧
    Transition.Steps step Notifies (.init poolSize) schedule := by
  constructor
  · refine (Transition.states_of_steps (fun s label next => step_served) (init_served poolSize) attended).mono ?_
    exact fun s served => served.not_missed
  · exact attended.mono fun s label => notifies_of_attended

/-- Two places and five callers: both connections come back for the two callers
that have waited longest, a sixth caller overtakes them and breaks the connection
it got while both are still on their way. The last caller stays blocked. -/
def overtaken : List Label :=
  [.enter .opened none, .enter .opened none, .enter .opened none, .enter .opened none, .enter .opened none,
    .release 0 true (some 0), .release 1 true (some 1), .enter .opened none, .release 0 false none,
    .wake 0 false .opened none, .wake 0 false .opened none]

theorem no_missed_wakeup_overtaken :
    Transition.Steps step Attended (.init 2) overtaken ∧
    Transition.States step (fun s => ¬ s.Missed) (.init 2) overtaken ∧
    Transition.Steps step Notifies (.init 2) overtaken ∧
    (Transition.exec step (.init 2) overtaken).map (fun s => (s.held, s.waiters)) = some ([2, 1], [.blocked]) :=
  have attended : Transition.Steps step Attended (.init 2) overtaken := by decide
  have served := no_missed_wakeup 2 overtaken attended
  ⟨attended, served.1, served.2, by decide⟩

/-- The only connection breaks while a caller waits for it. -/
def broken : List Label := [.enter .opened none, .enter .opened none, .release 0 false none]

theorem broken_release_misses :
    ∃ s, Transition.exec step (.init 1) broken = some s ∧ s.Missed :=
  ⟨⟨1, [], 0, [], 1, [.blocked], 1, 0⟩, by decide, by decide⟩

end TelemetryLab.Pool
