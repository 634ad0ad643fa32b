import Mathlib.Algebra.Order.Group.Int
import Mathlib.Data.List.Basic
import Mathlib.Tactic.Ring
import Mathlib.Tactic.Set

/-! A throttle of events.

An event passes when something triggers it, or when a period is over since the
last one that passed. Without a trigger none passes early, none is held back once
the period is over, and so few of them pass in any span of time.
-/

set_option autoImplicit false
namespace TelemetryLab.Throttle

structure Event where
  time : Int
  trigger : Bool

def Event.within (low high : Int) (event : Event) : Bool := decide (low ≤ event.time ∧ event.time ≤ high)

/-- Whether an event passes, after one at the time `last`. -/
def passes (period last : Int) (event : Event) : Bool := event.trigger || decide (period ≤ event.time - last)

/-- The events of a run, each with whether it passes. -/
def run (period : Int) : Int → List Event → List (Event × Bool)
  | _, [] => []
  | last, event :: rest =>
    (event, passes period last event) ::
      run period (if passes period last event then event.time else last) rest

/-- The time of the last event that passed. -/
def lastPassed (last : Int) (past : List (Event × Bool)) : Int :=
  (((past.filter Prod.snd).map fun entry => entry.1.time).getLast?).getD last

theorem lastPassed_cons (last : Int) (entry : Event × Bool) (past : List (Event × Bool)) :
    lastPassed last (entry :: past) = lastPassed (if entry.2 then entry.1.time else last) past := by
  cases passed : entry.2 with
  | false => simp [lastPassed, passed]
  | true => simp [lastPassed, passed, List.getLast?_cons]

section Runs

variable {period last low high : Int} {events : List Event}

theorem map_fst_run (period last : Int) (events : List Event) : (run period last events).map Prod.fst = events := by
  induction events generalizing last with
  | nil => rfl
  | cons event rest ih => rw [run, List.map_cons, ih]

theorem passes_of_trigger {event : Event} (triggered : event.trigger = true) : passes period last event = true := by
  rw [passes, triggered, Bool.true_or]

theorem passes_iff_of_no_trigger {event : Event} (untriggered : event.trigger = false) :
    passes period last event = true ↔ last + period ≤ event.time := by
  rw [passes, untriggered, Bool.false_or, decide_eq_true_eq]
  omega

/-- What is held back was not triggered, and the period was not over. -/
theorem held_back {before after : List (Event × Bool)} {entry : Event × Bool}
    (ran : run period last events = before ++ entry :: after) (held : entry.2 = false) :
    entry.1.trigger = false ∧ entry.1.time < lastPassed last before + period := by
  induction before generalizing last events with
  | nil =>
    cases events with
    | nil => cases ran
    | cons event rest =>
      rw [run, List.nil_append, List.cons.injEq] at ran
      obtain ⟨rfl, -⟩ := ran
      have untriggered : event.trigger = false := by
        by_contra triggered
        exact Bool.false_ne_true (held.symm.trans (passes_of_trigger (Bool.not_eq_false _ ▸ triggered)))
      refine ⟨untriggered, ?_⟩
      by_contra late
      exact Bool.false_ne_true (held.symm.trans ((passes_iff_of_no_trigger untriggered).mpr (not_lt.mp late)))
  | cons first before ih =>
    cases events with
    | nil => cases ran
    | cons event rest =>
      rw [run, List.cons_append, List.cons.injEq] at ran
      obtain ⟨rfl, ran⟩ := ran
      rw [lastPassed_cons]
      exact ih ran

/-- What passes without a trigger comes a period after the start. -/
theorem run_late (after : ∀ event ∈ events, last ≤ event.time) (sorted : events.Pairwise fun a b => a.time ≤ b.time) :
    ∀ entry ∈ run period last events, entry.2 = true → entry.1.trigger = false → last + period ≤ entry.1.time := by
  induction events generalizing last with
  | nil =>
    intro entry member
    cases member
  | cons event rest ih =>
    intro entry member passed untriggered
    have early := after event List.mem_cons_self
    rw [List.pairwise_cons] at sorted
    rcases List.mem_cons.mp member with rfl | later
    · exact (passes_iff_of_no_trigger untriggered).mp passed
    · -- whichever event passed last, it is not before `last`
      have moved : last ≤ if passes period last event then event.time else last := by
        split
        · exact early
        · exact le_rfl
      have follows : ∀ next ∈ rest, (if passes period last event then event.time else last) ≤ next.time := by
        intro next inside
        split
        · exact sorted.1 next inside
        · exact after next (List.mem_cons_of_mem event inside)
      have late := ih follows sorted.2 entry later passed untriggered
      omega

/-- An event that passes without a trigger is a period behind all that passed before it. -/
theorem run_spaced (sorted : events.Pairwise fun a b => a.time ≤ b.time) :
    (run period last events).Pairwise fun earlier entry =>
      earlier.2 = true → entry.2 = true → entry.1.trigger = false → earlier.1.time + period ≤ entry.1.time := by
  induction events generalizing last with
  | nil => exact List.Pairwise.nil
  | cons event rest ih =>
    rw [List.pairwise_cons] at sorted
    refine List.Pairwise.cons ?_ (ih sorted.2)
    intro entry later first passed untriggered
    rw [if_pos first] at later
    exact run_late sorted.1 sorted.2 entry later passed untriggered

/-- Times that are a period apart fit into a span so many times. -/
theorem length_le_of_spaced {times : List Int} (positive : 0 < period)
    (spaced : times.Pairwise fun a b => a + period ≤ b) (from_ : ∀ t ∈ times, low ≤ t) (upTo : ∀ t ∈ times, t ≤ high) :
    times.length ≤ ((high - low) / period).toNat + 1 := by
  induction times generalizing low with
  | nil => exact Nat.zero_le _
  | cons t rest ih =>
    rw [List.pairwise_cons] at spaced
    have start := from_ t List.mem_cons_self
    cases rest with
    | nil => simp
    | cons next rest =>
      have counted := ih spaced.2 spaced.1 fun other member => upTo other (List.mem_cons_of_mem t member)
      have room : t + period ≤ high :=
        le_trans (spaced.1 next List.mem_cons_self) (upTo next (List.mem_cons_of_mem t List.mem_cons_self))
      -- one period less is left of the span
      have fewer : (high - (t + period)) / period = (high - t) / period - 1 := by
        rw [show high - (t + period) = high - t + period * (-1) by ring, Int.add_mul_ediv_left _ _ positive.ne']
        rfl
      have some_ : 1 ≤ (high - t) / period := by
        rw [Int.le_ediv_iff_mul_le positive]
        omega
      have wider : (high - t) / period ≤ (high - low) / period := Int.ediv_le_ediv positive (by omega)
      rw [List.length_cons]
      omega

/-- The times of the events that passed without a trigger. -/
def scheduled (past : List (Event × Bool)) : List Int :=
  (past.filter fun entry => entry.2 && !entry.1.trigger).map fun entry => entry.1.time

theorem countP_passed_le (past : List (Event × Bool)) : past.countP (fun entry => entry.2) ≤
    past.countP (fun entry => entry.1.trigger) + (scheduled past).length := by
  rw [scheduled, List.length_map, ← List.countP_eq_length_filter]
  induction past with
  | nil => rfl
  | cons entry rest ih =>
    rw [List.countP_cons, List.countP_cons, List.countP_cons]
    cases entry.2 <;> cases entry.1.trigger <;> simp <;> omega

theorem scheduled_spaced {past : List (Event × Bool)} (spaced : past.Pairwise fun earlier entry =>
      earlier.2 = true → entry.2 = true → entry.1.trigger = false → earlier.1.time + period ≤ entry.1.time) :
    (scheduled past).Pairwise fun a b => a + period ≤ b := by
  rw [scheduled, List.pairwise_map]
  refine (spaced.filter _).imp_of_mem ?_
  intro earlier entry first second apart
  have one := (List.mem_filter.mp first).2
  have two := (List.mem_filter.mp second).2
  rw [Bool.and_eq_true, Bool.not_eq_true'] at one two
  exact apart one.1 two.1 two.2

/-- In any span of time few events pass that nothing triggers, whatever the run does before and after it. -/
theorem passed_bounded (positive : 0 < period) (last low high : Int)
    (sorted : events.Pairwise fun a b => a.time ≤ b.time) :
    (run period last events).countP (fun entry => entry.2 && entry.1.within low high) ≤
      events.countP (fun event => event.trigger && event.within low high) + ((high - low) / period).toNat + 1 := by
  set inner := (run period last events).filter fun entry => entry.1.within low high with cut
  have bounds : ∀ t ∈ scheduled inner, low ≤ t ∧ t ≤ high := by
    intro t inside
    obtain ⟨entry, kept, rfl⟩ := List.mem_map.mp inside
    exact of_decide_eq_true (List.mem_filter.mp (List.mem_filter.mp kept).1).2
  have few : (scheduled inner).length ≤ ((high - low) / period).toNat + 1 := by
    apply length_le_of_spaced positive (scheduled_spaced ((run_spaced sorted).filter _))
    · exact fun t inside => (bounds t inside).1
    · exact fun t inside => (bounds t inside).2
  have triggered : inner.countP (fun entry => entry.1.trigger) =
      events.countP fun event => event.trigger && event.within low high := by
    conv_rhs => rw [← map_fst_run period last events, List.countP_map]
    rw [cut, List.countP_filter]
    rfl
  have passed : inner.countP (fun entry => entry.2) =
      (run period last events).countP fun entry => entry.2 && entry.1.within low high := List.countP_filter
  have whole := countP_passed_le inner
  rw [triggered, passed] at whole
  omega

end Runs

end TelemetryLab.Throttle
