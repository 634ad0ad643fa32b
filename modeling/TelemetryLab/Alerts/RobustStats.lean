import TelemetryLab.Alerts.DetectorA

/-! The robust statistics of a window, over everything that the two selections of the
standard library may leave behind.

The deviations are taken from the array as the first selection has left it.
-/

set_option autoImplicit false
namespace TelemetryLab.Alerts
open OrderStatistic

/-- The states that `UpdateRobustStats` may leave. -/
inductive RobustStatsRun {R : Type} [Arith R] (state : MetricState R) : MetricState R → Prop where
  | empty : state.buffer = [] → RobustStatsRun state state
  | computed {data absDiffs : List R} {median mad : R} : state.buffer ≠ [] →
      NthElement state.buffer data (state.buffer.length / 2) median →
      NthElement (data.map fun val => Arith.abs (val - median)) absDiffs (state.buffer.length / 2) mad →
      RobustStatsRun state { state with median, mad := if mad == 0 then 1e-6 else mad }

/-- The distances of the values from a centre. -/
def deviations (values : List ℝ) (center : ℝ) : List ℝ := values.map fun val => |val - center|

/-- Median and deviation told by their ranks in the window. -/
structure RobustStats (window : List ℝ) (median deviation mad : ℝ) : Prop where
  middle : HasRank window (window.length / 2) median
  spread : HasRank (deviations window median) (window.length / 2) deviation
  floor : mad = if deviation = 0 then 1e-6 else deviation

namespace RobustStats

variable {window others : List ℝ} {median deviation mad : ℝ}

theorem mad_pos (stats : RobustStats window median deviation mad) : 0 < mad := by
  have nonneg : 0 ≤ deviation := by
    by_contra negative
    have counted := stats.spread.upTo
    rw [List.countP_eq_zero.mpr] at counted
    · exact absurd counted (Nat.not_lt_zero _)
    · intro x member within
      obtain ⟨val, -, rfl⟩ := List.mem_map.mp member
      exact negative ((abs_nonneg _).trans (of_decide_eq_true within))
  rw [stats.floor]
  split
  next => norm_num
  next nonzero => exact lt_of_le_of_ne nonneg (Ne.symm nonzero)

theorem deviation_le_mad (stats : RobustStats window median deviation mad) : deviation ≤ mad := by
  rw [stats.floor]
  split
  next zero =>
    rw [zero]
    norm_num
  next => exact le_rfl

/-- At least half of the window lies within the deviation of the median. -/
theorem covers_half (stats : RobustStats window median deviation mad) :
    window.length ≤ 2 * window.countP fun val => decide (|val - median| ≤ mad) := by
  have counted := stats.spread.upTo
  have within : (deviations window median).countP (fun x => decide (x ≤ deviation)) ≤
      window.countP fun val => decide (|val - median| ≤ mad) := by
    rw [deviations, List.countP_map]
    apply List.countP_mono_left
    intro val _ near
    exact decide_eq_true ((of_decide_eq_true near).trans stats.deviation_le_mad)
  omega

theorem unique {median' deviation' mad' : ℝ} (stats : RobustStats window median deviation mad)
    (again : RobustStats window median' deviation' mad') : median' = median ∧ mad' = mad := by
  have same : median' = median := again.middle.unique stats.middle
  subst same
  have same : deviation' = deviation := again.spread.unique stats.spread
  rw [again.floor, stats.floor, same]
  exact ⟨rfl, rfl⟩

theorem perm (stats : RobustStats window median deviation mad) (same : window.Perm others) :
    RobustStats others median deviation mad := by
  constructor
  · rw [← same.length_eq]
    exact stats.middle.perm same
  · rw [← same.length_eq]
    exact stats.spread.perm (same.map _)
  · exact stats.floor

/-- The median moves with the window, the deviation does not. -/
theorem add (stats : RobustStats window median deviation mad) (c : ℝ) :
    RobustStats (window.map (· + c)) (median + c) deviation mad := by
  have still : deviations (window.map (· + c)) (median + c) = deviations window median := by
    rw [deviations, List.map_map]
    apply List.map_congr_left
    intro val _
    simp only [Function.comp_apply, add_sub_add_right_eq_sub]
  constructor
  · rw [List.length_map]
    exact stats.middle.map fun x y => add_le_add_iff_right c
  · rw [List.length_map, still]
    exact stats.spread
  · exact stats.floor

end RobustStats

section Runs

variable {state next : MetricState ℝ}

/-- Neither selection matters for what a run computes. -/
theorem RobustStatsRun.stats (run : RobustStatsRun state next) (some : state.buffer ≠ []) :
    ∃ deviation, RobustStats state.buffer next.median deviation next.mad := by
  cases run with
  | empty none => exact absurd none some
  | @computed data absDiffs median mad _ first second =>
    refine ⟨mad, first.hasRank, ?_, ?_⟩
    · -- the first selection leaves the values in another order, which no rank depends on
      exact second.hasRank.perm (first.perm.map _)
    · have zero : (mad == 0) = decide (mad = 0) := rfl
      simp only [zero, decide_eq_true_eq]

theorem robustStatsRun_total (state : MetricState ℝ) : ∃ next, RobustStatsRun state next := by
  rcases eq_or_ne state.buffer [] with none | some
  · exact ⟨state, .empty none⟩
  · have inside : state.buffer.length / 2 < state.buffer.length :=
      Nat.div_lt_self (List.length_pos_iff.mpr some) (by decide)
    obtain ⟨median, -, first⟩ := nthElement_mergeSort inside
    have within : state.buffer.length / 2 < ((state.buffer.mergeSort fun a b => decide (a ≤ b)).map fun val =>
        Arith.abs (val - median)).length := by rwa [List.length_map, List.length_mergeSort]
    obtain ⟨mad, -, second⟩ := nthElement_mergeSort within
    exact ⟨_, .computed some first second⟩

/-- The run of the model, which sorts, is one of them. -/
theorem RobustStatsRun.eq_updateRobustStats (run : RobustStatsRun state next) : next = state.updateRobustStats := by
  cases run with
  | empty none => simp [MetricState.updateRobustStats, none]
  | computed some first second =>
    have inside := first.hasRank.lt_length
    have middle := first.hasRank.unique (Arith.hasRank_nthElement inside)
    subst middle
    have spread := (second.hasRank.perm (first.perm.map _)).unique (Arith.hasRank_nthElement (by simpa using inside))
    subst spread
    simp [MetricState.updateRobustStats, some]

end Runs

/-- Whatever the selections leave, the statistics depend on the values of the window alone. -/
theorem robust_stats_of_window (state : MetricState ℝ) (some : state.buffer ≠ []) :
    (∃ next, RobustStatsRun state next) ∧ ∀ next, RobustStatsRun state next →
      (state.buffer.mergeSort fun a b => decide (a ≤ b))[state.buffer.length / 2]? = .some next.median ∧
      (∃ deviation, ((deviations state.buffer next.median).mergeSort fun a b => decide (a ≤ b))[
          state.buffer.length / 2]? = .some deviation ∧ next.mad = if deviation = 0 then 1e-6 else deviation) ∧
      0 < next.mad ∧
      state.buffer.length ≤ 2 * state.buffer.countP (fun val => decide (|val - next.median| ≤ next.mad)) ∧
      (∀ other, state.buffer.Perm other.buffer → ∀ after, RobustStatsRun other after →
        after.median = next.median ∧ after.mad = next.mad) ∧
      ∀ c other, other.buffer = state.buffer.map (· + c) → ∀ after, RobustStatsRun other after →
        after.median = next.median + c ∧ after.mad = next.mad := by
  refine ⟨robustStatsRun_total state, fun next run => ?_⟩
  obtain ⟨deviation, stats⟩ := run.stats some
  refine ⟨stats.middle.getElem?_mergeSort, ⟨deviation, stats.spread.getElem?_mergeSort, stats.floor⟩, stats.mad_pos,
    stats.covers_half, ?_, ?_⟩
  · intro other same after run
    have alsoSome : other.buffer ≠ [] := by
      intro none
      rw [none] at same
      exact some same.eq_nil
    obtain ⟨_, again⟩ := run.stats alsoSome
    exact (stats.perm same).unique again
  · intro c other moved after run
    have alsoSome : other.buffer ≠ [] := by simpa [moved] using some
    obtain ⟨_, again⟩ := run.stats alsoSome
    rw [moved] at again
    exact (stats.add c).unique again

/-- A window of two values. -/
theorem robust_stats_of_two :
    ∃ next : MetricState ℝ, RobustStatsRun { MetricState.init with buffer := [(4 : ℝ), 1] } next ∧ 0 < next.mad := by
  obtain ⟨⟨next, run⟩, all⟩ := robust_stats_of_window { MetricState.init with buffer := [(4 : ℝ), 1] }
    (List.cons_ne_nil _ _)
  exact ⟨next, run, (all next run).2.2.1⟩

end TelemetryLab.Alerts
