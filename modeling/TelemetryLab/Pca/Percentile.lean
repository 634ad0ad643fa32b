import TelemetryLab.Pca.Threshold

/-! The percentile that becomes a threshold, over everything that the selection of
the standard library may leave behind.
-/

set_option autoImplicit false
namespace TelemetryLab.Pca
open OrderStatistic

/-- The results of `percentile_value`: the one at the position, in an array that `std::nth_element`
may leave. -/
inductive PercentileRun {R : Type} [Arith R] (values : List R) (percentile : R) : Except Thrown R → Prop where
  | empty : values = [] → PercentileRun values percentile
      (.error (.runtimeError "percentile_value requires non-empty input"))
  | selected {left : List R} {value : R} : values ≠ [] →
      NthElement values left (percentileIndex values.length percentile) value → PercentileRun values percentile (.ok value)

section Runs

variable {values others : List ℝ} {percentile value : ℝ} {result : Except Thrown ℝ}

/-- Every run has the result of the function that sorts. -/
theorem percentileRun_iff : PercentileRun values percentile result ↔ result = percentileValue values percentile := by
  rcases eq_or_ne values [] with rfl | some
  · constructor
    · intro run
      cases run with
      | empty => rfl
      | selected some => exact absurd rfl some
    · rintro rfl
      exact .empty rfl
  · have inside := percentileIndex_lt (List.length_pos_of_ne_nil some) percentile
    have taken : percentileValue values percentile =
        .ok (Arith.nthElement values (percentileIndex values.length percentile)) := by simp [percentileValue, some]
    rw [taken]
    constructor
    · intro run
      cases run with
      | empty none => exact absurd none some
      | selected _ selected => rw [selected.hasRank.unique (Arith.hasRank_nthElement inside)]
    · rintro rfl
      obtain ⟨value, -, selected⟩ := nthElement_mergeSort inside
      rw [(Arith.hasRank_nthElement inside).unique selected.hasRank]
      exact .selected some selected

/-- A run over some values returns one. -/
theorem PercentileRun.eq_ok (some : values ≠ []) (run : PercentileRun values percentile result) :
    ∃ value, result = .ok value ∧ HasRank values (percentileIndex values.length percentile) value := by
  cases run with
  | empty none => exact absurd none some
  | selected _ selected => exact ⟨_, rfl, selected.hasRank⟩

end Runs

/-- The value of the nearest rank of a percentile, and the shares of the values on its two sides. -/
structure NearestRank (values : List ℝ) (percentile value : ℝ) : Prop where
  sorted : (values.mergeSort fun a b => decide (a ≤ b))[max 1 ⌈percentile * values.length / 100⌉₊ - 1]? = some value
  covers : percentile / 100 * values.length ≤ (values.countP fun x => decide (x ≤ value) : Nat)
  below : values.countP (fun x => decide (x < value)) < ⌈percentile * values.length / 100⌉₊

theorem nearestRank_of_hasRank {values : List ℝ} {percentile value : ℝ} (positive : 0 < percentile)
    (atMost : percentile ≤ 100) (ranked : HasRank values (percentileIndex values.length percentile) value) :
    NearestRank values percentile value := by
  have some : 0 < values.length := (Nat.zero_le _).trans_lt ranked.lt_length
  have rank := succ_percentileIndex some atMost
  have first : 0 < ⌈percentile * values.length / 100⌉₊ := by
    rw [Nat.ceil_pos]
    have length : (0 : ℝ) < values.length := Nat.cast_pos.mpr some
    positivity
  have low := ranked.below
  have high := ranked.upTo
  constructor
  · rw [← rank, Nat.add_sub_cancel]
    exact ranked.getElem?_mergeSort
  · calc percentile / 100 * values.length = percentile * values.length / 100 := by ring
      _ ≤ ⌈percentile * values.length / 100⌉₊ := Nat.le_ceil _
      _ ≤ (values.countP fun x => decide (x ≤ value) : Nat) := by
        rw [Nat.cast_le]
        omega
  · omega

/-- Whatever the selection leaves, the percentile is the value of the nearest rank: it depends on
no order of the values, and it rises with the percentile and with each value. -/
theorem percentile_value_nearest_rank (values : List ℝ) (some : values ≠ []) (percentile : ℝ)
    (positive : 0 < percentile) (atMost : percentile ≤ 100) :
    percentileIndex values.length percentile < values.length ∧
    (∃ result, PercentileRun values percentile result) ∧
    ∀ result, PercentileRun values percentile result → ∃ value, result = .ok value ∧
      NearestRank values percentile value ∧
      (∀ others, values.Perm others → ∀ again, PercentileRun others percentile again → again = .ok value) ∧
      (∀ higher, percentile ≤ higher → higher ≤ 100 → ∀ again, PercentileRun values higher again →
        ∃ raised, again = .ok raised ∧ value ≤ raised) ∧
      ∀ others, List.Forall₂ (· ≤ ·) values others → ∀ again, PercentileRun others percentile again →
        ∃ raised, again = .ok raised ∧ value ≤ raised := by
  refine ⟨percentileIndex_lt (List.length_pos_of_ne_nil some) percentile, ⟨_, percentileRun_iff.mpr rfl⟩, ?_⟩
  intro result run
  obtain ⟨value, rfl, ranked⟩ := run.eq_ok some
  refine ⟨value, rfl, nearestRank_of_hasRank positive atMost ranked, ?_, ?_, ?_⟩
  · intro others same again run
    have alsoSome : others ≠ [] := by
      rintro rfl
      exact some same.eq_nil
    obtain ⟨other, rfl, alsoRanked⟩ := run.eq_ok alsoSome
    rw [← same.length_eq] at alsoRanked
    rw [alsoRanked.unique (ranked.perm same)]
  · intro higher raised _ again run
    obtain ⟨other, rfl, alsoRanked⟩ := run.eq_ok some
    exact ⟨other, rfl, ranked.le_of_le alsoRanked (percentileIndex_mono _ raised)⟩
  · intro others raised again run
    have alsoSome : others ≠ [] := by
      rintro rfl
      exact some (List.forall₂_nil_right_iff.mp raised)
    obtain ⟨other, rfl, alsoRanked⟩ := run.eq_ok alsoSome
    rw [← raised.length_eq] at alsoRanked
    exact ⟨other, rfl, ranked.le_of_forall₂ raised alsoRanked⟩

/-- The middle of three values. -/
theorem percentile_value_three : ∃ value : ℝ, PercentileRun [3, 1, 2] 50 (.ok value) ∧
    NearestRank [3, 1, 2] 50 value := by
  obtain ⟨-, ⟨result, run⟩, all⟩ := percentile_value_nearest_rank [3, 1, 2] (List.cons_ne_nil _ _) 50 (by norm_num)
    (by norm_num)
  obtain ⟨value, rfl, ranked, -⟩ := all result run
  exact ⟨value, run, ranked⟩

end TelemetryLab.Pca
