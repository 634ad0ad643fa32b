import Mathlib
import TelemetryLab.Analytics.MetricStats
import TelemetryLab.Analytics.PreviousPeriod

/-! The width of the buckets of a chart: `SelectBucketSeconds` in `time_resolution.h`
and the parameter `bucket` of `HandleDatasetTimeSeries`.

The automatic width grows with the period, which bounds the number of points.
-/

set_option autoImplicit false
namespace TelemetryLab.Analytics
open Models

/-- The width for a period of so many seconds. -/
def secondsOf (seconds : Int) : Int :=
  if seconds ≤ 6 * 3600 then 300
  else if seconds ≤ 2 * 86400 then 3600
  else if seconds ≤ 30 * 86400 then 21600
  else if seconds ≤ 180 * 86400 then 86400
  else 604800

def selectBucketSeconds (startTime endTime : String) : Except Overflow Int := do
  let start ← parseIsoTimePoint startTime
  let end_ ← parseIsoTimePoint endTime
  match start, end_ with
  | some start, some end_ =>
    let delta ← timePoint (end_ - start)
    .ok (secondsOf (delta.tdiv 1000000000))
  | _, _ => .ok 3600

/-- The width that a request asks for. -/
def resolveBucket (bucket startTime endTime : String) : Except Overflow Int :=
  if bucket = "1m" then .ok 60
  else if bucket = "5m" then .ok 300
  else if bucket = "15m" then .ok 900
  else if bucket = "1h" then .ok 3600
  else if bucket = "6h" then .ok 21600
  else if bucket = "1d" then .ok 86400
  else if bucket = "7d" then .ok 604800
  else if bucket = "" ∨ bucket = "auto" then selectBucketSeconds startTime endTime
  else .ok 3600

theorem secondsOf_pos (seconds : Int) : 0 < secondsOf seconds := by
  unfold secondsOf
  split_ifs <;> decide

theorem selectBucketSeconds_pos {startTime endTime : String} {width : Int}
    (selected : selectBucketSeconds startTime endTime = .ok width) : 0 < width := by
  obtain ⟨start, _, selected⟩ := Pca.bind_eq_ok selected
  obtain ⟨end_, _, selected⟩ := Pca.bind_eq_ok selected
  split at selected
  · obtain ⟨delta, _, chosen⟩ := Pca.bind_eq_ok selected
    cases chosen
    exact secondsOf_pos _
  · cases selected
    decide

/-- Every width is positive, so no chart of the handler divides by zero. -/
theorem resolveBucket_pos {bucket startTime endTime : String} {width : Int}
    (resolved : resolveBucket bucket startTime endTime = .ok width) : 0 < width := by
  unfold resolveBucket at resolved
  split_ifs at resolved <;> first
    | exact selectBucketSeconds_pos resolved
    | (cases resolved; decide)

theorem selectBucketSeconds_of_parsed {startTime endTime : String} {start end_ width : Int}
    (parsedStart : parseIsoTime startTime = some start) (parsedEnd : parseIsoTime endTime = some end_)
    (selected : selectBucketSeconds startTime endTime = .ok width) : width = secondsOf (end_ - start) := by
  rw [selectBucketSeconds, parseIsoTimePoint_of_parsed parsedStart, parseIsoTimePoint_of_parsed parsedEnd] at selected
  obtain ⟨first, readFirst, selected⟩ := Pca.bind_eq_ok selected
  obtain ⟨last, readLast, selected⟩ := Pca.bind_eq_ok selected
  split at readFirst
  next =>
    cases readFirst
    split at readLast
    next =>
      cases readLast
      obtain ⟨delta, fits, chosen⟩ := Pca.bind_eq_ok selected
      obtain ⟨_, rfl⟩ := timePoint_eq_ok.mp fits
      cases chosen
      rw [← sub_mul, Int.mul_tdiv_cancel _ (by decide)]
    next => cases readLast
  next => cases readFirst

section Points

variable {R : Type} {matched : List (ArchivedRow R)} {width lower upper : Int}

/-- A bucket is a multiple of the width, and the multiples in a period are few. -/
theorem length_buckets_le (positive : 0 < width)
    (inside : ∀ row ∈ matched, lower ≤ row.metricTimestamp ∧ row.metricTimestamp ≤ upper) :
    (buckets width matched).length ≤ (upper / (width * 1000000) - lower / (width * 1000000) + 1).toNat := by
  have scaled : 0 < width * 1000000 := by omega
  apply Aggregates.length_keys_le (buckets_nodup width matched)
  intro bucket known
  obtain ⟨row, stored, rfl⟩ := mem_buckets.mp known
  refine ⟨row.metricTimestamp / (width * 1000000), ?_, Int.ediv_le_ediv scaled (inside row stored).1,
    Int.ediv_le_ediv scaled (inside row stored).2⟩
  rw [bucketTs, Int.fdiv_eq_ediv_of_nonneg _ scaled.le, Int.add_zero]

/-- The buckets of a period with its automatic width. -/
theorem length_buckets_secondsOf {start end_ : Int}
    (inside : ∀ row ∈ matched, start * 1000000 ≤ row.metricTimestamp ∧ row.metricTimestamp ≤ end_ * 1000000) :
    (end_ - start ≤ 180 * 86400 → (buckets (secondsOf (end_ - start)) matched).length ≤ 181) ∧
    (180 * 86400 < end_ - start →
      ((buckets (secondsOf (end_ - start)) matched).length : Int) ≤ (end_ - start) / 604800 + 2) := by
  have few := length_buckets_le (secondsOf_pos (end_ - start)) inside
  rw [Int.mul_ediv_mul_of_pos_left _ _ (by decide), Int.mul_ediv_mul_of_pos_left _ _ (by decide)] at few
  revert few
  unfold secondsOf
  split_ifs <;> omega

end Points

/-- A chart whose width is chosen for its period has at most 181 points if the period is at most 180
days, and at most two points more than full weeks if it is longer. -/
theorem chart_points_bounded {R : Type} {text : TimestampText} {aggregate : String → List R → R}
    {rows : List (ArchivedRow R)} {runId bucket : String} {metrics aggs : List String} {width start end_ : Int}
    {filters : Filters} {points : List (TimePoint R)} (automatic : bucket = "" ∨ bucket = "auto")
    (resolved : resolveBucket bucket filters.startTime filters.endTime = .ok width)
    (parsedStart : parseIsoTime filters.startTime = some start) (parsedEnd : parseIsoTime filters.endTime = some end_)
    (readStart : text.parse filters.startTime = some (start * 1000000))
    (readEnd : text.parse filters.endTime = some (end_ * 1000000))
    (returned : getTimeSeries text aggregate rows runId metrics aggs width filters = .ok points) :
    (end_ - start ≤ 180 * 86400 → points.length ≤ 181) ∧
    (180 * 86400 < end_ - start → (points.length : Int) ≤ (end_ - start) / 604800 + 2) := by
  obtain ⟨_, matched, selected, rfl⟩ := getTimeSeries_eq_ok returned
  rw [selectRows_bounded readStart readEnd] at selected
  cases selected
  have selects : selectBucketSeconds filters.startTime filters.endTime = .ok width := by
    rcases automatic with rfl | rfl <;> exact resolved
  rw [selectBucketSeconds_of_parsed parsedStart parsedEnd selects, List.length_map]
  apply length_buckets_secondsOf
  intro row member
  simpa [within] using (Bool.and_eq_true_iff.mp (List.mem_filter.mp member).2).2

/-- Two of the three records of the hour are in one bucket. -/
theorem chart_points_bounded_hour : ∃ points : List (TimePoint Int),
    getTimeSeries isoText (fun _ _ => 0) aroundMidnight "d" [] [] 300 firstHour = .ok points ∧
      points.map TimePoint.count = [2, 1] ∧ points.length ≤ 181 := by
  have parsedStart : parseIsoTime firstHour.startTime = some 1767225600 := by decide +kernel
  have parsedEnd : parseIsoTime firstHour.endTime = some 1767229200 := by decide +kernel
  have readStart : isoText.parse firstHour.startTime = some (1767225600 * 1000000) := by decide +kernel
  have readEnd : isoText.parse firstHour.endTime = some (1767229200 * 1000000) := by decide +kernel
  have resolved : resolveBucket "auto" firstHour.startTime firstHour.endTime = .ok 300 := by decide +kernel
  have returned : getTimeSeries isoText (fun _ _ => 0) aroundMidnight "d" [] [] 300 firstHour =
      .ok [⟨"2026-01-01T00:00:00Z", [], 2⟩, ⟨"2026-01-01T00:20:00Z", [], 1⟩] := by
    decide +kernel
  exact ⟨_, returned, rfl, (chart_points_bounded (.inr rfl) resolved parsedStart parsedEnd readStart readEnd returned).1
    (by decide)⟩

end TelemetryLab.Analytics
