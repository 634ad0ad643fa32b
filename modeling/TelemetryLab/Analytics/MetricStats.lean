import Mathlib
import TelemetryLab.Analytics.TimeSeries
import TelemetryLab.Lib.Aggregates

/-! The aggregates of a column for a whole dataset and for the buckets of a chart:
`GetMetricStats` and `GetTimeSeries` in `db_client.cpp`, in exact arithmetic.
-/

set_option autoImplicit false
namespace TelemetryLab.Analytics
open Server (Raised)
open Aggregates

section Definitions

variable {V : Type} [Field V] [LinearOrder V] [FloorSemiring V]

/-- The aggregate behind the name of an aggregation. -/
def aggregateOf (agg : String) (values : List V) : V :=
  if agg = "mean" then average values
  else if agg = "min" then values.min?.getD 0
  else if agg = "max" then values.max?.getD 0
  else if agg = "p50" then percentileCont 0.5 values
  else percentileCont 0.95 values

theorem aggregateOf_mean (values : List V) : aggregateOf "mean" values = average values := rfl

theorem aggregateOf_min (values : List V) : aggregateOf "min" values = values.min?.getD 0 := rfl

theorem aggregateOf_max (values : List V) : aggregateOf "max" values = values.max?.getD 0 := rfl

theorem aggregateOf_p50 (values : List V) : aggregateOf "p50" values = percentileCont 0.5 values := rfl

theorem aggregateOf_p95 (values : List V) : aggregateOf "p95" values = percentileCont 0.95 values := rfl

/-- An aggregate of no rows is `NULL`, which is read as zero. -/
def readAggregate (agg : String) (values : List V) : V := if values = [] then 0 else aggregateOf agg values

structure MetricStats (V : Type) where
  count : Nat
  min : V
  max : V
  mean : V
  p50 : V
  p95 : V
  missingCount : Nat

def metricStatsOf (values : List V) : MetricStats V where
  count := values.length
  min := readAggregate "min" values
  max := readAggregate "max" values
  mean := readAggregate "mean" values
  p50 := readAggregate "p50" values
  p95 := readAggregate "p95" values
  missingCount := 0

def getMetricStats (rows : List (ArchivedRow V)) (runId metric : String) : Except Raised (MetricStats V) :=
  if isValidMetric metric = false then .error (.thrown (.invalidArgument ("Invalid metric: " ++ metric)))
  else .ok (metricStatsOf ((rows.filter fun row => decide (row.runId = runId)).map fun row => row.column metric))

/-- What the document of a point holds under a key, where the last write stays. -/
def TimePoint.value (point : TimePoint V) (metric agg : String) : V :=
  (point.values.reverse.lookup (metric ++ "_" ++ agg)).getD 0

end Definitions

/-! ## Points -/

/-- The keys of the allowed names are apart. -/
theorem key_inj : ∀ metric ∈ allowedMetrics, ∀ other ∈ allowedMetrics, ∀ agg ∈ allowedAggs, ∀ another ∈ allowedAggs,
    metric ++ "_" ++ agg = other ++ "_" ++ another → metric = other ∧ agg = another := by
  decide +kernel

/-- A key that is written with one value only is read with it. -/
theorem lookup_of_only {K V : Type} [BEq K] [LawfulBEq K] {pairs : List (K × V)} {k : K} {v : V}
    (known : (k, v) ∈ pairs) (only : ∀ w, (k, w) ∈ pairs → w = v) : pairs.lookup k = some v := by
  induction pairs with
  | nil => cases known
  | cons pair rest ih =>
    by_cases here : k = pair.1
    · subst here
      rw [List.lookup_cons_self, only pair.2 List.mem_cons_self]
    · have elsewhere : (k == pair.1) = false := beq_eq_false_iff_ne.mpr here
      rw [List.lookup_cons, elsewhere]
      apply ih
      · rcases List.mem_cons.mp known with same | later
        · exact absurd (congrArg Prod.fst same) here
        · exact later
      · intro w member
        exact only w (List.mem_cons_of_mem pair member)

theorem checkNames_valid {metrics aggs : List String} (checked : checkNames metrics aggs = .ok ()) :
    (∀ metric ∈ metrics, metric ∈ allowedMetrics) ∧ ∀ agg ∈ aggs, agg ∈ allowedAggs := by
  rw [checkNames] at checked
  split at checked
  next => cases checked
  next noMetric =>
    split at checked
    next => cases checked
    next noAgg =>
      rw [List.find?_eq_none] at noMetric noAgg
      constructor
      · intro metric member
        simpa [isValidMetric] using noMetric metric member
      · intro agg member
        simpa [isValidAggregation] using noAgg agg member

section Points

variable {V : Type} {text : TimestampText} {rows matched : List (ArchivedRow V)} {runId : String}
  {metrics aggs : List String} {bucketSeconds : Int} {filters : Filters} {points : List (TimePoint V)}

/-- The buckets of a chart, in their order. -/
def buckets (bucketSeconds : Int) (matched : List (ArchivedRow V)) : List Int :=
  ((matched.map fun row => bucketTs bucketSeconds row.metricTimestamp).dedup).insertionSort fun a b => a ≤ b

theorem mem_buckets {bucket : Int} :
    bucket ∈ buckets bucketSeconds matched ↔ ∃ row ∈ matched, bucketTs bucketSeconds row.metricTimestamp = bucket := by
  rw [buckets, List.mem_insertionSort, List.mem_dedup, List.mem_map]

theorem buckets_nodup (bucketSeconds : Int) (matched : List (ArchivedRow V)) :
    (buckets bucketSeconds matched).Nodup :=
  (List.perm_insertionSort _ _).nodup_iff.mpr (List.nodup_dedup _)

theorem buckets_cover (bucketSeconds : Int) (matched : List (ArchivedRow V)) :
    ∀ row ∈ matched, bucketTs bucketSeconds row.metricTimestamp ∈ buckets bucketSeconds matched :=
  fun row member => mem_buckets.mpr ⟨row, member, rfl⟩

/-- A chart that is returned has a point for each bucket of the rows. -/
theorem getTimeSeries_eq_ok {aggregate : String → List V → V}
    (returned : getTimeSeries text aggregate rows runId metrics aggs bucketSeconds filters = .ok points) :
    checkNames metrics aggs = .ok () ∧ ∃ matched, selectRows text rows runId filters = .ok matched ∧
      points = (buckets bucketSeconds matched).map (timePointOf text aggregate metrics aggs bucketSeconds matched) := by
  obtain ⟨_, checked, returned⟩ := Pca.bind_eq_ok returned
  obtain ⟨matched, selected, returned⟩ := Pca.bind_eq_ok returned
  split at returned
  next => cases returned
  next =>
    cases returned
    exact ⟨checked, matched, selected, rfl⟩

/-- The rows of a bucket. -/
def bucketRows (bucketSeconds : Int) (matched : List (ArchivedRow V)) (bucket : Int) : List (ArchivedRow V) :=
  group (fun row => bucketTs bucketSeconds row.metricTimestamp) matched bucket

theorem bucketRows_ne_nil {bucket : Int} (known : bucket ∈ buckets bucketSeconds matched) :
    bucketRows bucketSeconds matched bucket ≠ [] := by
  obtain ⟨row, member, same⟩ := mem_buckets.mp known
  exact List.ne_nil_of_mem (mem_group.mpr ⟨member, same⟩)

end Points

section Values

variable {V : Type} [Field V] [LinearOrder V] [FloorSemiring V] {text : TimestampText}
  {rows matched : List (ArchivedRow V)} {runId metric agg : String} {metrics aggs : List String} {bucketSeconds bucket : Int}
  {filters : Filters} {points : List (TimePoint V)}

theorem readAggregate_of_ne_nil (agg : String) {values : List V} (some_ : values ≠ []) :
    readAggregate agg values = aggregateOf agg values :=
  if_neg some_

theorem timePointOf_value (checked : checkNames metrics aggs = .ok ()) (charted : metric ∈ metrics) (asked : agg ∈ aggs)
    (known : bucket ∈ buckets bucketSeconds matched) :
    (timePointOf text readAggregate metrics aggs bucketSeconds matched bucket).value metric agg =
      aggregateOf agg ((bucketRows bucketSeconds matched bucket).map fun row => row.column metric) := by
  obtain ⟨validMetrics, validAggs⟩ := checkNames_valid checked
  have some_ : (bucketRows bucketSeconds matched bucket).map (fun row => row.column metric) ≠ [] := by
    simpa using bucketRows_ne_nil known
  rw [TimePoint.value, lookup_of_only (v := aggregateOf agg
    ((bucketRows bucketSeconds matched bucket).map fun row => row.column metric)), Option.getD_some]
  · simp only [timePointOf, List.mem_reverse, List.mem_flatMap, List.mem_map, Prod.mk.injEq]
    exact ⟨metric, charted, agg, asked, rfl, readAggregate_of_ne_nil agg some_⟩
  · intro w written
    simp only [timePointOf, List.mem_reverse, List.mem_flatMap, List.mem_map, Prod.mk.injEq] at written
    obtain ⟨other, chartedOther, another, askedAnother, same, rfl⟩ := written
    obtain ⟨rfl, rfl⟩ := key_inj other (validMetrics other chartedOther) metric (validMetrics metric charted) another
      (validAggs another askedAnother) agg (validAggs agg asked) same
    exact readAggregate_of_ne_nil another some_

end Values

/-! ## Recombination -/

section Recombination

variable {V : Type} [Field V] [LinearOrder V] [FloorSemiring V] {text : TimestampText}
  {rows matched : List (ArchivedRow V)} {runId metric agg : String} {metrics aggs : List String} {bucketSeconds : Int}
  {filters : Filters} {points : List (TimePoint V)}

/-- The points of a chart together give the statistics of the metric. -/
structure Combines (points : List (TimePoint V)) (metric : String) (aggs : List String) (stats : MetricStats V) :
    Prop where
  count : (points.map TimePoint.count).sum = stats.count
  mean : "mean" ∈ aggs →
    (points.map fun point => (point.count : V) * point.value metric "mean").sum = (stats.count : V) * stats.mean
  min : "min" ∈ aggs →
    (points.map fun point => point.value metric "min").min? = if stats.count = 0 then none else some stats.min
  max : "max" ∈ aggs →
    (points.map fun point => point.value metric "max").max? = if stats.count = 0 then none else some stats.max

/-- The values of a point are in the order that their names promise. -/
structure TimePoint.Ordered (point : TimePoint V) (metric : String) (aggs : List String) : Prop where
  least : "min" ∈ aggs → ∀ agg ∈ aggs, point.value metric "min" ≤ point.value metric agg
  greatest : "max" ∈ aggs → ∀ agg ∈ aggs, point.value metric agg ≤ point.value metric "max"
  percentiles : "p50" ∈ aggs → "p95" ∈ aggs → point.value metric "p50" ≤ point.value metric "p95"

theorem min?_eq_aggregateOf {values : List V} (some_ : values ≠ []) :
    values.min? = some (aggregateOf "min" values) := by
  obtain ⟨least, found⟩ := Option.isSome_iff_exists.mp (List.isSome_min?_iff.mpr some_)
  rw [aggregateOf_min, found, Option.getD_some]

theorem max?_eq_aggregateOf {values : List V} (some_ : values ≠ []) :
    values.max? = some (aggregateOf "max" values) := by
  obtain ⟨greatest, found⟩ := Option.isSome_iff_exists.mp (List.isSome_max?_iff.mpr some_)
  rw [aggregateOf_max, found, Option.getD_some]

/-- Every aggregate lies between the extremes. -/
theorem aggregateOf_mem_Icc [IsStrictOrderedRing V] {values : List V} (some_ : values ≠ [])
    (valid : agg ∈ allowedAggs) :
    aggregateOf "min" values ≤ aggregateOf agg values ∧ aggregateOf agg values ≤ aggregateOf "max" values := by
  obtain ⟨reached, below⟩ := foremost_le_iff.mpr (min?_eq_aggregateOf some_)
  obtain ⟨attained, above⟩ := foremost_ge_iff.mpr (max?_eq_aggregateOf some_)
  simp only [allowedAggs, List.mem_cons, List.not_mem_nil, or_false] at valid
  rcases valid with rfl | rfl | rfl | rfl | rfl
  · exact average_mem_Icc some_ below above
  · exact ⟨le_rfl, above _ reached⟩
  · exact ⟨below _ attained, le_rfl⟩
  · exact percentileCont_mem_Icc some_ (by norm_num) (by norm_num) below above
  · exact percentileCont_mem_Icc some_ (by norm_num) (by norm_num) below above

theorem timePointOf_ordered [IsStrictOrderedRing V] (checked : checkNames metrics aggs = .ok ())
    (charted : metric ∈ metrics) {bucket : Int} (known : bucket ∈ buckets bucketSeconds matched) :
    (timePointOf text readAggregate metrics aggs bucketSeconds matched bucket).Ordered metric aggs := by
  have some_ : (bucketRows bucketSeconds matched bucket).map (fun row => row.column metric) ≠ [] := by
    simpa using bucketRows_ne_nil known
  have valid := (checkNames_valid checked).2
  constructor
  · intro asked agg member
    rw [timePointOf_value checked charted asked known, timePointOf_value checked charted member known]
    exact (aggregateOf_mem_Icc some_ (valid agg member)).1
  · intro asked agg member
    rw [timePointOf_value checked charted asked known, timePointOf_value checked charted member known]
    exact (aggregateOf_mem_Icc some_ (valid agg member)).2
  · intro low high
    rw [timePointOf_value checked charted low known, timePointOf_value checked charted high known, aggregateOf_p50,
      aggregateOf_p95]
    exact percentileCont_mono some_ (by norm_num) (by norm_num) (by norm_num)

/-- The points count the rows behind the chart. -/
theorem sum_count (matched : List (ArchivedRow V)) :
    (((buckets bucketSeconds matched).map
      (timePointOf text readAggregate metrics aggs bucketSeconds matched)).map TimePoint.count).sum = matched.length := by
  rw [List.map_map]
  exact sum_length_group (buckets_nodup bucketSeconds matched) (buckets_cover bucketSeconds matched)

theorem length_mul_mean [CharZero V] (values : List V) :
    (values.length : V) * readAggregate "mean" values = values.sum := by
  by_cases empty : values = []
  · simp [empty]
  · rw [readAggregate_of_ne_nil "mean" empty, aggregateOf_mean, length_mul_average]

/-- An aggregation that picks the first value picks the same one from the points as from the rows. -/
theorem foremost_points {r : V → V → Prop} (transitive : ∀ a b c, r a b → r b c → r a c)
    (antisymmetric : ∀ a b, r a b → r b a → a = b)
    (picks : ∀ values : List V, values ≠ [] → Foremost r values (aggregateOf agg values))
    (checked : checkNames metrics aggs = .ok ()) (charted : metric ∈ metrics) (asked : agg ∈ aggs)
    (some_ : matched ≠ []) :
    Foremost r (((buckets bucketSeconds matched).map
        (timePointOf text readAggregate metrics aggs bucketSeconds matched)).map fun point => point.value metric agg)
      (aggregateOf agg (matched.map fun row => row.column metric)) := by
  have cover := buckets_cover bucketSeconds matched
  have values : ((buckets bucketSeconds matched).map
      (timePointOf text readAggregate metrics aggs bucketSeconds matched)).map (fun point => point.value metric agg) =
      (buckets bucketSeconds matched).map fun bucket =>
        aggregateOf agg ((bucketRows bucketSeconds matched bucket).map fun row => row.column metric) := by
    rw [List.map_map]
    apply List.map_congr_left
    intro bucket known
    exact timePointOf_value checked charted asked known
  have each : ∀ bucket ∈ buckets bucketSeconds matched,
      Foremost r ((bucketRows bucketSeconds matched bucket).map fun row => row.column metric)
        (aggregateOf agg ((bucketRows bucketSeconds matched bucket).map fun row => row.column metric)) := by
    intro bucket known
    apply picks
    simpa using bucketRows_ne_nil known
  obtain ⟨row, member⟩ := List.exists_mem_of_ne_nil matched some_
  rw [values]
  have first := picks _ (List.ne_nil_of_mem (List.mem_map_of_mem (f := fun bucket =>
    aggregateOf agg ((bucketRows bucketSeconds matched bucket).map fun row => row.column metric)) (cover row member)))
  have overall := foremost_of_groups transitive each cover first
  have direct := picks (matched.map fun row => row.column metric) (by simpa using some_)
  rwa [antisymmetric _ _ (overall.2 _ direct.1) (direct.2 _ overall.1)] at first

/-- The points of a chart combine to the statistics of the rows behind it. -/
theorem combines [IsStrictOrderedRing V] (checked : checkNames metrics aggs = .ok ()) (charted : metric ∈ metrics)
    (matched : List (ArchivedRow V)) :
    Combines ((buckets bucketSeconds matched).map (timePointOf text readAggregate metrics aggs bucketSeconds matched))
      metric aggs (metricStatsOf (matched.map fun row => row.column metric)) := by
  have size : (metricStatsOf (matched.map fun row => row.column metric)).count = 0 ↔ matched = [] := by
    rw [metricStatsOf, List.length_map, List.length_eq_zero_iff]
  constructor
  · rw [sum_count]
    exact (List.length_map _).symm
  · intro asked
    have weighed : ((buckets bucketSeconds matched).map
        (timePointOf text readAggregate metrics aggs bucketSeconds matched)).map
          (fun point => (point.count : V) * point.value metric "mean") =
        (buckets bucketSeconds matched).map fun bucket =>
          ((bucketRows bucketSeconds matched bucket).map fun row => row.column metric).sum := by
      rw [List.map_map]
      apply List.map_congr_left
      intro bucket known
      have counted := length_mul_average ((bucketRows bucketSeconds matched bucket).map fun row => row.column metric)
      rw [List.length_map, ← aggregateOf_mean, ← timePointOf_value checked charted asked known] at counted
      exact counted
    rw [weighed]
    exact (sum_sum_group _ (buckets_nodup bucketSeconds matched) (buckets_cover bucketSeconds matched)).trans
      (length_mul_mean _).symm
  · intro asked
    by_cases empty : matched = []
    · rw [if_pos (size.mpr empty), empty]
      rfl
    · have valued : matched.map (fun row => row.column metric) ≠ [] := by simpa using empty
      rw [if_neg (size.not.mpr empty), metricStatsOf, readAggregate_of_ne_nil "min" valued]
      exact foremost_le_iff.mp (foremost_points (fun _ _ _ => le_trans) (fun _ _ => le_antisymm)
        (fun values some_ => foremost_le_iff.mpr (min?_eq_aggregateOf some_)) checked charted asked empty)
  · intro asked
    by_cases empty : matched = []
    · rw [if_pos (size.mpr empty), empty]
      rfl
    · have valued : matched.map (fun row => row.column metric) ≠ [] := by simpa using empty
      rw [if_neg (size.not.mpr empty), metricStatsOf, readAggregate_of_ne_nil "max" valued]
      exact foremost_ge_iff.mp (foremost_points (fun _ _ _ => ge_trans) (fun _ _ above below => le_antisymm below above)
        (fun values some_ => foremost_ge_iff.mpr (max?_eq_aggregateOf some_)) checked charted asked empty)

/-- A chart counts what a search with its filters finds, its points are in order, and those of a
whole dataset combine to the statistics of each metric. -/
theorem chart_agrees [IsStrictOrderedRing V]
    (returned : getTimeSeries text readAggregate rows runId metrics aggs bucketSeconds filters = .ok points) :
    searchDatasetRecords text rows runId { filters } = .ok (points.map TimePoint.count).sum ∧
    (∀ point ∈ points, 0 < point.count ∧ ∀ metric ∈ metrics, point.Ordered metric aggs) ∧
    (filters = {} → ∀ metric ∈ metrics,
      ∃ stats, getMetricStats rows runId metric = .ok stats ∧ Combines points metric aggs stats) := by
  obtain ⟨checked, matched, selected, rfl⟩ := getTimeSeries_eq_ok returned
  refine ⟨?_, ?_, ?_⟩
  · rw [sum_count]
    simp [searchDatasetRecords, selected, timeBound, bind, Except.bind, pure, Except.pure, within]
  · intro point member
    obtain ⟨bucket, known, rfl⟩ := List.mem_map.mp member
    exact ⟨List.length_pos_iff.mpr (bucketRows_ne_nil known), fun _ charted => timePointOf_ordered checked charted known⟩
  · rintro rfl metric charted
    have valid : isValidMetric metric ≠ false := by
      simpa [isValidMetric] using (checkNames_valid checked).1 metric charted
    rw [selectRows_unbounded ⟨rfl, rfl⟩] at selected
    cases selected
    have plain : Filters.selects {} runId = fun row : ArchivedRow V => decide (row.runId = runId) := by
      funext row
      simp [Filters.selects]
    rw [getMetricStats, if_neg valid, plain]
    exact ⟨_, rfl, combines checked charted _⟩

end Recombination

/-- A record of the dataset `d` with this CPU usage, at so many seconds after the start of 2026. -/
def cpuAt (recordId seconds : Int) (cpuUsage : ℚ) : ArchivedRow ℚ :=
  ⟨⟨recordId, "d", cpuUsage, 20, 30, 40, 50⟩, "host-A-0", "us-east1", (1767225600 + seconds) * 1000000, false, none⟩

theorem chart_agrees_minutes : ∃ points stats,
    getTimeSeries isoText readAggregate [cpuAt 1 0 10, cpuAt 2 30 40, cpuAt 3 60 25] "d" ["cpu_usage"] allowedAggs 60 {} =
      .ok points ∧ getMetricStats [cpuAt 1 0 10, cpuAt 2 30 40, cpuAt 3 60 25] "d" "cpu_usage" = .ok stats ∧
    Combines points "cpu_usage" allowedAggs stats := by
  have charted : ∃ points, getTimeSeries isoText readAggregate [cpuAt 1 0 10, cpuAt 2 30 40, cpuAt 3 60 25] "d"
      ["cpu_usage"] allowedAggs 60 {} = .ok points := ⟨_, rfl⟩
  obtain ⟨points, returned⟩ := charted
  obtain ⟨stats, counted, combined⟩ := (chart_agrees returned).2.2 rfl "cpu_usage" (List.mem_singleton_self _)
  exact ⟨points, stats, returned, counted, combined⟩

end TelemetryLab.Analytics
