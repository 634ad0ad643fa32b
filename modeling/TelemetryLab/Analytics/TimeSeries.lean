import Mathlib.Algebra.Order.Ring.Int
import Mathlib.Data.List.Dedup
import TelemetryLab.Models.CalendarTime
import TelemetryLab.Pca.BatchIterator
import TelemetryLab.Server.Requests

/-! The chart of a metric over time and the records behind it: `GetTimeSeries` and
`SearchDatasetRecords` in `db_client.cpp`.

Times are microseconds. How the database server reads and prints the text of a
time, and its aggregates of a column, are parameters. The dataset of a request is the
UUID that the server has read from its text; any other text is an error of the query.
-/

set_option autoImplicit false
namespace TelemetryLab.Analytics
open Server (Raised)

variable {R : Type}

/-- A row of `host_telemetry_archival` with the columns that a chart or a search asks for. -/
structure ArchivedRow (R : Type) extends Pca.TelemetryRow R where
  hostId : String
  region : String
  metricTimestamp : Int
  isAnomaly : Bool
  anomalyType : Option String

/-- The names of the columns that may be charted. -/
def allowedMetrics : List String :=
  ["cpu_usage", "memory_usage", "disk_utilization", "network_rx_rate", "network_tx_rate"]

def allowedAggs : List String := ["mean", "min", "max", "p50", "p95"]

def isValidMetric (metric : String) : Bool := decide (metric ∈ allowedMetrics)

def isValidAggregation (agg : String) : Bool := decide (agg ∈ allowedAggs)

/-- The column of a valid metric. -/
def ArchivedRow.column (row : ArchivedRow R) (metric : String) : R :=
  if metric = "cpu_usage" then row.cpuUsage
  else if metric = "memory_usage" then row.memoryUsage
  else if metric = "disk_utilization" then row.diskUtilization
  else if metric = "network_rx_rate" then row.networkRxRate
  else row.networkTxRate

/-- The texts of `TIMESTAMPTZ` values. The empty text is not one. -/
structure TimestampText where
  print : Int → String
  parse : String → Option Int
  empty : parse "" = none

/-- The filters of a query; an empty one is not applied. -/
structure Filters where
  region : String := ""
  isAnomaly : String := ""
  anomalyType : String := ""
  startTime : String := ""
  endTime : String := ""
  deriving DecidableEq, Repr

/-- The part of the `WHERE` clause that does not speak of the time. -/
def Filters.selects (filters : Filters) (runId : String) (row : ArchivedRow R) : Bool :=
  decide (row.runId = runId) &&
  (decide (filters.region = "") || decide (row.region = filters.region)) &&
  (decide (filters.isAnomaly = "") || decide (row.isAnomaly = decide (filters.isAnomaly = "true"))) &&
  (decide (filters.anomalyType = "") || decide (row.anomalyType = some filters.anomalyType))

/-- The bound of a comparison with a time, if there is one. -/
def timeBound (text : TimestampText) (value : String) : Except Raised (Option Int) :=
  if value = "" then .ok none
  else
    match text.parse value with
    | some t => .ok (some t)
    | none => .error (.sqlError ("invalid input syntax for type timestamp with time zone: \"" ++ value ++ "\""))

/-- `metric_timestamp >= lower AND metric_timestamp <= upper` -/
def within (lower upper : Option Int) (t : Int) : Bool :=
  lower.all (fun bound => decide (bound ≤ t)) && upper.all fun bound => decide (t ≤ bound)

/-- The rows that meet the `WHERE` clause. -/
def selectRows (text : TimestampText) (rows : List (ArchivedRow R)) (runId : String) (filters : Filters) :
    Except Raised (List (ArchivedRow R)) := do
  let lower ← timeBound text filters.startTime
  let upper ← timeBound text filters.endTime
  pure (rows.filter fun row => filters.selects runId row && within lower upper row.metricTimestamp)

/-- `to_timestamp(floor(extract(epoch from metric_timestamp) / n) * n)` -/
def bucketTs (bucketSeconds t : Int) : Int := t.fdiv (bucketSeconds * 1000000) * (bucketSeconds * 1000000)

structure TimePoint (R : Type) where
  ts : String
  values : List (String × R)
  count : Nat
  deriving DecidableEq, Repr

/-- The row of a bucket. -/
def timePointOf (text : TimestampText) (aggregate : String → List R → R) (metrics aggs : List String)
    (bucketSeconds : Int) (matched : List (ArchivedRow R)) (bucket : Int) : TimePoint R :=
  let group := matched.filter fun row => decide (bucketTs bucketSeconds row.metricTimestamp = bucket)
  { ts := text.print bucket
    values := metrics.flatMap fun metric => aggs.map fun agg =>
      (metric ++ "_" ++ agg, aggregate agg (group.map fun row => row.column metric))
    count := group.length }

/-- The first name that is not allowed. -/
def checkNames (metrics aggs : List String) : Except Raised Unit :=
  match metrics.find? fun metric => !isValidMetric metric with
  | some metric => .error (.thrown (.invalidArgument ("Invalid metric: " ++ metric)))
  | none =>
    match aggs.find? fun agg => !isValidAggregation agg with
    | some agg => .error (.thrown (.invalidArgument ("Invalid aggregation: " ++ agg)))
    | none => .ok ()

def getTimeSeries (text : TimestampText) (aggregate : String → List R → R) (rows : List (ArchivedRow R))
    (runId : String) (metrics aggs : List String) (bucketSeconds : Int) (filters : Filters) :
    Except Raised (List (TimePoint R)) := do
  checkNames metrics aggs
  let matched ← selectRows text rows runId filters
  if bucketSeconds = 0 ∧ matched ≠ [] then .error (.sqlError "division by zero")
  else
    let buckets := (matched.map fun row => bucketTs bucketSeconds row.metricTimestamp).dedup
    .ok ((buckets.insertionSort fun a b => a ≤ b).map
      (timePointOf text aggregate metrics aggs bucketSeconds matched))

/-- A search for records; the page that is asked for does not matter for their number. -/
structure Search where
  filters : Filters
  hostId : String := ""
  sortBy : String := ""
  sortOrder : String := ""
  anchorTime : String := ""
  deriving DecidableEq, Repr

/-- The field `total` of `SearchDatasetRecords`. -/
def searchDatasetRecords (text : TimestampText) (rows : List (ArchivedRow R)) (runId : String) (search : Search) :
    Except Raised Nat :=
  let sortDir := if search.sortOrder = "" then "desc" else search.sortOrder.map Char.toLower
  if search.sortBy ≠ "" ∧ search.sortBy ≠ "metric_timestamp" then
    .error (.thrown (.invalidArgument ("Invalid sort_by: " ++ search.sortBy)))
  else if sortDir ≠ "asc" ∧ sortDir ≠ "desc" then
    .error (.thrown (.invalidArgument ("Invalid sort_order: " ++ search.sortOrder)))
  else do
    let matched ← selectRows text rows runId search.filters
    let anchor ← timeBound text search.anchorTime
    pure (matched.countP fun row =>
      (if sortDir = "asc" then within anchor none row.metricTimestamp else within none anchor row.metricTimestamp) &&
      (decide (search.hostId = "") || decide (row.hostId = search.hostId)))

/-! ## Buckets -/

section Buckets

variable {bucketSeconds t start : Int}

/-- A bucket of positive width is closed below and open above. -/
theorem bucketTs_eq_iff (positive : 0 < bucketSeconds) (other : Int) :
    bucketTs bucketSeconds t = bucketTs bucketSeconds other ↔
      bucketTs bucketSeconds other ≤ t ∧ t < bucketTs bucketSeconds other + bucketSeconds * 1000000 := by
  have width : 0 < bucketSeconds * 1000000 := by omega
  have floor : ∀ time : Int, time.fdiv (bucketSeconds * 1000000) = time / (bucketSeconds * 1000000) := fun time =>
    Int.fdiv_eq_ediv_of_nonneg time width.le
  rw [bucketTs, bucketTs, floor, floor, mul_left_inj' width.ne', Int.ediv_eq_iff_of_pos width]

/-- The closed interval holds the bucket and the records at its upper bound. -/
theorem countP_closed (p : ArchivedRow R → Bool) (rows : List (ArchivedRow R)) {width : Int} (positive : 0 < width) :
    rows.countP (fun row => p row && within (some start) (some (start + width)) row.metricTimestamp) =
      rows.countP (fun row => p row && decide (start ≤ row.metricTimestamp ∧ row.metricTimestamp < start + width)) +
        rows.countP fun row => p row && decide (row.metricTimestamp = start + width) := by
  induction rows with
  | nil => rfl
  | cons row rest ih =>
    rw [List.countP_cons, List.countP_cons, List.countP_cons, ih]
    by_cases chosen : p row = true
    · rcases lt_trichotomy row.metricTimestamp (start + width) with below | edge | above
      · simp [within, chosen, below, below.le, below.ne]
        omega
      · simp [within, chosen, edge, positive.le]
        omega
      · simp [within, chosen, above.not_ge, above.ne', above.not_gt]
    · simp [chosen]

/-- The closed interval of a bucket holds its records and those at its upper bound. -/
theorem countP_bucket (p : ArchivedRow R → Bool) (rows : List (ArchivedRow R)) (positive : 0 < bucketSeconds) :
    rows.countP (fun row => p row && within (some (bucketTs bucketSeconds t))
        (some (bucketTs bucketSeconds t + bucketSeconds * 1000000)) row.metricTimestamp) =
      rows.countP (fun row => decide (bucketTs bucketSeconds row.metricTimestamp = bucketTs bucketSeconds t) && p row) +
        rows.countP fun row => p row &&
          decide (row.metricTimestamp = bucketTs bucketSeconds t + bucketSeconds * 1000000) := by
  have inside : ∀ row : ArchivedRow R,
      (decide (bucketTs bucketSeconds row.metricTimestamp = bucketTs bucketSeconds t) && p row) =
        (p row && decide (bucketTs bucketSeconds t ≤ row.metricTimestamp ∧
          row.metricTimestamp < bucketTs bucketSeconds t + bucketSeconds * 1000000)) := by
    intro row
    rw [Bool.and_comm, decide_eq_decide.mpr (bucketTs_eq_iff positive t)]
  simp only [inside]
  exact countP_closed p rows (by omega)

/-- An interval that ends before it starts holds nothing. -/
theorem countP_reversed (p : ArchivedRow R → Bool) (rows : List (ArchivedRow R)) {width : Int} (negative : width < 0) :
    rows.countP (fun row => p row && within (some start) (some (start + width)) row.metricTimestamp) = 0 := by
  rw [List.countP_eq_zero]
  intro row _
  simp [within]
  omega

end Buckets

section DrillDown

variable {text : TimestampText} {aggregate : String → List R → R} {rows : List (ArchivedRow R)} {runId : String}
  {metrics aggs : List String} {bucketSeconds : Int} {filters : Filters} {points : List (TimePoint R)}
  {point : TimePoint R}

theorem selectRows_unbounded (unbounded : filters.startTime = "" ∧ filters.endTime = "") :
    selectRows text rows runId filters = .ok (rows.filter (filters.selects runId)) := by
  simp only [selectRows, timeBound, unbounded.1, unbounded.2, if_true]
  simp [bind, Except.bind, pure, Except.pure, within]

/-- What a point of the chart counts. -/
theorem point_of_getTimeSeries
    (returned : getTimeSeries text aggregate rows runId metrics aggs bucketSeconds filters = .ok points)
    (member : point ∈ points) : ∃ matched, selectRows text rows runId filters = .ok matched ∧ bucketSeconds ≠ 0 ∧
      ∃ row ∈ matched, point.ts = text.print (bucketTs bucketSeconds row.metricTimestamp) ∧
        point.count = matched.countP fun other =>
          decide (bucketTs bucketSeconds other.metricTimestamp = bucketTs bucketSeconds row.metricTimestamp) := by
  obtain ⟨_, _, returned⟩ := Pca.bind_eq_ok returned
  obtain ⟨matched, selected, returned⟩ := Pca.bind_eq_ok returned
  split at returned
  next => cases returned
  next divides =>
    cases returned
    obtain ⟨bucket, known, rfl⟩ := List.mem_map.mp member
    rw [List.mem_insertionSort, List.mem_dedup] at known
    obtain ⟨row, inside, rfl⟩ := List.mem_map.mp known
    refine ⟨matched, selected, fun zero => ?_, row, inside, rfl, List.countP_eq_length_filter.symm⟩
    exact divides ⟨zero, List.ne_nil_of_mem inside⟩

theorem timeBound_of_parse {value : String} {t : Int} (parsed : text.parse value = some t) :
    timeBound text value = .ok (some t) := by
  have notEmpty : value ≠ "" := by
    rintro rfl
    rw [text.empty] at parsed
    cases parsed
  rw [timeBound, if_neg notEmpty, parsed]

theorem selectRows_bounded {start end_ : Int} (started : text.parse filters.startTime = some start)
    (ended : text.parse filters.endTime = some end_) : selectRows text rows runId filters =
      .ok (rows.filter fun row => filters.selects runId row && within (some start) (some end_) row.metricTimestamp) := by
  simp only [selectRows, timeBound_of_parse started, timeBound_of_parse ended]
  rfl

/-- What a search without an anchor finds in an interval of time. -/
theorem searchDatasetRecords_interval {startTime endTime : String} {start end_ : Int}
    (started : text.parse startTime = some start) (ended : text.parse endTime = some end_) :
    searchDatasetRecords text rows runId { filters := { filters with startTime, endTime } } =
      .ok (rows.countP fun row => filters.selects runId row && within (some start) (some end_) row.metricTimestamp) := by
  have chosen : selectRows text rows runId { filters with startTime, endTime } =
      .ok (rows.filter fun row => filters.selects runId row && within (some start) (some end_) row.metricTimestamp) :=
    selectRows_bounded started ended
  simp only [searchDatasetRecords, chosen]
  simp [timeBound, bind, Except.bind, pure, Except.pure, within, List.countP_eq_length_filter]

/-- The search for the records of a bucket agrees with the chart if and only if no
record lies at the upper bound of the bucket. -/
theorem drill_down_agrees_iff {endTime : String} {start : Int}
    (unbounded : filters.startTime = "" ∧ filters.endTime = "")
    (returned : getTimeSeries text aggregate rows runId metrics aggs bucketSeconds filters = .ok points)
    (member : point ∈ points)
    (printed : ∀ row ∈ rows, text.parse (text.print (bucketTs bucketSeconds row.metricTimestamp)) =
      some (bucketTs bucketSeconds row.metricTimestamp))
    (started : text.parse point.ts = some start)
    (ended : text.parse endTime = some (start + bucketSeconds * 1000000)) :
    searchDatasetRecords text rows runId { filters := { filters with startTime := point.ts, endTime } } =
        .ok point.count ↔
      0 < bucketSeconds ∧ ∀ row ∈ rows, filters.selects runId row = true →
        row.metricTimestamp ≠ start + bucketSeconds * 1000000 := by
  obtain ⟨matched, selected, nonzero, row, inside, shown, counted⟩ := point_of_getTimeSeries returned member
  rw [selectRows_unbounded unbounded] at selected
  cases selected
  have known : bucketTs bucketSeconds row.metricTimestamp = start := by
    have read := printed row (List.mem_filter.mp inside).1
    rw [← shown, started] at read
    exact (Option.some.inj read).symm
  rw [searchDatasetRecords_interval started ended, Except.ok.injEq, counted, known, List.countP_filter]
  rcases lt_trichotomy bucketSeconds 0 with negative | zero | positive
  · -- the interval of the search is empty, the bucket is not
    obtain ⟨stored, chosen⟩ := List.mem_filter.mp inside
    have some_ : 0 < rows.countP fun other => decide (bucketTs bucketSeconds other.metricTimestamp = start) &&
        filters.selects runId other :=
      List.countP_pos_iff.mpr ⟨row, stored, by simp [known, chosen]⟩
    rw [countP_reversed _ _ (by omega)]
    omega
  · exact absurd zero nonzero
  · rw [← known, countP_bucket _ _ positive, Nat.add_eq_left, List.countP_eq_zero]
    simp [positive]

end DrillDown

/-! ## Records every minute -/

/-- Times of whole seconds in the form that the server of the application writes. -/
def isoText : TimestampText where
  print t := Models.formatIsoTime (t / 1000000)
  parse value := (Models.parseIsoTime value).map fun seconds => seconds * 1000000
  empty := rfl

/-- A record of the dataset `d` at so many seconds after the start of 2026. -/
def recordAt (recordId seconds : Int) : ArchivedRow Int :=
  ⟨⟨recordId, "d", 10, 20, 30, 40, 50⟩, "host-A-0", "us-east1", (1767225600 + seconds) * 1000000, false, none⟩

/-- Two records in a bucket, and one at its upper bound. -/
def minutes : List (ArchivedRow Int) := [recordAt 1 0, recordAt 2 30, recordAt 3 60]

/-- Two records in a bucket. -/
def halfMinutes : List (ArchivedRow Int) := [recordAt 1 0, recordAt 2 30]

def firstMinute : TimePoint Int := ⟨"2026-01-01T00:00:00Z", [], 2⟩

theorem firstMinute_started : isoText.parse firstMinute.ts = some 1767225600000000 := by
  decide +kernel

theorem firstMinute_ended : isoText.parse "2026-01-01T00:01:00Z" = some (1767225600000000 + 60 * 1000000) := by
  decide +kernel

theorem drill_down_agrees_halfMinutes :
    searchDatasetRecords isoText halfMinutes "d" { filters :=
      { startTime := "2026-01-01T00:00:00Z", endTime := "2026-01-01T00:01:00Z" } } = .ok 2 := by
  have returned : getTimeSeries isoText (fun _ _ => 0) halfMinutes "d" [] [] 60 {} = .ok [firstMinute] := by
    decide +kernel
  have printed : ∀ row ∈ halfMinutes, isoText.parse (isoText.print (bucketTs 60 row.metricTimestamp)) =
      some (bucketTs 60 row.metricTimestamp) := by
    decide +kernel
  refine (drill_down_agrees_iff ⟨rfl, rfl⟩ returned (List.mem_singleton_self _) printed firstMinute_started
    firstMinute_ended).mpr ⟨by decide, ?_⟩
  decide +kernel

theorem record_at_upper_bound : ¬ ∀ (text : TimestampText) (aggregate : String → List Int → Int)
    (rows : List (ArchivedRow Int)) (runId : String) (metrics aggs : List String) (bucketSeconds : Int)
    (filters : Filters) (points : List (TimePoint Int)) (point : TimePoint Int) (endTime : String) (start : Int),
    filters.startTime = "" ∧ filters.endTime = "" →
    getTimeSeries text aggregate rows runId metrics aggs bucketSeconds filters = .ok points → point ∈ points →
    (∀ row ∈ rows, text.parse (text.print (bucketTs bucketSeconds row.metricTimestamp)) =
      some (bucketTs bucketSeconds row.metricTimestamp)) →
    text.parse point.ts = some start → text.parse endTime = some (start + bucketSeconds * 1000000) →
    searchDatasetRecords text rows runId { filters := { filters with startTime := point.ts, endTime } } =
      .ok point.count := by
  intro agrees
  have returned : getTimeSeries isoText (fun _ _ => 0) minutes "d" [] [] 60 {} =
      .ok [firstMinute, ⟨"2026-01-01T00:01:00Z", [], 1⟩] := by
    decide +kernel
  have printed : ∀ row ∈ minutes, isoText.parse (isoText.print (bucketTs 60 row.metricTimestamp)) =
      some (bucketTs 60 row.metricTimestamp) := by
    decide +kernel
  have found : searchDatasetRecords isoText minutes "d" { filters :=
      { startTime := "2026-01-01T00:00:00Z", endTime := "2026-01-01T00:01:00Z" } } = .ok 3 := by
    decide +kernel
  have same := agrees isoText (fun _ _ => 0) minutes "d" [] [] 60 {} _ firstMinute "2026-01-01T00:01:00Z"
    1767225600000000 ⟨rfl, rfl⟩ returned List.mem_cons_self printed firstMinute_started firstMinute_ended
  cases found.symm.trans same

end TelemetryLab.Analytics
