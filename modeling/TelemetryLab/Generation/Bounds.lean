import Mathlib
import TelemetryLab.Analytics.DatasetSummary
import TelemetryLab.Generation.Ticks

/-! What a generated dataset looks like to its readers: the detectors, the charts and
the summary.

The values of a record are bounded by the ranges of the random distributions and by
the clamps of `GenerateRecord`, in exact arithmetic, whatever state its host is in.
-/

set_option autoImplicit false
namespace TelemetryLab.Generation
open Models Analytics

/-- The ranges of the random distributions of `GenerateRecord`. -/
structure Draws.InRange (draws : Draws ℝ) : Prop where
  noise : -10 ≤ draws.noise ∧ draws.noise ≤ 10
  spike : 0 ≤ draws.spike ∧ draws.spike ≤ 10
  memNoise : -2.5 ≤ draws.memNoise ∧ draws.memNoise ≤ 2.5
  diskNoise : -5 ≤ draws.diskNoise ∧ draws.diskNoise ≤ 5
  netNode : 0 ≤ draws.netNode ∧ draws.netNode ≤ 10
  netJitter : 0 ≤ draws.netJitter ∧ draws.netJitter ≤ 5
  jitter : 0 ≤ draws.jitter ∧ draws.jitter ≤ 500

/-- The values that a metric takes. -/
def metricRange (metric : String) : Set ℝ :=
  if metric = "cpu_usage" ∨ metric = "memory_usage" then Set.Icc 0 100
  else if metric = "disk_utilization" then Set.Icc 25 35
  else if metric = "network_rx_rate" then Set.Icc 5 75
  else Set.Icc 1 25

@[simp] theorem metricRange_cpu : metricRange "cpu_usage" = Set.Icc 0 100 := if_pos (.inl rfl)

@[simp] theorem metricRange_memory : metricRange "memory_usage" = Set.Icc 0 100 := if_pos (.inr rfl)

@[simp] theorem metricRange_disk : metricRange "disk_utilization" = Set.Icc 25 35 :=
  (if_neg (by decide)).trans (if_pos rfl)

@[simp] theorem metricRange_received : metricRange "network_rx_rate" = Set.Icc 5 75 :=
  (if_neg (by decide)).trans ((if_neg (by decide)).trans (if_pos rfl))

@[simp] theorem metricRange_sent : metricRange "network_tx_rate" = Set.Icc 1 25 :=
  (if_neg (by decide)).trans ((if_neg (by decide)).trans (if_neg (by decide)))

/-- What the readers of a record may rely on. -/
structure TelemetryRecord.InBounds (lagMs : Int) (record : TelemetryRecord ℝ) : Prop where
  cpu : record.cpuUsage ∈ metricRange "cpu_usage"
  memory : record.memoryUsage ∈ metricRange "memory_usage"
  disk : record.diskUtilization ∈ metricRange "disk_utilization"
  received : record.networkRxRate ∈ metricRange "network_rx_rate"
  sent : record.networkTxRate ∈ metricRange "network_tx_rate"
  typed : record.isAnomaly = true ↔ record.anomalyType ≠ ""
  delay : lagMs * 1000000 ≤ record.ingestionTime - record.metricTimestamp ∧
    record.ingestionTime - record.metricTimestamp ≤ (lagMs + 500) * 1000000

/-! ## One record -/

section Record

variable {config : RecordConfig ℝ} {host : HostProfile ℝ} {timestamp : Int} {draws : Draws ℝ}

theorem max_real (a b : ℝ) : Arith.max a b = max a b := by
  rw [Arith.max]
  split
  next less => exact (max_eq_right less.le).symm
  next notLess => exact (max_eq_left (not_lt.mp notLess)).symm

theorem clampPercent_mem (x : ℝ) : clampPercent x ∈ Set.Icc (0 : ℝ) 100 := by
  rw [clampPercent, max_real, least]
  norm_num
  split <;> linarith

theorem daily_mem (host : HostProfile ℝ) (timestamp : Int) : -10 ≤ daily host timestamp ∧ daily host timestamp ≤ 10 := by
  have low := Real.neg_one_le_sin (2.0 * pi * hours timestamp / 24.0 + host.phaseShift)
  have high := Real.sin_le_one (2.0 * pi * hours timestamp / 24.0 + host.phaseShift)
  have value : daily host timestamp = 10.0 * Real.sin (2.0 * pi * hours timestamp / 24.0 + host.phaseShift) := rfl
  rw [value]
  constructor <;> linarith

/-- `fixed_lag_ms`, or two seconds. -/
def lagOf (config : RecordConfig ℝ) : Int := if config.fixedLagMs = 0 then 2000 else config.fixedLagMs

/-- The rate that is received before a correlation break adds to it. -/
theorem received_mem (host : HostProfile ℝ) (timestamp : Int) (inRange : draws.InRange) :
    Arith.max 0.0 (10.0 + daily host timestamp / 2.0 + draws.netNode) ∈ Set.Icc (5 : ℝ) 25 := by
  have wave := daily_mem host timestamp
  have node := inRange.netNode
  have low : 5 ≤ 10.0 + daily host timestamp / 2.0 + draws.netNode := by linarith
  rw [max_real, max_eq_right (by linarith)]
  constructor <;> linarith

theorem generateRecord_inBounds (config : RecordConfig ℝ) (host : HostProfile ℝ) (timestamp : Int)
    (inRange : draws.InRange) : (generateRecord config host timestamp draws).1.InBounds (lagOf config) := by
  have received := received_mem host timestamp inRange
  have typed := isAnomaly_iff config host timestamp draws
  have disk := inRange.diskNoise
  have jitter := inRange.netJitter
  have later := inRange.jitter
  simp only [generateRecord] at typed ⊢
  generalize Arith.max 0.0 (10.0 + daily host timestamp / 2.0 + draws.netNode) = rate at received ⊢
  constructor
  · rw [metricRange_cpu]
    exact clampPercent_mem _
  · rw [metricRange_memory]
    dsimp only
    split
    · exact clampPercent_mem _
    · exact clampPercent_mem _
  · rw [metricRange_disk]
    dsimp only
    constructor <;> linarith
  · rw [metricRange_received]
    dsimp only
    split
    · constructor <;> linarith [received.1, received.2]
    · constructor <;> linarith [received.1, received.2]
  · rw [metricRange_sent]
    dsimp only
    split
    · norm_num
    · constructor <;> linarith [received.1, received.2]
  · exact typed
  · dsimp only [lagOf]
    omega

end Record

/-! ## A run -/

section Run

variable {config : RunConfig ℝ}

/-- The records of the run so far come from `GenerateRecord`, each with draws of its own. -/
def Drawn (config : RunConfig ℝ) (record : TelemetryRecord ℝ) : Prop :=
  ∃ host t k, record = (generateRecord config.record host t (config.draws k)).1

theorem tick_drawn (t : Int) (hosts : List (HostProfile ℝ)) {b : Batches ℝ}
    (drawn : ∀ record ∈ b.records, Drawn config record) :
    ∀ record ∈ (config.tick t hosts b).2.records, Drawn config record := by
  induction hosts generalizing b with
  | nil => exact drawn
  | cons host rest ih =>
    apply ih
    intro record member
    rw [Batches.push_records, List.mem_append, List.mem_singleton] at member
    rcases member with old | rfl
    · exact drawn record old
    · exact ⟨host, t, b.records.length, rfl⟩

theorem ticksFrom_drawn (k : Nat) (t : Int) (hosts : List (HostProfile ℝ)) {b : Batches ℝ}
    (drawn : ∀ record ∈ b.records, Drawn config record) :
    ∀ record ∈ (config.ticksFrom k t hosts b).2.records, Drawn config record := by
  induction k generalizing t hosts b with
  | zero => exact drawn
  | succ k ih =>
    apply ih
    exact tick_drawn t hosts drawn

theorem run_drawn {fuel : Nat} {b : Batches ℝ} (finished : config.run fuel = some (.ok b)) :
    ∀ record ∈ b.records, Drawn config record := by
  unfold RunConfig.run at finished
  split at finished
  next start end_ _ _ =>
    obtain ⟨k, _, _, rfl⟩ := RunConfig.tickLoop_eq_ok.mp finished
    apply ticksFrom_drawn
    simp [Batches.empty]
  next => cases finished
  next => cases finished

/-- Every record of a run is in its bounds. -/
theorem run_inBounds {fuel : Nat} {b : Batches ℝ} (inRange : ∀ k, (config.draws k).InRange)
    (finished : config.run fuel = some (.ok b)) : ∀ record ∈ b.records, record.InBounds (lagOf config.record) := by
  intro record member
  obtain ⟨host, t, k, rfl⟩ := run_drawn finished record member
  exact generateRecord_inBounds config.record host t (inRange k)

end Run

/-! ## The readers -/

/-- How the database reads the texts of a row that `BatchInsertTelemetry` writes. -/
structure Columns where
  time : Int → Int
  labels : String → Option (Pca.Json ℝ)

/-- The row of a record, under the number that the database gives it. -/
def archive (columns : Columns) (recordId : Int) (record : TelemetryRecord ℝ) : IngestedRecord ℝ where
  recordId := recordId
  runId := record.runId
  cpuUsage := record.cpuUsage
  memoryUsage := record.memoryUsage
  diskUtilization := record.diskUtilization
  networkRxRate := record.networkRxRate
  networkTxRate := record.networkTxRate
  hostId := record.hostId
  region := record.region
  metricTimestamp := columns.time record.metricTimestamp
  isAnomaly := record.isAnomaly
  anomalyType := if record.anomalyType = "" then none else some record.anomalyType
  projectId := record.projectId
  labels := columns.labels record.labelsJson
  ingestionTime := columns.time record.ingestionTime

/-- The vector that the detectors read of a record. -/
def features (record : TelemetryRecord ℝ) : FeatureVector ℝ :=
  .fromRecord ⟨record.metricTimestamp, record.hostId, record.runId, record.cpuUsage, record.memoryUsage,
    record.diskUtilization, record.networkRxRate, record.networkTxRate⟩

section Readers

variable {lagMs : Int} {record : TelemetryRecord ℝ} {rows : List (IngestedRecord ℝ)} {runId : String}

theorem apply_of_nonneg {preprocessing : PreprocessingConfig} (plain : preprocessing.log1pNetwork = false)
    {vec : FeatureVector ℝ} (nonneg : ∀ x ∈ vec.data, 0 ≤ x) : preprocessing.apply vec = vec := by
  have kept : vec.data.map (fun x => if x < 0 then 0 else x) = vec.data := by
    apply Vector.ext
    intro i inside
    rw [Vector.getElem_map]
    exact if_neg (not_lt.mpr (nonneg _ (Vector.getElem_mem inside)))
  rw [PreprocessingConfig.apply, plain]
  exact congrArg FeatureVector.mk kept

/-- The preprocessing has nothing to clamp. -/
theorem apply_features (bounded : record.InBounds lagMs) {preprocessing : PreprocessingConfig}
    (plain : preprocessing.log1pNetwork = false) : preprocessing.apply (features record) = features record := by
  obtain ⟨cpu, memory, disk, received, sent, -, -⟩ := bounded
  simp only [metricRange_cpu, metricRange_memory, metricRange_disk, metricRange_received, metricRange_sent,
    Set.mem_Icc] at cpu memory disk received sent
  apply apply_of_nonneg plain
  intro x member
  have listed : x ∈ [record.cpuUsage, record.memoryUsage, record.diskUtilization, record.networkRxRate,
      record.networkTxRate] := Vector.mem_toList_iff.mpr member
  simp only [List.mem_cons, List.not_mem_nil, or_false] at listed
  rcases listed with rfl | rfl | rfl | rfl | rfl <;> linarith

theorem column_archive (bounded : record.InBounds lagMs) (columns : Columns) (recordId : Int) (metric : String)
    (valid : metric ∈ allowedMetrics) : (archive columns recordId record).column metric ∈ metricRange metric := by
  simp only [allowedMetrics, List.mem_cons, List.not_mem_nil, or_false] at valid
  rcases valid with rfl | rfl | rfl | rfl | rfl
  · exact bounded.cpu
  · exact bounded.memory
  · exact bounded.disk
  · exact bounded.received
  · exact bounded.sent

theorem metricRange_ordConnected (metric : String) : (metricRange metric).OrdConnected := by
  unfold metricRange
  split_ifs <;> exact Set.ordConnected_Icc

/-- A percentile, a mean or an extreme of values in a range stays in it. -/
theorem aggregateOf_mem {agg : String} {values : List ℝ} (some_ : values ≠ []) (valid : agg ∈ allowedAggs)
    {range : Set ℝ} (convex : range.OrdConnected) (inside : ∀ x ∈ values, x ∈ range) : aggregateOf agg values ∈ range := by
  have between := aggregateOf_mem_Icc some_ valid
  have low := (Aggregates.foremost_le_iff.mpr (min?_eq_aggregateOf some_)).1
  have high := (Aggregates.foremost_ge_iff.mpr (max?_eq_aggregateOf some_)).1
  exact convex.out (inside _ low) (inside _ high) between

theorem mem_of_selectRows {text : TimestampText} {stored matched : List (ArchivedRow ℝ)} {filters : Filters}
    (selected : selectRows text stored runId filters = .ok matched) :
    ∀ row ∈ matched, row ∈ stored ∧ row.runId = runId := by
  obtain ⟨lower, _, selected⟩ := Pca.bind_eq_ok selected
  obtain ⟨upper, _, selected⟩ := Pca.bind_eq_ok selected
  cases selected
  intro row member
  obtain ⟨known, chosen⟩ := List.mem_filter.mp member
  have selects := (Bool.and_eq_true_iff.mp chosen).1
  simp only [Filters.selects, Bool.and_eq_true, decide_eq_true_eq] at selects
  exact ⟨known, selects.1.1.1⟩

/-- The rows of the dataset are those of the records. -/
def Holds (columns : Columns) (rows : List (IngestedRecord ℝ)) (runId : String) (records : List (TelemetryRecord ℝ)) :
    Prop :=
  ∀ row ∈ rows, row.runId = runId → ∃ record ∈ records, ∃ recordId, row = archive columns recordId record

variable {columns : Columns} {records : List (TelemetryRecord ℝ)}

/-- No point of a chart leaves the range of its metric. -/
theorem chart_in_range (bounded : ∀ record ∈ records, record.InBounds lagMs) (holds : Holds columns rows runId records)
    {text : TimestampText} {metrics aggs : List String} {bucketSeconds : Int} {filters : Filters}
    {points : List (TimePoint ℝ)} (returned : getTimeSeries text readAggregate (rows.map fun row => row.toArchivedRow)
      runId metrics aggs bucketSeconds filters = .ok points) {point : TimePoint ℝ} (member : point ∈ points)
    {metric agg : String} (charted : metric ∈ metrics) (asked : agg ∈ aggs) :
    point.value metric agg ∈ metricRange metric := by
  obtain ⟨checked, matched, selected, rfl⟩ := getTimeSeries_eq_ok returned
  obtain ⟨bucket, known, rfl⟩ := List.mem_map.mp member
  have valid := checkNames_valid checked
  rw [timePointOf_value checked charted asked known]
  apply aggregateOf_mem _ (valid.2 agg asked) (metricRange_ordConnected metric)
  · intro x inside
    obtain ⟨row, grouped, rfl⟩ := List.mem_map.mp inside
    obtain ⟨stored, own⟩ := mem_of_selectRows selected row (Aggregates.mem_group.mp grouped).1
    obtain ⟨full, inTable, rfl⟩ := List.mem_map.mp stored
    obtain ⟨record, generated, recordId, rfl⟩ := holds full inTable own
    exact column_archive (bounded record generated) columns recordId metric (valid.1 metric charted)
  · simpa using bucketRows_ne_nil known

/-- The types of a summary account for every anomaly. -/
theorem summary_complete (bounded : ∀ record ∈ records, record.InBounds lagMs)
    (holds : Holds columns rows runId records) {text : TimestampText} {zone topk : Int} {out : DatasetSummary ℝ}
    (answered : SummaryRun text zone rows runId topk out) :
    ((out.anomalyTypeCounts.map TopKItem.count).sum : ℝ) = out.rowCount * out.anomalyRate := by
  obtain ⟨ordered, order, rfl⟩ := answered
  have consistent : (summaryOf text zone _ topk ordered).Consistent _ topk := summaryOf_consistent order
  rw [consistent.anomalies, consistent.types, Nat.cast_inj]
  apply List.countP_congr
  intro row member
  obtain ⟨inTable, own⟩ := List.mem_filter.mp member
  obtain ⟨record, generated, recordId, rfl⟩ := holds row inTable (of_decide_eq_true own)
  have typed := (bounded record generated).typed
  simp only [archive]
  by_cases empty : record.anomalyType = ""
  · simpa [empty] using typed
  · simp [empty]

end Readers

/-- Every record of a finished run is in its bounds, and so a generated dataset is to all of its readers: the preprocessing
leaves its vectors alone, its charts stay in range, and its summary knows the type of each anomaly. -/
theorem generated_dataset_in_bounds {config : RunConfig ℝ} {fuel : Nat} {b : Batches ℝ}
    (inRange : ∀ k, (config.draws k).InRange) (finished : config.run fuel = some (.ok b)) :
    (∀ record ∈ b.records, record.InBounds (lagOf config.record) ∧
      ∀ preprocessing : PreprocessingConfig, preprocessing.log1pNetwork = false →
        preprocessing.apply (features record) = features record) ∧
    ∀ (columns : Columns) (rows : List (IngestedRecord ℝ)), Holds columns rows config.record.runId b.records →
      (∀ text metrics aggs bucketSeconds filters points, getTimeSeries text readAggregate
          (rows.map fun row => row.toArchivedRow) config.record.runId metrics aggs bucketSeconds filters = .ok points →
        ∀ point ∈ points, ∀ metric ∈ metrics, ∀ agg ∈ aggs, point.value metric agg ∈ metricRange metric) ∧
      ∀ text zone topk out, SummaryRun text zone rows config.record.runId topk out →
        ((out.anomalyTypeCounts.map TopKItem.count).sum : ℝ) = out.rowCount * out.anomalyRate := by
  have bounded := run_inBounds inRange finished
  constructor
  · intro record member
    exact ⟨bounded record member, fun _ plain => apply_features (bounded record member) plain⟩
  · intro columns rows holds
    constructor
    · intro text metrics aggs bucketSeconds filters points returned point member metric charted agg asked
      exact chart_in_range bounded holds returned member charted asked
    · intro text zone topk out answered
      exact summary_complete bounded holds answered

/-- Two hosts for an hour, of which one starts a burst. -/
noncomputable def busyHour : RunConfig ℝ :=
  { hourly 1200 with hostCount := 2, draws := fun k => drawn (if k = 1 then 0 else 1) }

theorem generated_dataset_in_bounds_hour : ∃ b, busyHour.run 4 = some (.ok b) ∧ b.records.length = 6 ∧
    ∀ record ∈ b.records, record.InBounds (lagOf busyHour.record) := by
  have inRange : ∀ k, (busyHour.draws k).InRange := by
    intro k
    constructor <;> norm_num [busyHour, drawn]
  have start : Representable (busyHour.request.startTime * 1000000000) := by decide +kernel
  have end_ : Representable (busyHour.request.endTime * 1000000000) := by decide +kernel
  have stops : busyHour.Stops (busyHour.request.endTime * 1000000000) (busyHour.request.startTime * 1000000000) 3 := by
    refine ⟨?_, by decide +kernel⟩
    have early : ∀ j < 3, busyHour.request.startTime * 1000000000 + (j : Nat) * busyHour.stride <
          busyHour.request.endTime * 1000000000 ∧
        Representable (busyHour.request.startTime * 1000000000 + (j + 1 : Nat) * busyHour.stride) := by decide +kernel
    exact early
  have finished := RunConfig.run_eq_ok.mpr ⟨start, end_, RunConfig.tickLoop_eq_ok.mpr ⟨3, Nat.lt_succ_self 3, stops, rfl⟩⟩
  have counted := congrArg List.length
    (RunConfig.ticksFrom_keys busyHour 3 (busyHour.request.startTime * 1000000000) busyHour.initializeHosts .empty)
  rw [List.length_map, RunConfig.hostIds_initializeHosts] at counted
  refine ⟨_, finished, counted.trans ?_,
    fun record member => ((generated_dataset_in_bounds inRange finished).1 record member).1⟩
  simp [Batches.empty, List.length_flatMap, RunConfig.request, busyHour]

end TelemetryLab.Generation
