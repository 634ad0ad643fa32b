import Mathlib
import TelemetryLab.Analytics.ChartBuckets
import TelemetryLab.Analytics.TopK

/-! The summary of a dataset: `GetDatasetSummary` in `db_client.cpp`.

Types of the same frequency may come in any order, so a run has the order of the
types as an outcome of its own. Rates and percentiles are in exact arithmetic.
-/

set_option autoImplicit false
namespace TelemetryLab.Analytics
open Aggregates OffsetPaging

/-- A row of `host_telemetry_archival` with the time at which it was written. -/
structure IngestedRecord (R : Type) extends StoredRecord R where
  ingestionTime : Int

structure TrendPoint (V : Type) where
  ts : String
  anomalyRate : V
  total : Nat

structure DatasetSummary (V : Type) where
  rowCount : Nat
  minTs : String
  maxTs : String
  anomalyRate : V
  anomalyTypeCounts : List TopKItem
  distinctHosts : Nat
  distinctProjects : Nat
  distinctRegions : Nat
  ingestionLatencyP50 : V
  ingestionLatencyP95 : V
  anomalyRateTrend : List (TrendPoint V)

/-! ## Types -/

/-- The loop over the types, which adds up those behind the first `topk` ones. -/
def countTypes (topk : Int) : List (Option String × Nat) → Int → List TopKItem → Nat → List TopKItem × Nat
  | [], _, typeCounts, other => (typeCounts, other)
  | row :: rest, idx, typeCounts, other =>
    if idx < topk then countTypes topk rest (idx + 1) (typeCounts ++ [topKItem row]) other
    else countTypes topk rest (idx + 1) typeCounts (other + row.2)

def anomalyTypeCounts (topk : Int) (ordered : List (Option String × Nat)) : List TopKItem :=
  let counted := countTypes topk ordered 0 [] 0
  if counted.2 > 0 then counted.1 ++ [⟨"other", counted.2⟩] else counted.1

section Types

variable {R : Type}

/-- `anomaly_type` where `is_anomaly = true AND anomaly_type IS NOT NULL` -/
def anomalyTypes (matched : List (IngestedRecord R)) : List (Option String) :=
  (matched.filter fun row => row.isAnomaly && row.anomalyType.isSome).map fun row => row.anomalyType

theorem length_anomalyTypes (matched : List (IngestedRecord R)) :
    (anomalyTypes matched).length = matched.countP fun row => row.isAnomaly && row.anomalyType.isSome := by
  rw [anomalyTypes, List.length_map, List.countP_eq_length_filter]

end Types

/-! ## Trend -/

/-- `date_trunc('hour', t)` in a session whose time zone is so many seconds ahead. -/
def truncHour (zone t : Int) : Int := bucketTs 3600 (t + zone * 1000000) - zone * 1000000

section Definitions

variable {V : Type} [Field V]

def rateOf (hits total : Nat) : V := if total > 0 then (hits : V) / (total : V) else 0

/-- The rows of the last 24 hours before the newest one. -/
def recentRows (matched : List (IngestedRecord V)) : List (IngestedRecord V) :=
  match (matched.map fun row => row.metricTimestamp).max? with
  | none => []
  | some newest => matched.filter fun row => decide (newest - 24 * 3600 * 1000000 ≤ row.metricTimestamp)

def trendPoint (text : TimestampText) (zone : Int) (recent : List (IngestedRecord V)) (hour : Int) : TrendPoint V :=
  let rows := group (fun row => truncHour zone row.metricTimestamp) recent hour
  { ts := text.print hour
    anomalyRate := rateOf (rows.countP fun row => row.isAnomaly) rows.length
    total := rows.length }

/-- The hours of the rows, in their order. -/
def hours (zone : Int) (recent : List (IngestedRecord V)) : List Int :=
  ((recent.map fun row => truncHour zone row.metricTimestamp).dedup).insertionSort fun a b => a ≤ b

/-- `EXTRACT(EPOCH FROM (ingestion_time - metric_timestamp))` -/
def latencies (matched : List (IngestedRecord V)) : List V :=
  matched.map fun row => ((row.ingestionTime - row.metricTimestamp : Int) : V) / 1000000

variable [LinearOrder V] [FloorSemiring V]

def summaryOf (text : TimestampText) (zone : Int) (matched : List (IngestedRecord V)) (topk : Int)
    (ordered : List (Option String × Nat)) : DatasetSummary V :=
  let times := matched.map fun row => row.metricTimestamp
  let recent := recentRows matched
  { rowCount := matched.length
    minTs := (times.min?.map text.print).getD ""
    maxTs := (times.max?.map text.print).getD ""
    anomalyRate := rateOf (matched.countP fun row => row.isAnomaly) matched.length
    anomalyTypeCounts := anomalyTypeCounts topk ordered
    distinctHosts := countDistinct (columnValues .hostId (matched.map fun row => row.toStoredRecord))
    distinctProjects := countDistinct (columnValues .projectId (matched.map fun row => row.toStoredRecord))
    distinctRegions := countDistinct (columnValues .region (matched.map fun row => row.toStoredRecord))
    ingestionLatencyP50 := readAggregate "p50" (latencies matched)
    ingestionLatencyP95 := readAggregate "p95" (latencies matched)
    anomalyRateTrend := (hours zone recent).map (trendPoint text zone recent) }

/-- The results of `GetDatasetSummary`. -/
def SummaryRun (text : TimestampText) (zone : Int) (rows : List (IngestedRecord V)) (runId : String) (topk : Int)
    (out : DatasetSummary V) : Prop :=
  let matched := rows.filter fun row => decide (row.runId = runId)
  ∃ ordered, Arranged groupKey (valueCounts (anomalyTypes matched)) ordered ∧
    out = summaryOf text zone matched topk ordered

end Definitions

/-! ## Counts of the types -/

section Counts

variable {R : Type} {topk : Int} {values : List (Option String)} {ordered : List (Option String × Nat)}

theorem countTypes_eq (topk : Int) (ordered : List (Option String × Nat)) (idx : Int) (typeCounts : List TopKItem)
    (other : Nat) : countTypes topk ordered idx typeCounts other =
      (typeCounts ++ (ordered.take (topk - idx).toNat).map topKItem,
        other + ((ordered.drop (topk - idx).toNat).map Prod.snd).sum) := by
  induction ordered generalizing idx typeCounts other with
  | nil => simp [countTypes]
  | cons row rest ih =>
    rw [countTypes]
    by_cases shown : idx < topk
    · obtain ⟨more, same⟩ : ∃ more, (topk - idx).toNat = more + 1 := ⟨(topk - idx).toNat - 1, by omega⟩
      have later : (topk - (idx + 1)).toNat = more := by omega
      rw [if_pos shown, ih, same, later, List.take_succ_cons, List.drop_succ_cons, List.map_cons, List.append_assoc,
        List.singleton_append]
    · have none_ : (topk - idx).toNat = 0 := by omega
      have later : (topk - (idx + 1)).toNat = 0 := by omega
      rw [if_neg shown, ih, none_, later]
      simp [Nat.add_assoc]

theorem countTypes_split (topk : Int) (ordered : List (Option String × Nat)) : countTypes topk ordered 0 [] 0 =
    ((ordered.take topk.toNat).map topKItem, ((ordered.drop topk.toNat).map Prod.snd).sum) := by
  rw [countTypes_eq, sub_zero, List.nil_append, Nat.zero_add]

theorem sum_topKItem (groups : List (Option String × Nat)) :
    ((groups.map topKItem).map TopKItem.count).sum = (groups.map Prod.snd).sum := by
  rw [List.map_map]
  rfl

theorem sum_valueCounts (values : List (Option String)) : ((valueCounts values).map Prod.snd).sum = values.length := by
  have sizes : (valueCounts values).map Prod.snd = values.dedup.map fun value => (group id values value).length := by
    rw [valueCounts, List.map_map]
    apply List.map_congr_left
    intro value _
    have same : ∀ other ∈ values, (other == value) = decide (id other = value) := by
      intro other _
      rw [Bool.eq_iff_iff, beq_iff_eq, decide_eq_true_eq, id]
    simp only [Function.comp_apply, List.count_eq_length_filter, group, List.filter_congr same]
  rw [sizes]
  exact sum_length_group (List.nodup_dedup values) fun value member => List.mem_dedup.mpr member

/-- No anomaly is lost between the types that are listed and the others. -/
theorem sum_anomalyTypeCounts (topk : Int) (order : Arranged groupKey (valueCounts values) ordered) :
    ((anomalyTypeCounts topk ordered).map TopKItem.count).sum = values.length := by
  have whole : ((ordered.take topk.toNat).map Prod.snd).sum + ((ordered.drop topk.toNat).map Prod.snd).sum =
      values.length := by
    rw [← List.sum_append, ← List.map_append, List.take_append_drop, (order.perm.map Prod.snd).sum_eq,
      sum_valueCounts]
  rw [anomalyTypeCounts, countTypes_split]
  split
  next => rwa [List.map_append, List.sum_append, sum_topKItem, List.map_singleton, List.sum_singleton]
  next noOther =>
    rw [sum_topKItem]
    omega

theorem length_anomalyTypeCounts (topk : Int) (ordered : List (Option String × Nat)) :
    (anomalyTypeCounts topk ordered).length ≤ topk.toNat + 1 := by
  rw [anomalyTypeCounts, countTypes_split]
  split
  next => simp
  next =>
    rw [List.length_map, List.length_take]
    omega

/-- The entries before the last one are the first types of the order. -/
theorem take_anomalyTypeCounts (topk : Int) (ordered : List (Option String × Nat)) :
    (anomalyTypeCounts topk ordered).take topk.toNat = (ordered.take topk.toNat).map topKItem := by
  rw [anomalyTypeCounts, countTypes_split]
  split
  next counted =>
    have full : topk.toNat ≤ ordered.length := by
      by_contra short
      rw [List.drop_eq_nil_of_le (by omega)] at counted
      exact absurd counted (by simp)
    rw [List.take_append_of_le_length]
    · rw [List.take_of_length_le]
      rw [List.length_map, List.length_take]
      omega
    · rw [List.length_map, List.length_take]
      omega
  next =>
    rw [List.take_of_length_le]
    rw [List.length_map, List.length_take]
    omega

/-- A type that is not listed is not more frequent than one that is. -/
theorem listed_most_frequent (order : Arranged groupKey (valueCounts values) ordered) {item : TopKItem}
    (listed : item ∈ (anomalyTypeCounts topk ordered).take topk.toNat) {label : String} (known : some label ∈ values)
    (unlisted : ∀ other ∈ (anomalyTypeCounts topk ordered).take topk.toNat, other.label ≠ label) :
    values.count (some label) ≤ item.count := by
  rw [take_anomalyTypeCounts] at listed unlisted
  obtain ⟨first, early, rfl⟩ := List.mem_map.mp listed
  have grouped : (some label, values.count (some label)) ∈ ordered :=
    order.perm.mem_iff.mpr (mem_valueCounts.mpr ⟨known, rfl⟩)
  rw [← List.take_append_drop topk.toNat ordered, List.mem_append] at grouped
  have late := grouped.resolve_left fun inside => unlisted _ (List.mem_map_of_mem inside) rfl
  have sorted := order.sorted
  rw [← List.take_append_drop topk.toNat ordered, List.pairwise_append] at sorted
  have falling := sorted.2.2 first early _ late
  simp only [groupKey] at falling
  simp only [topKItem]
  omega

end Counts

/-! ## Rates -/

section Rates

variable {V : Type} [Field V] {zone : Int} {recent matched : List (IngestedRecord V)}

theorem mul_rateOf [CharZero V] {hits total : Nat} (part : hits ≤ total) : (total : V) * rateOf hits total = hits := by
  rw [rateOf]
  split
  next some_ => exact mul_div_cancel₀ _ (Nat.cast_ne_zero.mpr some_.ne')
  next none_ =>
    obtain rfl : hits = 0 := by omega
    rw [mul_zero, Nat.cast_zero]

theorem rateOf_mem_Icc [LinearOrder V] [IsStrictOrderedRing V] {hits total : Nat} (part : hits ≤ total) :
    0 ≤ (rateOf hits total : V) ∧ (rateOf hits total : V) ≤ 1 := by
  rw [rateOf]
  split
  next some_ =>
    constructor
    · positivity
    · exact div_le_one_of_le₀ (by exact_mod_cast part) (Nat.cast_nonneg total)
  next => exact ⟨le_rfl, zero_le_one⟩

omit [Field V] in
theorem mem_hours {hour : Int} : hour ∈ hours zone recent ↔ ∃ row ∈ recent, truncHour zone row.metricTimestamp = hour := by
  rw [hours, List.mem_insertionSort, List.mem_dedup, List.mem_map]

omit [Field V] in
theorem hours_nodup (zone : Int) (recent : List (IngestedRecord V)) : (hours zone recent).Nodup :=
  (List.perm_insertionSort _ _).nodup_iff.mpr (List.nodup_dedup _)

omit [Field V] in
theorem hours_cover (zone : Int) (recent : List (IngestedRecord V)) :
    ∀ row ∈ recent, truncHour zone row.metricTimestamp ∈ hours zone recent :=
  fun row member => mem_hours.mpr ⟨row, member, rfl⟩

omit [Field V] in
/-- The rows of 24 hours fall into 25 hours of the clock. -/
theorem length_hours_le (zone : Int) (matched : List (IngestedRecord V)) :
    (hours zone (recentRows matched)).length ≤ 25 := by
  rw [recentRows]
  split
  next => exact Nat.zero_le _
  next newest found =>
    have latest := (List.max?_eq_some_iff.mp found).2
    have counted : (hours zone (matched.filter fun row => decide (newest - 24 * 3600 * 1000000 ≤ row.metricTimestamp))).length ≤
        ((newest + zone * 1000000) / (3600 * 1000000) -
          (newest - 24 * 3600 * 1000000 + zone * 1000000) / (3600 * 1000000) + 1).toNat := by
      apply length_keys_le (hours_nodup zone _)
      intro hour known
      obtain ⟨row, member, rfl⟩ := mem_hours.mp known
      obtain ⟨stored, recent⟩ := List.mem_filter.mp member
      have late := of_decide_eq_true recent
      have early := latest _ (List.mem_map_of_mem (f := fun row : IngestedRecord V => row.metricTimestamp) stored)
      refine ⟨(row.metricTimestamp + zone * 1000000) / (3600 * 1000000), ?_, ?_, ?_⟩
      · rw [truncHour, bucketTs, Int.fdiv_eq_ediv_of_nonneg _ (by decide)]
        exact sub_eq_add_neg _ _
      · exact Int.ediv_le_ediv (by decide) (by omega)
      · exact Int.ediv_le_ediv (by decide) (by omega)
    omega

end Rates

section Consistency

variable {V : Type} [Field V] [LinearOrder V] [FloorSemiring V] {text : TimestampText} {zone topk : Int}
  {rows matched : List (IngestedRecord V)} {runId : String} {out : DatasetSummary V}
  {ordered : List (Option String × Nat)}

/-- What the parts of a summary say of the rows, and of each other. -/
structure DatasetSummary.Consistent (out : DatasetSummary V) (matched : List (IngestedRecord V)) (topk : Int) : Prop where
  rate : 0 ≤ out.anomalyRate ∧ out.anomalyRate ≤ 1
  anomalies : (out.rowCount : V) * out.anomalyRate = (matched.countP fun row => row.isAnomaly : ℕ)
  types : (out.anomalyTypeCounts.map TopKItem.count).sum =
    matched.countP fun row => row.isAnomaly && row.anomalyType.isSome
  few : out.anomalyTypeCounts.length ≤ topk.toNat + 1
  frequent : ∀ item ∈ out.anomalyTypeCounts.take topk.toNat, ∀ label, some label ∈ anomalyTypes matched →
    (∀ other ∈ out.anomalyTypeCounts.take topk.toNat, other.label ≠ label) →
    (anomalyTypes matched).count (some label) ≤ item.count
  latency : out.ingestionLatencyP50 ≤ out.ingestionLatencyP95
  day : out.anomalyRateTrend.length ≤ 25
  totals : (out.anomalyRateTrend.map TrendPoint.total).sum = (recentRows matched).length
  rates : ∀ point ∈ out.anomalyRateTrend, 0 < point.total ∧ 0 ≤ point.anomalyRate ∧ point.anomalyRate ≤ 1
  recent : (out.anomalyRateTrend.map fun point => (point.total : V) * point.anomalyRate).sum =
    ((recentRows matched).countP fun row => row.isAnomaly : ℕ)

theorem readAggregate_percentiles [IsStrictOrderedRing V] (values : List V) :
    readAggregate "p50" values ≤ readAggregate "p95" values := by
  by_cases empty : values = []
  · rw [readAggregate, readAggregate, if_pos empty, if_pos empty]
  · rw [readAggregate_of_ne_nil "p50" empty, readAggregate_of_ne_nil "p95" empty, aggregateOf_p50, aggregateOf_p95]
    exact percentileCont_mono empty (by norm_num) (by norm_num) (by norm_num)

theorem summaryOf_consistent [IsStrictOrderedRing V]
    (order : Arranged groupKey (valueCounts (anomalyTypes matched)) ordered) :
    (summaryOf text zone matched topk ordered).Consistent matched topk := by
  have distinct := hours_nodup zone (recentRows matched)
  have cover := hours_cover zone (recentRows matched)
  constructor
  · exact rateOf_mem_Icc List.countP_le_length
  · exact mul_rateOf List.countP_le_length
  · rw [← length_anomalyTypes]
    exact sum_anomalyTypeCounts topk order
  · exact length_anomalyTypeCounts topk ordered
  · intro item listed label known unlisted
    exact listed_most_frequent order listed known unlisted
  · exact readAggregate_percentiles (latencies matched)
  · rw [summaryOf, List.length_map]
    exact length_hours_le zone matched
  · rw [summaryOf, List.map_map]
    exact sum_length_group distinct cover
  · intro point member
    obtain ⟨hour, known, rfl⟩ := List.mem_map.mp member
    obtain ⟨row, inside, same⟩ := mem_hours.mp known
    refine ⟨?_, rateOf_mem_Icc List.countP_le_length⟩
    exact List.length_pos_of_mem (mem_group.mpr ⟨inside, same⟩)
  · have weighed : ((hours zone (recentRows matched)).map (trendPoint text zone (recentRows matched))).map
          (fun point => (point.total : V) * point.anomalyRate) =
        ((hours zone (recentRows matched)).map fun hour =>
          (group (fun row => truncHour zone row.metricTimestamp) (recentRows matched) hour).countP
            fun row => row.isAnomaly).map (Nat.cast : ℕ → V) := by
      rw [List.map_map, List.map_map]
      apply List.map_congr_left
      intro hour _
      exact mul_rateOf List.countP_le_length
    rw [summaryOf, weighed, ← Nat.cast_list_sum, sum_countP_group _ distinct cover]

/-- Whatever order the types come in, the summary of a dataset is consistent. -/
theorem summary_consistent [IsStrictOrderedRing V] (answered : SummaryRun text zone rows runId topk out) :
    out.Consistent (rows.filter fun row => decide (row.runId = runId)) topk := by
  obtain ⟨ordered, order, rfl⟩ := answered
  exact summaryOf_consistent order

end Consistency

/-- An anomaly of the dataset `d`, at so many seconds after the start of 2026, that was written after two seconds. -/
def anomalyAt (recordId seconds : Int) (anomalyType : Option String) : IngestedRecord ℚ :=
  { cpuAt recordId seconds 95 with
    isAnomaly := true, anomalyType, projectId := "p", labels := none
    ingestionTime := (1767225602 + seconds) * 1000000 }

theorem summary_consistent_spikes : ∃ out : DatasetSummary ℚ,
    SummaryRun isoText 0 [anomalyAt 1 0 (some "POINT_SPIKE"), anomalyAt 2 3700 none, anomalyAt 3 30 (some "COLLECTIVE_BURST")]
      "d" 1 out ∧ (out.anomalyTypeCounts.map TopKItem.count).sum = 2 := by
  have answered : SummaryRun isoText 0
      [anomalyAt 1 0 (some "POINT_SPIKE"), anomalyAt 2 3700 none, anomalyAt 3 30 (some "COLLECTIVE_BURST")] "d" 1 _ :=
    ⟨_, arranged_insertionSort groupKey _, rfl⟩
  exact ⟨_, answered, (summary_consistent answered).types⟩

end TelemetryLab.Analytics
