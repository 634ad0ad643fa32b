import Mathlib
import TelemetryLab.Analytics.DatasetSummary
import TelemetryLab.Analytics.EvalMetrics
import TelemetryLab.Analytics.ScorePaging

/-! The errors of a model, grouped by a column of the records: `GetErrorDistribution`
in `db_client.cpp` and `HandleModelErrorDistribution`.

The evaluation and the pages of the scores count the same rows. Groups of the same
size may come in any order; averages and percentiles are in exact arithmetic. Both
ids of a score are UUIDs, and a text of the request that is none is an error of the
query.
-/

set_option autoImplicit false
namespace TelemetryLab.Analytics
open Aggregates OffsetPaging
open Server (Raised ErrorAnswer sendError)

variable {R : Type}

/-- The names that `IsValidDimension` knows, with the columns of the joined rows that they select. -/
def kAllowedDimensions : List (String × Dimension) :=
  [("region", .region), ("project_id", .projectId), ("host_id", .hostId), ("anomaly_type", .anomalyType),
    ("h.region", .region), ("h.project_id", .projectId), ("h.host_id", .hostId), ("h.anomaly_type", .anomalyType)]

/-- The texts that the database reads as a UUID, each with the text that it prints for it.
The ids of the tables are in the printed form. -/
structure UuidText where
  read : String → Option String
  printed : ∀ text id, read text = some id → read id = some id

/-- An id of the request as the query compares it. -/
def uuidOf (uuids : UuidText) (text : String) : Except Raised String :=
  match uuids.read text with
  | some id => .ok id
  | none => .error (.sqlError ("invalid input syntax for type uuid: \"" ++ text ++ "\""))

structure ErrorGroup where
  label : String
  count : Nat
  mean : ℚ
  p50 : ℚ
  p95 : ℚ

/-- The rows of the query, a score beside its record. -/
def modelRows (records : RecordTable R) (scores : ScoreTable) (datasetId modelRunId : String) :
    List (StoredScore × StoredRecord R) :=
  joinRecords records (scores.rows.filter (ScoreFilter.ofModel { datasetId, modelRunId }))

def groupErrors (column : Dimension) (joined : List (StoredScore × StoredRecord R)) (value : Option String) : List ℚ :=
  (group (fun row => row.2.dimension column) joined value).map fun row => row.1.reconstructionError

def errorGroup (column : Dimension) (joined : List (StoredScore × StoredRecord R)) (value : Option String) :
    ErrorGroup :=
  let errors := groupErrors column joined value
  { label := value.getD ""
    count := errors.length
    mean := readAggregate "mean" errors
    p50 := readAggregate "p50" errors
    p95 := readAggregate "p95" errors }

/-- The values of the column, each once. -/
def groupValues (column : Dimension) (joined : List (StoredScore × StoredRecord R)) : List (Option String) :=
  (joined.map fun row => row.2.dimension column).dedup

/-- The results of `GetErrorDistribution`. -/
def ErrorDistributionRun (uuids : UuidText) (records : RecordTable R) (scores : ScoreTable)
    (datasetId modelRunId groupBy : String) (out : Except Raised (List ErrorGroup)) : Prop :=
  match kAllowedDimensions.lookup groupBy with
  | none => out = .error (.thrown (.invalidArgument ("Invalid group_by: " ++ groupBy)))
  | some column =>
    match uuidOf uuids datasetId, uuidOf uuids modelRunId with
    | .ok dataset, .ok model =>
      let joined := modelRows records scores dataset model
      ∃ ordered, Arranged (fun item : ErrorGroup => -(item.count : Int))
        ((groupValues column joined).map (errorGroup column joined)) ordered ∧ out = .ok ordered
    | .error raised, _ | _, .error raised => out = .error raised

/-- The columns that the handler allows, by the names it passes on. -/
def allowedGroupBy : List (String × String) :=
  [("anomaly_type", "h.anomaly_type"), ("region", "h.region"), ("project_id", "h.project_id")]

/-- The results of `HandleModelErrorDistribution`; the times of its answer are left out. -/
def HandleErrorDistributionRun (uuids : UuidText) (records : RecordTable R) (scores : ScoreTable)
    (datasetId modelRunId groupBy : String) (out : Except ErrorAnswer (List ErrorGroup)) : Prop :=
  if datasetId = "" ∨ groupBy = "" then
    out = .error (sendError "dataset_id and group_by required" 400 "E_HTTP_BAD_REQUEST")
  else
    match allowedGroupBy.lookup groupBy with
    | none => out = .error (sendError "Invalid group_by" 400 "E_HTTP_INVALID_ARGUMENT")
    | some name => ∃ dist, ErrorDistributionRun uuids records scores datasetId modelRunId name dist ∧
        match dist with
        | .ok items => out = .ok items
        | .error (.thrown (.invalidArgument what)) => out = .error (sendError what 400 "E_HTTP_INVALID_ARGUMENT")
        | .error raised => out = .error (sendError raised.what 500 "E_DB_QUERY_FAILED")

/-- The rows that `GetEvalMetrics` reads, with a double as a number of `V`. -/
def evalRows {V : Type} (double : ℚ → V) (records : RecordTable R) (scores : ScoreTable)
    (datasetId modelRunId : String) : List (EvalRow V) :=
  (modelRows records scores datasetId modelRunId).map fun row =>
    ⟨double row.1.reconstructionError, row.1.predictedIsAnomaly, row.2.isAnomaly⟩

/-! ## Groups -/

section Groups

variable {column : Dimension} {joined : List (StoredScore × StoredRecord R)} {value : Option String}

theorem groupValues_nodup (column : Dimension) (joined : List (StoredScore × StoredRecord R)) :
    (groupValues column joined).Nodup :=
  List.nodup_dedup _

theorem groupValues_cover (column : Dimension) (joined : List (StoredScore × StoredRecord R)) :
    ∀ row ∈ joined, row.2.dimension column ∈ groupValues column joined :=
  fun _ member => List.mem_dedup.mpr (List.mem_map_of_mem member)

theorem groupErrors_ne_nil (known : value ∈ groupValues column joined) : groupErrors column joined value ≠ [] := by
  obtain ⟨row, member, same⟩ := List.mem_map.mp (List.mem_dedup.mp known)
  exact List.ne_nil_of_mem (List.mem_map_of_mem (mem_group.mpr ⟨member, same⟩))

theorem count_mul_mean (value : Option String) : ((errorGroup column joined value).count : ℚ) *
    (errorGroup column joined value).mean = (groupErrors column joined value).sum := by
  simp only [errorGroup]
  by_cases empty : groupErrors column joined value = []
  · rw [empty, List.length_nil, Nat.cast_zero, zero_mul, List.sum_nil]
  · rw [readAggregate_of_ne_nil "mean" empty, aggregateOf_mean, length_mul_average]

/-- What the values of a group say of its errors. -/
structure ErrorGroup.Summarises (item : ErrorGroup) (errors : List ℚ) : Prop where
  counted : item.count = errors.length
  some_ : 0 < item.count
  order : item.p50 ≤ item.p95
  within : ∀ low high, (∀ error ∈ errors, low ≤ error) → (∀ error ∈ errors, error ≤ high) →
    (low ≤ item.mean ∧ item.mean ≤ high) ∧ low ≤ item.p50 ∧ item.p95 ≤ high

theorem errorGroup_summarises (known : value ∈ groupValues column joined) :
    (errorGroup column joined value).Summarises (groupErrors column joined value) := by
  have some_ := groupErrors_ne_nil known
  constructor
  · rfl
  · exact List.length_pos_iff.mpr some_
  · exact readAggregate_percentiles _
  · intro low high below above
    simp only [errorGroup, readAggregate_of_ne_nil _ some_, aggregateOf_mean, aggregateOf_p50, aggregateOf_p95]
    have median := percentileCont_mem_Icc (p := 0.5) some_ (by norm_num) (by norm_num) below above
    have tail := percentileCont_mem_Icc (p := 0.95) some_ (by norm_num) (by norm_num) below above
    exact ⟨average_mem_Icc some_ below above, median.1, tail.2⟩

end Groups

/-! ## Counts of the same scores -/

section Counts

variable {uuids : UuidText} {records : RecordTable R} {scores : ScoreTable}
  {datasetId modelRunId dataset model groupBy name : String} {column : Dimension}
  {joined : List (StoredScore × StoredRecord R)} {items : List ErrorGroup}

/-- The groups account for every row, and for nothing else. -/
structure Accounts (items : List ErrorGroup) (column : Dimension) (joined : List (StoredScore × StoredRecord R)) :
    Prop where
  counted : (items.map ErrorGroup.count).sum = joined.length
  weighed : (items.map fun item => (item.count : ℚ) * item.mean).sum =
    (joined.map fun row => row.1.reconstructionError).sum
  falling : items.Pairwise fun item later => later.count ≤ item.count
  groups : ∀ item ∈ items, ∃ value, item.label = value.getD "" ∧ item.Summarises (groupErrors column joined value)
  shown : ∀ row ∈ joined, ∃ item ∈ items, item.label = (row.2.dimension column).getD ""

theorem arranged_accounts (order : Arranged (fun item : ErrorGroup => -(item.count : Int))
    ((groupValues column joined).map (errorGroup column joined)) items) : Accounts items column joined := by
  have distinct := groupValues_nodup column joined
  have cover := groupValues_cover column joined
  -- the order among groups of one size changes no sum
  constructor
  · rw [(order.perm.map ErrorGroup.count).sum_eq, List.map_map, ← sum_length_group distinct cover]
    congr 1
    apply List.map_congr_left
    intro value _
    exact List.length_map _
  · rw [(order.perm.map fun item : ErrorGroup => (item.count : ℚ) * item.mean).sum_eq, List.map_map,
      ← sum_sum_group (fun row : StoredScore × StoredRecord R => row.1.reconstructionError) distinct cover]
    congr 1
    apply List.map_congr_left
    intro value _
    exact count_mul_mean value
  · refine order.sorted.imp fun sorted => ?_
    omega
  · intro item member
    obtain ⟨value, known, rfl⟩ := List.mem_map.mp (order.perm.mem_iff.mp member)
    exact ⟨value, rfl, errorGroup_summarises known⟩
  · intro row member
    exact ⟨_, order.perm.mem_iff.mpr (List.mem_map_of_mem (cover row member)), rfl⟩

/-- Every score of the model has its record or is an orphan. -/
theorem length_modelRows_add (records : RecordTable R) (scores : ScoreTable) (datasetId modelRunId : String) :
    (modelRows records scores datasetId modelRunId).length + orphanCount records scores { datasetId, modelRunId } =
      (scores.rows.filter (ScoreFilter.ofModel { datasetId, modelRunId })).length := by
  rw [modelRows, ← List.length_map Prod.fst, map_fst_joinRecords, ← List.countP_eq_length_filter,
    List.length_eq_countP_add_countP fun score => records.rows.any fun row => decide (score.recordId = row.recordId)]
  congr 1
  rw [orphanCount, List.countP_filter]
  apply List.countP_congr
  intro score _
  simp [and_comm]

theorem counted_eq (toDouble : ToDouble) : scores.counted toDouble { datasetId, modelRunId } =
    scores.rows.filter (ScoreFilter.ofModel { datasetId, modelRunId }) := by
  apply List.filter_congr
  intro score _
  simp [ScoreFilter.selects]

/-- As many samples as the evaluation may read, each in one cell of its confusion matrix. -/
theorem confusion_total {V : Type} [Arith V] [Truncate V] {rows : List (EvalRow V)} {points maxSamples : Int}
    {metrics : EvalMetrics V} (evaluated : EvalRun rows points maxSamples (.ok metrics)) :
    metrics.confusion.total = if maxSamples > 0 then min maxSamples.toNat rows.length else rows.length := by
  obtain ⟨sorted, -, same⟩ := evaluated
  obtain ⟨steps, -, same⟩ := Pca.bind_eq_ok same.symm
  cases same
  rw [confusionOf_total, readSamples]
  split
  · rw [List.length_take]
  · rfl

theorem lookup_allowed (allowed : allowedGroupBy.lookup groupBy = some name) :
    ∃ column, kAllowedDimensions.lookup name = some column := by
  -- the table of the handler and that of the query are checked against each other
  have entries : ∀ entry ∈ allowedGroupBy, (kAllowedDimensions.lookup entry.2).isSome = true := by decide
  obtain ⟨before, behind, same, -⟩ := List.lookup_eq_some_iff.mp allowed
  have member : (groupBy, name) ∈ allowedGroupBy := by
    rw [same]
    exact List.mem_append_right before List.mem_cons_self
  exact Option.isSome_iff_exists.mp (entries _ member)

theorem not_missing (named : datasetId ≠ "") (allowed : allowedGroupBy.lookup groupBy = some name) :
    ¬ (datasetId = "" ∨ groupBy = "") := by
  rintro (missing | rfl)
  · exact named missing
  · cases allowed

/-- What the handler passes on is known to the query, so that it answers with the groups. -/
theorem handleErrorDistributionRun_iff (named : datasetId ≠ "") (allowed : allowedGroupBy.lookup groupBy = some name)
    (readDataset : uuids.read datasetId = some dataset) (readModel : uuids.read modelRunId = some model)
    {out : Except ErrorAnswer (List ErrorGroup)} :
    HandleErrorDistributionRun uuids records scores datasetId modelRunId groupBy out ↔
      ∃ column, kAllowedDimensions.lookup name = some column ∧
        ∃ ordered, Arranged (fun item : ErrorGroup => -(item.count : Int))
          ((groupValues column (modelRows records scores dataset model)).map
            (errorGroup column (modelRows records scores dataset model))) ordered ∧ out = .ok ordered := by
  obtain ⟨column, known⟩ := lookup_allowed allowed
  simp only [HandleErrorDistributionRun, if_neg (not_missing named allowed), allowed, ErrorDistributionRun, known, uuidOf,
    readDataset, readModel, Option.some.injEq]
  constructor
  · rintro ⟨_, ⟨ordered, order, rfl⟩, answered⟩
    exact ⟨column, rfl, ordered, order, answered⟩
  · rintro ⟨_, rfl, ordered, order, answered⟩
    exact ⟨_, ⟨ordered, order, rfl⟩, answered⟩

/-- An id that is no UUID is answered with the error of the query. -/
theorem handleErrorDistributionRun_unread (named : datasetId ≠ "") (allowed : allowedGroupBy.lookup groupBy = some name)
    (unread : uuids.read datasetId = none ∨ uuids.read modelRunId = none) {out : Except ErrorAnswer (List ErrorGroup)}
    (answered : HandleErrorDistributionRun uuids records scores datasetId modelRunId groupBy out) :
    ∃ what, out = .error (sendError what 500 "E_DB_QUERY_FAILED") := by
  obtain ⟨column, known⟩ := lookup_allowed allowed
  simp only [HandleErrorDistributionRun, if_neg (not_missing named allowed), allowed, ErrorDistributionRun, known,
    uuidOf] at answered
  obtain ⟨dist, ran, answered⟩ := answered
  cases readDataset : uuids.read datasetId with
  | none =>
    simp only [readDataset] at ran
    subst ran
    exact ⟨_, answered⟩
  | some dataset =>
    have readModel : uuids.read modelRunId = none := unread.resolve_left (by simp [readDataset])
    simp only [readDataset, readModel] at ran
    subst ran
    exact ⟨_, answered⟩

end Counts

def datasetUuid : String := "7d444840-9dc0-11d1-b245-5ffdce74fad2"
def modelUuid : String := "0e37df36-f698-11e6-8dd4-cb9ced3df976"

/-- The two ids as they are printed. -/
def twoUuids : UuidText where
  read text := if text = datasetUuid ∨ text = modelUuid then some text else none
  printed text id read := by
    split at read <;> cases read
    next known => rw [if_pos known]

def twoRecords : RecordTable Int := ⟨[storedAt 7 0, storedAt 9 60], by decide⟩

/-- Three scores, of which one has lost its record. -/
def threeScores : ScoreTable :=
  ⟨[⟨1, datasetUuid, modelUuid, 7, 3, true, 0⟩, ⟨2, datasetUuid, modelUuid, 8, 5, false, 0⟩,
    ⟨3, datasetUuid, modelUuid, 9, 4, false, 0⟩], by decide⟩

end TelemetryLab.Analytics
