import Mathlib.Data.Prod.Lex
import TelemetryLab.Analytics.Histogram
import TelemetryLab.Analytics.RecordPaging

/-! The pages of the scores of a dataset (`GetScores` in `db_client.cpp`).

The items come from the scores joined with their records and the total from the
scores alone. The retention of the telemetry may leave a score without its record.
Both ids of a filter are the UUIDs that the server has read from their texts; any
other text is an error of the query. There are fewer than 2^31 scores, so that the
`int` of `HasMore` holds its sum.
-/

set_option autoImplicit false
namespace TelemetryLab.Analytics
open OffsetPaging

/-- A row of `dataset_scores`. -/
structure StoredScore where
  scoreId : Int
  datasetId : String
  modelRunId : String
  recordId : Int
  reconstructionError : ℚ
  predictedIsAnomaly : Bool
  scoredAt : Int

/-- The table `dataset_scores`, with its primary key. -/
structure ScoreTable where
  rows : List StoredScore
  distinct : (rows.map StoredScore.scoreId).Nodup

/-- The filters of a request; a bound that is not positive is not applied. -/
structure ScoreFilter where
  datasetId : String
  modelRunId : String
  onlyAnomalies : Bool := false
  minScore : ℚ := 0
  maxScore : ℚ := 0

def ScoreFilter.ofModel (filter : ScoreFilter) (score : StoredScore) : Bool :=
  decide (score.datasetId = filter.datasetId) && decide (score.modelRunId = filter.modelRunId)

/-- The `WHERE` clause of the items and of the total. -/
def ScoreFilter.selects (filter : ScoreFilter) (toDouble : ToDouble) (score : StoredScore) : Bool :=
  filter.ofModel score && (!filter.onlyAnomalies || score.predictedIsAnomaly) &&
  (decide (filter.minScore ≤ 0) || decide (toDouble.bound filter.minScore ≤ score.reconstructionError)) &&
  (decide (filter.maxScore ≤ 0) || decide (score.reconstructionError ≤ toDouble.bound filter.maxScore))

def ScoreTable.counted (scores : ScoreTable) (toDouble : ToDouble) (filter : ScoreFilter) : List StoredScore :=
  scores.rows.filter (filter.selects toDouble)

variable {R : Type}

/-- `JOIN host_telemetry_archival h ON s.record_id = h.record_id` -/
def joinRecords (records : RecordTable R) (scores : List StoredScore) : List (StoredScore × StoredRecord R) :=
  scores.flatMap fun score =>
    (records.rows.filter fun row => decide (score.recordId = row.recordId)).map fun row => (score, row)

structure ScoreItem where
  scoreId : Int
  recordId : Int
  score : ℚ
  isAnomaly : Bool
  scoredAt : String
  timestamp : String
  hostId : String
  label : Bool

def scoreItem (text : TimestampText) (joined : StoredScore × StoredRecord R) : ScoreItem where
  scoreId := joined.1.scoreId
  recordId := joined.1.recordId
  score := joined.1.reconstructionError
  isAnomaly := joined.1.predictedIsAnomaly
  scoredAt := text.print joined.1.scoredAt
  timestamp := text.print joined.2.metricTimestamp
  hostId := joined.2.hostId
  label := joined.2.isAnomaly

structure ScoresPage extends Answer ScoreItem where
  total : Nat
  minScore : ℚ
  maxScore : ℚ
  limit : Nat
  offset : Nat

/-- `ORDER BY s.reconstruction_error DESC, s.score_id DESC` -/
def scoreKey (score : StoredScore) : ℚ ×ₗ ℤ := toLex (-score.reconstructionError, -score.scoreId)

/-- The answer of `GetScores`, for an order of the joined rows. -/
def scoresPage (text : TimestampText) (toDouble : ToDouble) (scores : ScoreTable) (filter : ScoreFilter)
    (limit offset : Nat) (ordered : List (StoredScore × StoredRecord R)) : ScoresPage :=
  let items := (page ordered offset limit).map (scoreItem text)
  let total := (scores.counted toDouble filter).length
  let errors := (scores.rows.filter filter.ofModel).map StoredScore.reconstructionError
  { items
    total
    minScore := errors.min?.getD 0
    maxScore := errors.max?.getD 10
    limit
    offset
    returned := items.length
    hasMore := hasMore limit offset items.length (some total) }

/-- The number of orphaned scores, which is only logged. -/
def orphanCount (records : RecordTable R) (scores : ScoreTable) (filter : ScoreFilter) : Nat :=
  scores.rows.countP fun score =>
    filter.ofModel score && !records.rows.any fun row => decide (score.recordId = row.recordId)

/-- The results of `GetScores`. -/
def ScoresRun (text : TimestampText) (toDouble : ToDouble) (records : RecordTable R) (scores : ScoreTable)
    (filter : ScoreFilter) (limit offset : Nat) (out : ScoresPage) : Prop :=
  ∃ ordered, Arranged (fun entry => scoreKey entry.1) (joinRecords records (scores.counted toDouble filter)) ordered ∧
    out = scoresPage text toDouble scores filter limit offset ordered

/-- The scores that a client collects from the answers to its calls. -/
def walkScores (answers : Nat → Nat → ScoresPage) : Nat → Nat → Nat → Option (List ScoreItem) :=
  follow fun call offset => (answers call offset).toAnswer

section Join

theorem length_le_one_of_nodup {A : Type} {list : List A} {a : A} (distinct : list.Nodup) (same : ∀ b ∈ list, b = a) :
    list.length ≤ 1 := by
  match list, distinct with
  | [], _ => exact Nat.zero_le 1
  | [_], _ => exact le_rfl
  | b :: c :: _, distinct =>
    have first := same b List.mem_cons_self
    have second := same c (List.mem_cons_of_mem _ List.mem_cons_self)
    simp [first, second] at distinct

/-- A score has at most one record. -/
theorem length_matches_le (records : RecordTable R) (recordId : Int) :
    (records.rows.filter fun row => decide (recordId = row.recordId)).length ≤ 1 := by
  have distinct : ((records.rows.filter fun row => decide (recordId = row.recordId)).map fun row => row.recordId).Nodup :=
    (List.filter_sublist.map _).nodup records.distinct
  rw [← List.length_map fun row : StoredRecord R => row.recordId]
  apply length_le_one_of_nodup distinct
  intro id member
  obtain ⟨row, kept, rfl⟩ := List.mem_map.mp member
  exact (of_decide_eq_true (List.mem_filter.mp kept).2).symm

/-- The scores of the join are those that have a record. -/
theorem map_fst_joinRecords (records : RecordTable R) (scores : List StoredScore) :
    (joinRecords records scores).map Prod.fst =
      scores.filter fun score => records.rows.any fun row => decide (score.recordId = row.recordId) := by
  induction scores with
  | nil => rfl
  | cons score rest ih =>
    have parts : joinRecords records (score :: rest) = ((records.rows.filter fun row =>
        decide (score.recordId = row.recordId)).map fun row => (score, row)) ++ joinRecords records rest := rfl
    have most := length_matches_le records score.recordId
    rw [parts, List.map_append, List.map_map, ih]
    by_cases orphan : (records.rows.filter fun row => decide (score.recordId = row.recordId)) = []
    · rw [orphan, List.filter_cons_of_neg]
      · rfl
      · rw [List.filter_eq_nil_iff] at orphan
        simpa using orphan
    · obtain ⟨row, alone⟩ := List.length_eq_one_iff.mp
        (le_antisymm most (Nat.one_le_iff_ne_zero.mpr (by simpa using orphan)))
      rw [alone, List.filter_cons_of_pos]
      · rfl
      · have member : row ∈ records.rows.filter fun row => decide (score.recordId = row.recordId) := by
          rw [alone]
          exact List.mem_singleton_self row
        obtain ⟨stored, same⟩ := List.mem_filter.mp member
        exact List.any_eq_true.mpr ⟨row, stored, same⟩

/-- An orphan makes the join shorter. -/
theorem length_joinRecords_lt {records : RecordTable R} {scores : List StoredScore} {score : StoredScore}
    (member : score ∈ scores) (orphan : ¬ ∃ row ∈ records.rows, score.recordId = row.recordId) :
    (joinRecords records scores).length < scores.length := by
  rw [← List.length_map Prod.fst, map_fst_joinRecords, List.length_filter_lt_length_iff_exists]
  refine ⟨score, member, fun found => orphan ?_⟩
  obtain ⟨row, stored, same⟩ := List.any_eq_true.mp found
  exact ⟨row, stored, of_decide_eq_true same⟩

/-- Without orphans the join keeps every score. -/
theorem map_fst_joinRecords_of_kept {records : RecordTable R} {scores : List StoredScore}
    (kept : ∀ score ∈ scores, ∃ row ∈ records.rows, score.recordId = row.recordId) :
    (joinRecords records scores).map Prod.fst = scores := by
  rw [map_fst_joinRecords, List.filter_eq_self]
  intro score member
  obtain ⟨row, stored, same⟩ := kept score member
  exact List.any_eq_true.mpr ⟨row, stored, decide_eq_true same⟩

end Join

section Walks

variable {text : TimestampText} {toDouble : ToDouble} {records : RecordTable R} {scores : ScoreTable}
  {filter : ScoreFilter} {limit : Nat}

theorem toAnswer_scoresPage (offset : Nat) (ordered : List (StoredScore × StoredRecord R)) :
    (scoresPage text toDouble scores filter limit offset ordered).toAnswer =
      answerOf (scoreItem text) (scores.counted toDouble filter).length limit offset ordered := rfl

/-- The order of the query leaves no tie. -/
theorem scoreKeys_nodup {joined : List (StoredScore × StoredRecord R)}
    (once : (joined.map fun entry => entry.1.scoreId).Nodup) : (joined.map fun entry => scoreKey entry.1).Nodup := by
  have ids : (joined.map fun entry => scoreKey entry.1).map (fun key => -(ofLex key).2) =
      joined.map fun entry => entry.1.scoreId := by
    rw [List.map_map]
    apply List.map_congr_left
    intro entry _
    exact neg_neg _
  rw [← ids] at once
  exact List.Nodup.of_map _ once

theorem counted_distinct : ((scores.counted toDouble filter).map StoredScore.scoreId).Nodup :=
  (List.filter_sublist.map _).nodup scores.distinct

/-- The walk through the scores ends with all of them if and only if each of them still has its record. -/
theorem scores_paged_exactly_iff (text : TimestampText) (toDouble : ToDouble) (records : RecordTable R)
    (scores : ScoreTable) (filter : ScoreFilter) (positive : 0 < limit) :
    (∀ answers : Nat → Nat → ScoresPage,
      (∀ call offset, ScoresRun text toDouble records scores filter limit offset (answers call offset)) →
      ∃ fuel collected, walkScores answers fuel 0 0 = some collected ∧
        (collected.map ScoreItem.scoreId).Perm ((scores.counted toDouble filter).map StoredScore.scoreId)) ↔
      ∀ score ∈ scores.counted toDouble filter, ∃ row ∈ records.rows, score.recordId = row.recordId := by
  constructor
  · intro exact_ score member
    by_contra orphan
    -- the join has fewer rows than are counted, so that the total is never reached
    have fewer := length_joinRecords_lt member orphan
    have order := arranged_insertionSort (fun entry : StoredScore × StoredRecord R => scoreKey entry.1)
      (joinRecords records (scores.counted toDouble filter))
    obtain ⟨fuel, collected, ended, -⟩ := exact_ _ fun _ _ => ⟨_, order, rfl⟩
    simp only [walkScores, toAnswer_scoresPage, follow_answerOf] at ended
    rw [walk_eq_none (fun _ => order.length_eq.trans_lt fewer) fuel 0 0 (Nat.zero_le _) fun _ _ => rfl] at ended
    cases ended
  · intro kept answers runs
    have joined := map_fst_joinRecords_of_kept kept
    have length := congrArg List.length joined
    rw [List.length_map] at length
    have ids := congrArg (List.map StoredScore.scoreId) joined
    rw [List.map_map] at ids
    have once : ((scores.counted toDouble filter).map StoredScore.scoreId).Nodup := counted_distinct
    rw [← ids] at once
    have shown : ∀ call offset, ∃ ordered, Arranged (fun entry => scoreKey entry.1)
        (joinRecords records (scores.counted toDouble filter)) ordered ∧ (answers call offset).toAnswer =
          answerOf (scoreItem text) (joinRecords records (scores.counted toDouble filter)).length limit offset ordered := by
      intro call offset
      obtain ⟨ordered, order, same⟩ := runs call offset
      refine ⟨ordered, order, ?_⟩
      rw [same, toAnswer_scoresPage, length]
    obtain ⟨fuel, collected, ended, all⟩ :=
      follow_exact positive (separates_of_nodup (scoreKeys_nodup once) limit) shown
    refine ⟨fuel, collected, ended, ?_⟩
    rw [← ids]
    have named := all.map ScoreItem.scoreId
    rwa [List.map_map] at named

end Walks

/-! ## A score that outlives its record -/

def modelFilter : ScoreFilter := ⟨"d", "m", false, 0, 0⟩

/-- Two scores of a model, and one of another. -/
def twoModels : ScoreTable :=
  ⟨[⟨1, "d", "m", 7, 3, true, 0⟩, ⟨2, "d", "m", 9, 5, false, 60⟩, ⟨3, "d", "n", 9, 4, false, 60⟩], by decide⟩

/-- Their scored records; the larger error comes first. -/
def byError : List (StoredScore × StoredRecord Int) :=
  [(⟨2, "d", "m", 9, 5, false, 60⟩, storedAt 9 60), (⟨1, "d", "m", 7, 3, true, 0⟩, storedAt 7 0)]

/-- Each score of a model whose scores have their records is returned, one a page. -/
theorem both_scores_returned : ∃ fuel collected,
    walkScores (fun _ offset => scoresPage isoText exactDoubles twoModels modelFilter 1 offset byError) fuel 0 0 =
      some collected ∧ (collected.map ScoreItem.scoreId).Perm [1, 2] := by
  have kept : ∀ score ∈ twoModels.counted exactDoubles modelFilter,
      ∃ row ∈ (⟨[storedAt 7 0, storedAt 9 60], by decide⟩ : RecordTable Int).rows, score.recordId = row.recordId := by
    decide +kernel
  have order : Arranged (fun entry : StoredScore × StoredRecord Int => scoreKey entry.1)
      (joinRecords ⟨[storedAt 7 0, storedAt 9 60], by decide⟩ (twoModels.counted exactDoubles modelFilter)) byError :=
    ⟨List.Perm.swap _ _ _, by decide +kernel⟩
  exact (scores_paged_exactly_iff isoText exactDoubles ⟨[storedAt 7 0, storedAt 9 60], by decide⟩ twoModels modelFilter
    Nat.one_pos).mpr kept _ fun _ _ => ⟨_, order, rfl⟩

def oneScore : ScoreTable := ⟨[⟨1, "d", "m", 7, 3, true, 0⟩], List.nodup_singleton _⟩

theorem oneScore_counted : oneScore.counted exactDoubles modelFilter = oneScore.rows := by
  rfl

def oneScoreAnswers (ordered : List (StoredScore × StoredRecord Int)) (_call offset : Nat) : ScoresPage :=
  scoresPage isoText exactDoubles oneScore modelFilter 1 offset ordered

/-- Without its record the score is counted and never returned. -/
theorem oneScore_never_ends : ¬ ∀ (text : TimestampText) (toDouble : ToDouble) (records : RecordTable Int)
    (scores : ScoreTable) (filter : ScoreFilter) (limit : Nat) (answers : Nat → Nat → ScoresPage), 0 < limit →
    (∀ call offset, ScoresRun text toDouble records scores filter limit offset (answers call offset)) →
    ∃ fuel collected, walkScores answers fuel 0 0 = some collected ∧
      (collected.map ScoreItem.scoreId).Perm ((scores.counted toDouble filter).map StoredScore.scoreId) := by
  intro exact_
  obtain ⟨fuel, collected, ended, -⟩ := exact_ isoText exactDoubles ⟨[], List.nodup_nil⟩ oneScore modelFilter 1
    (oneScoreAnswers []) Nat.one_pos fun _ _ => ⟨[], ⟨List.Perm.refl _, List.Pairwise.nil⟩, rfl⟩
  simp only [walkScores, oneScoreAnswers, toAnswer_scoresPage, follow_answerOf, oneScore_counted] at ended
  rw [walk_eq_none (fun _ => Nat.one_pos) fuel 0 0 le_rfl fun _ _ => rfl] at ended
  cases ended

end TelemetryLab.Analytics
