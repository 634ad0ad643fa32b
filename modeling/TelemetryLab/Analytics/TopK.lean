import TelemetryLab.Analytics.RecordPaging

/-! The most frequent values of a column: `GetTopK` in `db_client.cpp` and
`HandleDatasetTopK` with `api_response_meta.h`.

Rows without a value form a group, while `COUNT(DISTINCT ..)` passes over them.
-/

set_option autoImplicit false
namespace TelemetryLab.Analytics
open OffsetPaging
open Server (Raised ErrorAnswer sendError)

variable {R : Type}

/-- The columns that the handler allows. -/
inductive Dimension where
  | region
  | projectId
  | hostId
  | anomalyType
  deriving DecidableEq, Repr

def allowedColumn (column : String) : Option Dimension :=
  if column = "region" then some .region
  else if column = "project_id" then some .projectId
  else if column = "host_id" then some .hostId
  else if column = "anomaly_type" then some .anomalyType
  else none

/-- The value of a column, of which only the anomaly type may be `NULL`. -/
def StoredRecord.dimension (row : StoredRecord R) : Dimension → Option String
  | .region => some row.region
  | .projectId => some row.projectId
  | .hostId => some row.hostId
  | .anomalyType => row.anomalyType

def columnValues (column : Dimension) (rows : List (StoredRecord R)) : List (Option String) :=
  rows.map fun row => row.dimension column

/-- The rows that meet the `WHERE` clause. -/
def selectRecords (text : TimestampText) (table : RecordTable R) (runId : String) (filters : Filters) :
    Except Raised (List (StoredRecord R)) := do
  let lower ← timeBound text filters.startTime
  let upper ← timeBound text filters.endTime
  pure (table.rows.filter fun row => filters.selects runId row.toArchivedRow && within lower upper row.metricTimestamp)

/-- `COUNT(DISTINCT column)` -/
def countDistinct (values : List (Option String)) : Nat := (values.filterMap id).dedup.length

/-- `SELECT column, COUNT(*) .. GROUP BY column` -/
def valueCounts (values : List (Option String)) : List (Option String × Nat) :=
  values.dedup.map fun value => (value, values.count value)

structure TopKItem where
  label : String
  count : Nat
  deriving DecidableEq, Repr

structure TopK where
  items : List TopKItem
  /-- Always there in an answer of `GetTopK`. -/
  truncated : Option Bool
  totalDistinct : Option Nat
  deriving DecidableEq, Repr

def topKItem (row : Option String × Nat) : TopKItem := ⟨row.1.getD "", row.2⟩

/-- The loop over the rows, which stops behind the `k`-th one. -/
def collectItems (k : Nat) : List (Option String × Nat) → Nat → List TopKItem → List TopKItem × Bool
  | [], _, items => (items, false)
  | row :: rest, count, items =>
    if count ≥ k then (items, true) else collectItems k rest (count + 1) (items ++ [topKItem row])

/-- `ORDER BY COUNT(*) DESC` -/
def groupKey (row : Option String × Nat) : Int := -(row.2 : Int)

/-- `k + 1` as an `int`, which overflows for the largest one. -/
def limitOf (k : Int) : Int := (k + 1).bmod (2 ^ 32)

/-- The answer, for an order of the groups. -/
def topKOf (k : Int) (includeTotalDistinct : Bool) (values : List (Option String))
    (ordered : List (Option String × Nat)) : TopK :=
  let collected := collectItems k.toNat (ordered.take (limitOf k).toNat) 0 []
  ⟨collected.1, some collected.2, if includeTotalDistinct then some (countDistinct values) else none⟩

/-- The results of `GetTopK`. -/
def TopKRun (text : TimestampText) (table : RecordTable R) (runId : String) (column : Dimension) (k : Int)
    (filters : Filters) (includeTotalDistinct : Bool) (out : Except Raised TopK) : Prop :=
  match selectRecords text table runId filters with
  | .error what => out = .error what
  | .ok matched =>
    let values := columnValues column matched
    if limitOf k < 0 then out = .error (.sqlError "LIMIT must not be negative")
    else ∃ ordered, Arranged groupKey (valueCounts values) ordered ∧
      out = .ok (topKOf k includeTotalDistinct values ordered)

/-- `IsTruncated`, for an answer that does not say it. -/
def isTruncated (returned limit : Int) (totalDistinct : Option Nat) : Bool :=
  if returned ≤ 0 ∨ limit ≤ 0 then false
  else
    match totalDistinct with
    | some total => decide ((total : Int) > returned)
    | none => false

/-- `BuildResponseMeta`, without the bins that this answer does not have. -/
structure ResponseMeta where
  limit : Int
  returned : Int
  truncated : Bool
  totalDistinct : Option Nat
  reason : String
  deriving DecidableEq, Repr

structure TopKResponse where
  items : List TopKItem
  info : ResponseMeta
  deriving DecidableEq, Repr

def topKResponse (k : Int) (top : TopK) : TopKResponse where
  items := top.items
  info :=
    { limit := k
      returned := top.items.length
      truncated := top.truncated.getD (isTruncated top.items.length k top.totalDistinct)
      totalDistinct := top.totalDistinct
      reason := "top_k_limit" }

/-- The results of `HandleDatasetTopK`; the times of its answer are left out. -/
def HandleTopKRun (text : TimestampText) (table : RecordTable R) (runId column : String) (k : Int) (filters : Filters)
    (includeTotalDistinct : Bool) (out : Except ErrorAnswer TopKResponse) : Prop :=
  match allowedColumn column with
  | none => out = .error (sendError "Invalid column" 400 "E_HTTP_INVALID_ARGUMENT")
  | some dimension => ∃ data, TopKRun text table runId dimension k filters includeTotalDistinct data ∧
      match data with
      | .ok top => out = .ok (topKResponse k top)
      | .error (.thrown (.invalidArgument what)) => out = .error (sendError what 400 "E_HTTP_INVALID_ARGUMENT")
      | .error raised => out = .error (sendError raised.what 500 "E_DB_QUERY_FAILED")

/-! ## Groups -/

section Groups

variable {values : List (Option String)} {ordered : List (Option String × Nat)}

/-- The group of the rows without a value is not among the distinct values. -/
theorem length_dedup_eq (values : List (Option String)) :
    values.dedup.length = countDistinct values + if none ∈ values then 1 else 0 := by
  rw [countDistinct]
  induction values with
  | nil => rfl
  | cons value rest ih =>
    cases value with
    | none =>
      by_cases seen : none ∈ rest
      · rw [List.dedup_cons_of_mem seen, ih]
        simp [seen]
      · rw [List.dedup_cons_of_notMem seen, List.length_cons, ih]
        simp [seen]
    | some value =>
      have shape : (some value :: rest).filterMap id = value :: rest.filterMap id := rfl
      by_cases seen : some value ∈ rest
      · have also : value ∈ rest.filterMap id := List.mem_filterMap.mpr ⟨_, seen, rfl⟩
        rw [List.dedup_cons_of_mem seen, ih, shape, List.dedup_cons_of_mem also]
        simp
      · have also : value ∉ rest.filterMap id := by
          intro member
          obtain ⟨other, found, same⟩ := List.mem_filterMap.mp member
          rw [id_eq] at same
          exact seen (same ▸ found)
        rw [List.dedup_cons_of_notMem seen, List.length_cons, ih, shape, List.dedup_cons_of_notMem also,
          List.length_cons]
        simp
        omega

theorem collectItems_eq (k : Nat) (rows : List (Option String × Nat)) (count : Nat) (items : List TopKItem) :
    collectItems k rows count items =
      (items ++ (rows.take (k - count)).map topKItem, decide (k - count < rows.length)) := by
  induction rows generalizing count items with
  | nil => simp [collectItems]
  | cons row rest ih =>
    rw [collectItems]
    split
    next full =>
      have none : k - count = 0 := by omega
      simp [none]
    next room =>
      obtain ⟨left, more⟩ : ∃ left, k - count = left + 1 := ⟨k - count - 1, by omega⟩
      have next : k - (count + 1) = left := by omega
      rw [ih, next, more]
      simp

/-- The loop returns the first `k` groups, and sees one more if there is one. -/
theorem collectItems_take (k : Nat) (ordered : List (Option String × Nat)) :
    collectItems k (ordered.take (k + 1)) 0 [] = ((ordered.take k).map topKItem, decide (k < ordered.length)) := by
  rw [collectItems_eq, Nat.sub_zero, List.nil_append, List.take_take, min_eq_left (Nat.le_succ k), List.length_take]
  congr 1
  rw [decide_eq_decide]
  omega

theorem groups_length (order : Arranged groupKey (valueCounts values) ordered) :
    ordered.length = countDistinct values + if none ∈ values then 1 else 0 := by
  rw [order.length_eq, valueCounts, List.length_map, length_dedup_eq]

theorem groups_nodup (order : Arranged groupKey (valueCounts values) ordered) :
    (ordered.map Prod.fst).Nodup := by
  rw [(order.perm.map Prod.fst).nodup_iff, valueCounts, List.map_map]
  exact (List.map_id values.dedup).symm ▸ List.nodup_dedup values

/-- Only the missing value and the empty text have a label in common. -/
theorem labels_nodup_iff {found : List (Option String)} (distinct : found.Nodup) :
    (found.map fun value => value.getD "").Nodup ↔ ¬ (none ∈ found ∧ some "" ∈ found) := by
  constructor
  · rintro apart ⟨missing, empty⟩
    cases List.inj_on_of_nodup_map apart missing empty rfl
  · intro notBoth
    refine distinct.map_on ?_
    intro a first b second same
    cases a with
    | none =>
      cases b with
      | none => rfl
      | some b =>
        have empty : "" = b := same
        subst empty
        exact absurd ⟨first, second⟩ notBoth
    | some a =>
      cases b with
      | none =>
        have empty : a = "" := same
        subst empty
        exact absurd ⟨second, first⟩ notBoth
      | some b => exact congrArg some same

/-- The group of the missing value and the one of the empty text, which are both labelled `""`, leave the other groups
that come before the smaller of the two at most `k - 2` places. -/
def BlankLabelsMeet (values : List (Option String)) (k : Int) : Prop :=
  none ∈ values ∧ some "" ∈ values ∧
    ((values.dedup.filter fun value => decide (value ≠ none ∧ value ≠ some "" ∧
      min (values.count none) (values.count (some "")) < values.count value)).length : Int) + 2 ≤ k

instance (values : List (Option String)) (k : Int) : Decidable (BlankLabelsMeet values k) :=
  inferInstanceAs (Decidable (_ ∧ _ ∧ _))

theorem mem_valueCounts {group : Option String × Nat} :
    group ∈ valueCounts values ↔ group.1 ∈ values ∧ group.2 = values.count group.1 := by
  simp only [valueCounts, List.mem_map, List.mem_dedup]
  constructor
  · rintro ⟨value, member, rfl⟩
    exact ⟨member, rfl⟩
  · rintro ⟨member, counted⟩
    exact ⟨group.1, member, by rw [← counted]⟩

theorem valueCounts_nodup (values : List (Option String)) : (valueCounts values).Nodup := by
  refine (List.nodup_dedup values).map ?_
  intro value other same
  exact congrArg Prod.fst same

/-- A value is among the first ones if its group is. -/
theorem mem_first_iff (order : Arranged groupKey (valueCounts values) ordered) {value : Option String} {k : Nat} :
    value ∈ (ordered.take k).map Prod.fst ↔ (value, values.count value) ∈ ordered.take k := by
  constructor
  · intro member
    obtain ⟨group, early, rfl⟩ := List.mem_map.mp member
    have counted := (mem_valueCounts.mp (order.perm.mem_iff.mp (List.mem_of_mem_take early))).2
    rwa [← counted]
  · intro early
    exact List.mem_map.mpr ⟨_, early, rfl⟩

theorem length_ahead (values : List (Option String)) :
    (ahead groupKey (none, values.count none) (some "", values.count (some "")) (valueCounts values)).length =
      (values.dedup.filter fun value => decide (value ≠ none ∧ value ≠ some "" ∧
        min (values.count none) (values.count (some "")) < values.count value)).length := by
  rw [ahead, valueCounts, List.filter_map, List.length_map]
  congr 1
  refine List.filter_congr fun value _ => ?_
  rw [Function.comp_apply, decide_eq_decide]
  simp only [groupKey, Prod.mk.injEq, ne_eq]
  constructor
  · rintro ⟨notMissing, notEmpty, more⟩
    refine ⟨fun missing => notMissing (by simp [missing]), fun empty => notEmpty (by simp [empty]), ?_⟩
    omega
  · rintro ⟨notMissing, notEmpty, more⟩
    refine ⟨fun both => notMissing both.1, fun both => notEmpty both.1, ?_⟩
    omega

/-- Some order has both blank labels among the first `k` exactly when they meet. -/
theorem exists_blank_labels_iff (k : Int) (least : 1 ≤ k) :
    (∃ ordered, Arranged groupKey (valueCounts values) ordered ∧
      none ∈ (ordered.take k.toNat).map Prod.fst ∧ some "" ∈ (ordered.take k.toNat).map Prod.fst) ↔
        BlankLabelsMeet values k := by
  have shape : (∃ ordered, Arranged groupKey (valueCounts values) ordered ∧
      none ∈ (ordered.take k.toNat).map Prod.fst ∧ some "" ∈ (ordered.take k.toNat).map Prod.fst) ↔
      ∃ ordered, Arranged groupKey (valueCounts values) ordered ∧
        (none, values.count none) ∈ ordered.take k.toNat ∧ (some "", values.count (some "")) ∈ ordered.take k.toNat :=
    exists_congr fun ordered => and_congr_right fun order => and_congr (mem_first_iff order) (mem_first_iff order)
  rw [shape, BlankLabelsMeet]
  by_cases both : none ∈ values ∧ some "" ∈ values
  · have left : (none, values.count none) ∈ valueCounts values := mem_valueCounts.mpr ⟨both.1, rfl⟩
    have right : (some "", values.count (some "")) ∈ valueCounts values := mem_valueCounts.mpr ⟨both.2, rfl⟩
    rw [exists_both_first_iff (valueCounts_nodup values) (by simp) left right, length_ahead, ← and_assoc,
      and_iff_right both]
    omega
  · constructor
    · rintro ⟨ordered, order, missing, empty⟩
      exact absurd ⟨(mem_valueCounts.mp (order.perm.mem_iff.mp (List.mem_of_mem_take missing))).1,
        (mem_valueCounts.mp (order.perm.mem_iff.mp (List.mem_of_mem_take empty))).1⟩ both
    · rintro ⟨missing, empty, -⟩
      exact absurd ⟨missing, empty⟩ both

end Groups

/-! ## What is said about truncation -/

/-- An answer of at most `k` labels that is truncated when more distinct values are counted. -/
def Honest (k : Int) (out : Except ErrorAnswer TopKResponse) : Prop :=
  ∃ response, out = .ok response ∧ (response.items.length : Int) ≤ k ∧ (response.items.map TopKItem.label).Nodup ∧
    ∃ total, response.info.totalDistinct = some total ∧
      (response.info.truncated = true ↔ (total : Int) > response.info.returned)

section Runs

variable {text : TimestampText} {table : RecordTable R} {runId : String} {filters : Filters} {k : Int}
  {matched : List (StoredRecord R)}

theorem limitOf_eq (least : 1 ≤ k) (fits : k + 1 < 2 ^ 31) : limitOf k = k + 1 := by
  rw [limitOf, Int.bmod]
  omega

theorem limitOf_neg (least : 1 ≤ k) (fits : k < 2 ^ 31) (last : ¬ k + 1 < 2 ^ 31) : limitOf k < 0 := by
  rw [limitOf, Int.bmod]
  omega

theorem topKOf_eq (least : 1 ≤ k) (fits : k + 1 < 2 ^ 31) (includeTotalDistinct : Bool) (values : List (Option String))
    (ordered : List (Option String × Nat)) : topKOf k includeTotalDistinct values ordered =
      ⟨(ordered.take k.toNat).map topKItem, some (decide (k.toNat < ordered.length)),
        if includeTotalDistinct then some (countDistinct values) else none⟩ := by
  have limit : (limitOf k).toNat = k.toNat + 1 := by
    rw [limitOf_eq least fits]
    omega
  rw [topKOf, limit, collectItems_take]

/-- The two counts disagree only where the missing value makes one group more than are returned. -/
theorem groups_exceed_iff (least : 1 ≤ k) {values : List (Option String)} {ordered : List (Option String × Nat)}
    (order : Arranged groupKey (valueCounts values) ordered) :
    (k.toNat < ordered.length ↔ (countDistinct values : Int) > (min k.toNat ordered.length : Nat)) ↔
      ¬ (none ∈ values ∧ (countDistinct values : Int) = k) := by
  have groups := groups_length order
  by_cases missing : none ∈ values
  · rw [if_pos missing] at groups
    simp only [missing, true_and]
    omega
  · rw [if_neg missing] at groups
    simp only [missing, false_and, not_false_eq_true, iff_true]
    omega

/-- One answer, for an order of the groups. -/
theorem honest_topKOf_iff (least : 1 ≤ k) (fits : k + 1 < 2 ^ 31) {values : List (Option String)}
    {ordered : List (Option String × Nat)} (order : Arranged groupKey (valueCounts values) ordered) :
    Honest k (.ok (topKResponse k (topKOf k true values ordered))) ↔
      ¬ (none ∈ values ∧ (countDistinct values : Int) = k) ∧
      ¬ (none ∈ (ordered.take k.toNat).map Prod.fst ∧ some "" ∈ (ordered.take k.toNat).map Prod.fst) := by
  have labels : ((ordered.take k.toNat).map topKItem).map TopKItem.label =
      ((ordered.take k.toNat).map Prod.fst).map fun value => value.getD "" := by
    rw [List.map_map, List.map_map]
    rfl
  have distinct : ((ordered.take k.toNat).map Prod.fst).Nodup :=
    ((List.take_sublist _ _).map _).nodup (groups_nodup order)
  have returned : ((ordered.take k.toNat).map topKItem).length = min k.toNat ordered.length := by
    rw [List.length_map, List.length_take]
  rw [topKOf_eq least fits, ← labels_nodup_iff distinct, ← labels]
  have counts := groups_exceed_iff least order
  constructor
  · rintro ⟨response, same, -, apart, total, counted, truncated⟩
    cases same
    cases counted
    refine ⟨counts.mp ?_, apart⟩
    simpa only [topKResponse, Option.getD_some, decide_eq_true_eq, returned] using truncated
  · rintro ⟨agree, apart⟩
    refine ⟨_, rfl, ?_, apart, _, rfl, ?_⟩
    · simp only [topKResponse, returned]
      omega
    · simpa only [topKResponse, Option.getD_some, decide_eq_true_eq, returned] using counts.mpr agree

/-- The answer to a column that is allowed, for an order of the groups or the error of the query. -/
theorem handleTopKRun_iff {column : String} {dimension : Dimension} (allowed : allowedColumn column = some dimension)
    (least : 1 ≤ k) (fits : k < 2 ^ 31) (accepted : selectRecords text table runId filters = .ok matched)
    {out : Except ErrorAnswer TopKResponse} : HandleTopKRun text table runId column k filters true out ↔
      if k + 1 < 2 ^ 31 then
        ∃ ordered, Arranged groupKey (valueCounts (columnValues dimension matched)) ordered ∧
          out = .ok (topKResponse k (topKOf k true (columnValues dimension matched) ordered))
      else out = .error (sendError "LIMIT must not be negative" 500 "E_DB_QUERY_FAILED") := by
  simp only [HandleTopKRun, allowed, TopKRun, accepted]
  by_cases last : k + 1 < 2 ^ 31
  · have limit : ¬ limitOf k < 0 := by
      rw [limitOf_eq least last]
      omega
    simp only [last, limit, if_true, if_false]
    constructor
    · rintro ⟨_, ⟨ordered, order, rfl⟩, answered⟩
      exact ⟨ordered, order, answered⟩
    · rintro ⟨ordered, order, answered⟩
      exact ⟨_, ⟨ordered, order, rfl⟩, answered⟩
  · simp only [last, limitOf_neg least fits last, if_true, if_false]
    constructor
    · rintro ⟨_, rfl, answered⟩
      exact answered
    · intro answered
      exact ⟨_, rfl, answered⟩

/-- The answers are honest if and only if `k + 1` is an `int`, the rows without a value do not join exactly `k`
distinct values, and the two blank labels do not meet. -/
theorem topk_honest_iff {column : String} {dimension : Dimension} (allowed : allowedColumn column = some dimension)
    (k : Int) (least : 1 ≤ k) (fits : k < 2 ^ 31) (accepted : selectRecords text table runId filters = .ok matched) :
    (∀ out, HandleTopKRun text table runId column k filters true out → Honest k out) ↔
      k + 1 < 2 ^ 31 ∧
      ¬ (none ∈ columnValues dimension matched ∧ (countDistinct (columnValues dimension matched) : Int) = k) ∧
      ¬ BlankLabelsMeet (columnValues dimension matched) k := by
  simp only [handleTopKRun_iff allowed least fits accepted]
  rw [← exists_blank_labels_iff k least]
  by_cases last : k + 1 < 2 ^ 31
  · simp only [last, if_true, true_and]
    constructor
    · intro honest
      have answers := fun ordered order =>
        (honest_topKOf_iff least last order).mp (honest _ ⟨ordered, order, rfl⟩)
      refine ⟨(answers _ (arranged_insertionSort groupKey _)).1, ?_⟩
      rintro ⟨ordered, order, both⟩
      exact (answers ordered order).2 both
    · rintro ⟨agree, apart⟩ _ ⟨ordered, order, rfl⟩
      exact (honest_topKOf_iff least last order).mpr ⟨agree, fun both => apart ⟨ordered, order, both⟩⟩
  · simp only [last, if_false, false_and, iff_false, not_forall]
    refine ⟨_, rfl, ?_⟩
    rintro ⟨response, failed, -⟩
    cases failed

end Runs

/-! ## A dataset with one anomaly -/

/-- A record with its anomaly type. -/
def typedRecord (recordId : Int) (anomalyType : Option String) : StoredRecord Int :=
  { storedAt recordId 0 with isAnomaly := anomalyType.isSome, anomalyType }

/-- Three normal records and an anomaly. -/
def oneAnomaly : RecordTable Int :=
  ⟨[typedRecord 1 none, typedRecord 2 none, typedRecord 3 none, typedRecord 4 (some "POINT")], by decide⟩

theorem oneAnomaly_accepted : selectRecords isoText oneAnomaly "d" {} = .ok oneAnomaly.rows := by
  rfl

theorem oneAnomaly_arranged : Arranged groupKey
    (valueCounts (columnValues .anomalyType oneAnomaly.rows)) [(none, 3), (some "POINT", 1)] := by
  refine ⟨?_, by decide⟩
  decide

theorem oneAnomaly_run (k : Int) (least : 1 ≤ k) (fits : k + 1 < 2 ^ 31) :
    HandleTopKRun isoText oneAnomaly "d" "anomaly_type" k {} true (.ok (topKResponse k
      (topKOf k true (columnValues .anomalyType oneAnomaly.rows) [(none, 3), (some "POINT", 1)]))) := by
  rw [handleTopKRun_iff rfl least (by omega) oneAnomaly_accepted, if_pos fits]
  exact ⟨_, oneAnomaly_arranged, rfl⟩

/-- Two places are enough for the missing value and the anomaly. -/
theorem oneAnomaly_two_honest : Honest 2 (.ok (topKResponse 2
    (topKOf 2 true (columnValues .anomalyType oneAnomaly.rows) [(none, 3), (some "POINT", 1)]))) :=
  (topk_honest_iff rfl 2 (by decide) (by decide) oneAnomaly_accepted).mpr (by decide) _
    (oneAnomaly_run 2 (by decide) (by decide))

/-- In one place the missing value is returned, and the anomaly alone is counted. -/
theorem oneAnomaly_one_truncated : ¬ ∀ (text : TimestampText) (table : RecordTable Int) (runId column : String)
    (dimension : Dimension) (k : Int) (filters : Filters) (matched : List (StoredRecord Int))
    (out : Except ErrorAnswer TopKResponse), allowedColumn column = some dimension → 1 ≤ k → k < 2 ^ 31 →
    selectRecords text table runId filters = .ok matched → HandleTopKRun text table runId column k filters true out →
    Honest k out := by
  intro honest
  obtain ⟨response, answered, -, -, total, counted, truncated⟩ := honest isoText oneAnomaly "d" "anomaly_type" _ 1 {} _ _
    rfl (by decide) (by decide) oneAnomaly_accepted (oneAnomaly_run 1 (by decide) (by decide))
  cases answered
  cases counted
  revert truncated
  decide

end TelemetryLab.Analytics
