import TelemetryLab.Analytics.TimeSeries
import TelemetryLab.Lib.OffsetPaging
import TelemetryLab.Pca.Model

/-! The pages of the records of a dataset: `SearchDatasetRecords` in `db_client.cpp` and
`HasMore` in `pagination.h`.

The query orders by the time alone, so records of one time come in an order that
the server chooses anew for every page. The sum in `HasMore` is an `int`; on a page
with records it is at most the number of rows, of which there are fewer than 2^31.
The dataset of a search is the UUID that the server has read from its text.
-/

set_option autoImplicit false
namespace TelemetryLab.Analytics
open OffsetPaging
open Server (Raised)

variable {R : Type}

/-- A row of `host_telemetry_archival` with the columns that a page shows; the labels as a document. -/
structure StoredRecord (R : Type) extends ArchivedRow R where
  projectId : String
  labels : Option (Pca.Json R)

/-- The table `host_telemetry_archival`; its `record_id` is a `BIGSERIAL`. -/
structure RecordTable (R : Type) where
  rows : List (StoredRecord R)
  distinct : (rows.map fun row => row.recordId).Nodup

def hasMore (limit offset returned : Nat) (total : Option Nat) : Bool :=
  match total with
  | some total => decide (offset + returned < total)
  | none => decide (limit ≤ returned)

structure RecordItem (R : Type) where
  recordId : Int
  hostId : String
  timestamp : String
  cpuUsage : R
  memoryUsage : R
  diskUtilization : R
  networkRxRate : R
  networkTxRate : R
  isAnomaly : Bool
  anomalyType : String
  region : String
  projectId : String
  labels : Pca.Json R

def StoredRecord.item (text : TimestampText) (row : StoredRecord R) : RecordItem R where
  recordId := row.recordId
  hostId := row.hostId
  timestamp := text.print row.metricTimestamp
  cpuUsage := row.cpuUsage
  memoryUsage := row.memoryUsage
  diskUtilization := row.diskUtilization
  networkRxRate := row.networkRxRate
  networkTxRate := row.networkTxRate
  isAnomaly := row.isAnomaly
  anomalyType := row.anomalyType.getD ""
  region := row.region
  projectId := row.projectId
  labels := row.labels.getD (.object [])

structure RecordsPage (R : Type) extends Answer (RecordItem R) where
  total : Nat
  limit : Nat
  offset : Nat
  sortBy : String
  sortOrder : String
  anchorTime : Option String

/-- `sort_dir` -/
def Search.direction (search : Search) : String :=
  if search.sortOrder = "" then "desc" else search.sortOrder.map Char.toLower

/-- The rows that meet the `WHERE` clause of a search that is valid. -/
def matchingRecords (text : TimestampText) (table : RecordTable R) (runId : String) (search : Search) :
    Except Raised (List (StoredRecord R)) :=
  if search.sortBy ≠ "" ∧ search.sortBy ≠ "metric_timestamp" then
    .error (.thrown (.invalidArgument ("Invalid sort_by: " ++ search.sortBy)))
  else if search.direction ≠ "asc" ∧ search.direction ≠ "desc" then
    .error (.thrown (.invalidArgument ("Invalid sort_order: " ++ search.sortOrder)))
  else do
    let lower ← timeBound text search.filters.startTime
    let upper ← timeBound text search.filters.endTime
    let anchor ← timeBound text search.anchorTime
    pure (table.rows.filter fun row =>
      search.filters.selects runId row.toArchivedRow && within lower upper row.metricTimestamp &&
      ((if search.direction = "asc" then within anchor none row.metricTimestamp
        else within none anchor row.metricTimestamp) &&
        (decide (search.hostId = "") || decide (row.hostId = search.hostId))))

/-- What the query sorts by, from the smallest one on. -/
def Search.key (search : Search) (row : StoredRecord R) : Int :=
  if search.direction = "asc" then row.metricTimestamp else -row.metricTimestamp

/-- The answer, for an order in which the server has put the matching rows. -/
def recordsPage (text : TimestampText) (search : Search) (limit offset total : Nat) (ordered : List (StoredRecord R)) :
    RecordsPage R :=
  let items := (page ordered offset limit).map (StoredRecord.item text)
  { items
    total
    limit
    offset
    returned := items.length
    hasMore := hasMore limit offset items.length (some total)
    sortBy := "metric_timestamp"
    sortOrder := search.direction
    anchorTime := if search.anchorTime = "" then none else some search.anchorTime }

/-- The results of `SearchDatasetRecords`. -/
def SearchRun (text : TimestampText) (table : RecordTable R) (runId : String) (search : Search) (limit offset : Nat)
    (out : Except Raised (RecordsPage R)) : Prop :=
  match matchingRecords text table runId search with
  | .error what => out = .error what
  | .ok matched => ∃ ordered, Arranged search.key matched ordered ∧
      out = .ok (recordsPage text search limit offset matched.length ordered)

/-- The records that a client collects from the answers to its calls. -/
def walkRecords (answers : Nat → Nat → RecordsPage R) : Nat → Nat → Nat → Option (List (RecordItem R)) :=
  follow fun call offset => (answers call offset).toAnswer

section Walks

variable {text : TimestampText} {table : RecordTable R} {runId : String} {search : Search} {limit : Nat}
  {matched : List (StoredRecord R)}

/-- The total of a page is the one that the drill-down compares with its chart. -/
theorem length_matchingRecords (text : TimestampText) (table : RecordTable R) (runId : String) (search : Search) :
    (matchingRecords text table runId search).map List.length =
      searchDatasetRecords text (table.rows.map StoredRecord.toArchivedRow) runId search := by
  have direction : (if search.sortOrder = "" then "desc" else search.sortOrder.map Char.toLower) = search.direction := rfl
  simp only [matchingRecords, searchDatasetRecords, selectRows, direction]
  by_cases column : search.sortBy ≠ "" ∧ search.sortBy ≠ "metric_timestamp"
  · rw [if_pos column, if_pos column]
    rfl
  · rw [if_neg column, if_neg column]
    by_cases order : search.direction ≠ "asc" ∧ search.direction ≠ "desc"
    · rw [if_pos order, if_pos order]
      rfl
    · rw [if_neg order, if_neg order]
      cases timeBound text search.filters.startTime with
      | error what => rfl
      | ok lower =>
        cases timeBound text search.filters.endTime with
        | error what => rfl
        | ok upper =>
          cases timeBound text search.anchorTime with
          | error what => rfl
          | ok anchor =>
            simp only [bind, Except.bind, pure, Except.pure, Except.map, List.filter_map, List.countP_map,
              List.countP_filter]
            rw [← List.countP_eq_length_filter]
            congr 1
            apply List.countP_congr
            intro row _
            simp only [Function.comp_apply, Bool.and_comm]

theorem matchingRecords_distinct (accepted : matchingRecords text table runId search = .ok matched) :
    (matched.map fun row => row.recordId).Nodup := by
  unfold matchingRecords at accepted
  split at accepted
  · cases accepted
  · split at accepted
    · cases accepted
    · obtain ⟨lower, -, accepted⟩ := Pca.bind_eq_ok accepted
      obtain ⟨upper, -, accepted⟩ := Pca.bind_eq_ok accepted
      obtain ⟨anchor, -, accepted⟩ := Pca.bind_eq_ok accepted
      cases accepted
      exact (List.filter_sublist.map _).nodup table.distinct

theorem searchRun_iff (accepted : matchingRecords text table runId search = .ok matched) {offset : Nat}
    {out : RecordsPage R} : SearchRun text table runId search limit offset (.ok out) ↔
      ∃ ordered, Arranged search.key matched ordered ∧ out = recordsPage text search limit offset matched.length ordered := by
  simp only [SearchRun, accepted, Except.ok.injEq]

theorem toAnswer_recordsPage (text : TimestampText) (search : Search) (limit offset total : Nat)
    (ordered : List (StoredRecord R)) : (recordsPage text search limit offset total ordered).toAnswer =
      answerOf (StoredRecord.item text) total limit offset ordered := rfl

/-- All runs of the queries page exactly if and only if no page ends between two records of the same time. -/
theorem records_paged_exactly_iff (positive : 0 < limit)
    (accepted : matchingRecords text table runId search = .ok matched) :
    (∀ answers : Nat → Nat → RecordsPage R,
      (∀ call offset, SearchRun text table runId search limit offset (.ok (answers call offset))) →
      ∃ fuel collected, walkRecords answers fuel 0 0 = some collected ∧
        (collected.map RecordItem.recordId).Perm (matched.map fun row => row.recordId)) ↔
      Separates limit (matched.map search.key) := by
  have ids : RecordItem.recordId ∘ StoredRecord.item text = fun row : StoredRecord R => row.recordId := rfl
  constructor
  · intro exact_
    by_contra tie
    obtain ⟨orders, allowed, twice⟩ := exists_walk_twice positive tie
    obtain ⟨fuel, collected, ended, all⟩ := exact_
      (fun call offset => recordsPage text search limit offset matched.length (orders call))
      fun call offset => (searchRun_iff accepted).mpr ⟨orders call, allowed call, rfl⟩
    simp only [walkRecords, toAnswer_recordsPage, follow_answerOf] at ended
    obtain ⟨rows, walked, rfl⟩ := Option.map_eq_some_iff.mp ended
    rw [List.map_map, ids] at all
    have once := all.nodup_iff.mpr (matchingRecords_distinct accepted)
    exact twice fuel rows walked (List.Nodup.of_map _ once)
  · intro separates answers runs
    have shows : ∀ call offset, ∃ ordered, Arranged search.key matched ordered ∧
        (answers call offset).toAnswer = answerOf (StoredRecord.item text) matched.length limit offset ordered := by
      intro call offset
      obtain ⟨ordered, order, same⟩ := (searchRun_iff accepted).mp (runs call offset)
      exact ⟨ordered, order, congrArg RecordsPage.toAnswer same⟩
    obtain ⟨fuel, collected, ended, all⟩ := follow_exact positive separates shows
    refine ⟨fuel, collected, ended, ?_⟩
    have named := all.map RecordItem.recordId
    rwa [List.map_map, ids] at named

end Walks

/-! ## Two hosts in one tick -/

/-- A record of the dataset `d` with its time. -/
def storedAt (recordId seconds : Int) : StoredRecord Int := ⟨recordAt recordId seconds, "p", none⟩

/-- Two records of the same time. -/
def oneTick : RecordTable Int := ⟨[storedAt 1 0, storedAt 2 0], by decide⟩

theorem oneTick_accepted : matchingRecords isoText oneTick "d" { filters := {} } = .ok [storedAt 1 0, storedAt 2 0] := by
  rfl

theorem oneTick_arranged :
    Arranged (Search.key { filters := {} }) [storedAt 1 0, storedAt 2 0] [storedAt 1 0, storedAt 2 0] ∧
      Arranged (Search.key { filters := {} }) [storedAt 1 0, storedAt 2 0] [storedAt 2 0, storedAt 1 0] := by
  have tie : Search.key { filters := {} } (storedAt 1 0) = Search.key { filters := {} } (storedAt 2 0) := rfl
  exact ⟨⟨List.Perm.refl _, by simp [tie]⟩, ⟨List.Perm.swap _ _ _, by simp [tie]⟩⟩

/-- The answers when the second query returns the tie in the order `again`. -/
def oneTickAnswers (limit : Nat) (again : List (StoredRecord Int)) (call offset : Nat) : RecordsPage Int :=
  recordsPage isoText { filters := {} } limit offset 2 (if call = 0 then [storedAt 1 0, storedAt 2 0] else again)

theorem oneTickAnswers_run (limit : Nat) {again : List (StoredRecord Int)}
    (order : Arranged (Search.key { filters := {} }) [storedAt 1 0, storedAt 2 0] again) (call offset : Nat) :
    SearchRun isoText oneTick "d" { filters := {} } limit offset (.ok (oneTickAnswers limit again call offset)) := by
  refine (searchRun_iff oneTick_accepted).mpr ⟨_, ?_, rfl⟩
  by_cases first : call = 0
  · simpa only [if_pos first] using oneTick_arranged.1
  · simpa only [if_neg first] using order

/-- A page for both of them. -/
theorem oneTick_one_page : ∃ fuel collected,
    walkRecords (oneTickAnswers 2 [storedAt 2 0, storedAt 1 0]) fuel 0 0 = some collected ∧
      (collected.map RecordItem.recordId).Perm [1, 2] :=
  (records_paged_exactly_iff Nat.two_pos oneTick_accepted).mpr (separates_of_length_le le_rfl) _
    (oneTickAnswers_run 2 oneTick_arranged.2)

/-- With a page for each, the second query may put the first record last again. -/
theorem oneTick_record_twice : ¬ ∀ (text : TimestampText) (table : RecordTable Int) (runId : String) (search : Search)
    (limit : Nat) (matched : List (StoredRecord Int)) (answers : Nat → Nat → RecordsPage Int), 0 < limit →
    matchingRecords text table runId search = .ok matched →
    (∀ call offset, SearchRun text table runId search limit offset (.ok (answers call offset))) →
    ∃ fuel collected, walkRecords answers fuel 0 0 = some collected ∧
      (collected.map RecordItem.recordId).Perm (matched.map fun row => row.recordId) := by
  intro exact_
  obtain ⟨fuel, collected, ended, all⟩ := exact_ isoText oneTick "d" { filters := {} } 1 _ _ Nat.one_pos
    oneTick_accepted (oneTickAnswers_run 1 oneTick_arranged.2)
  have twice : ∀ fuel, walkRecords (oneTickAnswers 1 [storedAt 2 0, storedAt 1 0]) (fuel + 2) 0 0 =
      some [(storedAt 1 0).item isoText, (storedAt 1 0).item isoText] := fun fuel => rfl
  match fuel, ended with
  | 0, ended => cases ended
  | 1, ended => cases ended
  | fuel + 2, ended =>
    rw [← Option.some.inj ((twice fuel).symm.trans ended)] at all
    revert all
    decide

end TelemetryLab.Analytics
