import TelemetryLab.Lib.Paging
import TelemetryLab.Scoring.Uniqueness

/-! A scoring worker left to itself scores every record of its dataset once.

The worker runs alone on its job, is not cancelled and meets no error, so its
steps form a single sequence. The size of a batch and the scorer are arbitrary;
the records the worker hands to `InsertDatasetScores` are logged with their scores.
-/

set_option autoImplicit false
namespace TelemetryLab.Scoring
open Jobs Paging

/-- The step of a worker that fetches `batch` rows at a time. -/
def scoreStepOf (batch : Nat) (db : Db) (call : ScoreCall) : ScorePc → Statement × Progress ScorePc
  | .fetch v =>
    let records := db.fetchScoringRowsAfterRecord call.datasetId v.lastRecord batch
    (.nothing, .goto (if records = [] then .finish v else .insert v records))
  | pc => scoreStep db false call pc .done

/-- The source has batches of 5000 rows. -/
theorem scoreStepOf_batchSize (db : Db) (call : ScoreCall) (pc : ScorePc) :
    scoreStepOf batchSize db call pc = scoreStep db false call pc .done := by
  cases pc <;> rfl

structure Solo (V : Type) where
  db : Db
  /-- Where the worker is, until it has ended. -/
  pc : Option ScorePc
  inserted : List (Int × V)

section Run

variable {V : Type} (batch : Nat) (scorer : Int → V) (call : ScoreCall)

def loggedScores : ScorePc → List (Int × V)
  | .insert _ records => records.map fun recordId => (recordId, scorer recordId)
  | _ => []

def Solo.step (s : Solo V) : Solo V :=
  match s.pc with
  | none => s
  | some pc =>
    let result := scoreStepOf batch s.db call pc
    ⟨s.db.run result.1, result.2.next, s.inserted ++ loggedScores scorer pc⟩

def Solo.after (db : Db) (n : Nat) : Solo V := (Solo.step batch scorer call)^[n] ⟨db, some .readJob, []⟩

end Run

/-! ## The records of a dataset -/

/-- The record ids of a dataset in increasing order. -/
def Db.records (db : Db) (datasetId : String) : List Int :=
  ((db.telemetry.entries.filter fun entry => decide (entry.2 = datasetId)).map Sigma.fst).insertionSort (· ≤ ·)

theorem records_sorted (db : Db) (datasetId : String) : (db.records datasetId).Pairwise (· < ·) := by
  have distinct : ((db.telemetry.entries.filter fun entry => decide (entry.2 = datasetId)).map Sigma.fst).Nodup :=
    (List.filter_sublist.map Sigma.fst).nodup db.telemetry.nodupKeys
  have sorted := List.pairwise_insertionSort (· ≤ ·)
    ((db.telemetry.entries.filter fun entry => decide (entry.2 = datasetId)).map Sigma.fst)
  have apart := (List.perm_insertionSort (· ≤ ·) _).nodup_iff.mpr distinct
  exact (sorted.and apart).imp fun both => lt_of_le_of_ne both.1 both.2

theorem mem_records {db : Db} {datasetId : String} {recordId : Int} :
    recordId ∈ db.records datasetId ↔ db.telemetry.lookup recordId = some datasetId := by
  rw [Db.records, List.mem_insertionSort]
  simp only [List.mem_map, List.mem_filter, decide_eq_true_eq]
  constructor
  · rintro ⟨⟨found, owner⟩, ⟨mem, rfl⟩, rfl⟩
    exact AList.mem_lookup_iff.mpr mem
  · intro found
    exact ⟨⟨recordId, datasetId⟩, ⟨AList.mem_lookup_iff.mp found, rfl⟩, rfl⟩

/-- `FetchScoringRowsAfterRecord` is a page of the records. -/
theorem fetch_eq_page (db : Db) (datasetId : String) (lastRecordId : Int) (limit : Nat) :
    db.fetchScoringRowsAfterRecord datasetId lastRecordId limit = page (db.records datasetId) lastRecordId limit := by
  have sortedRows (rows : List Int) : (rows.insertionSort (· ≤ ·)).Pairwise (· ≤ ·) :=
    List.pairwise_insertionSort (· ≤ ·) rows
  rw [Db.fetchScoringRowsAfterRecord, page, unseen, Db.records]
  congr 1
  -- both sides are sorted and hold the same rows
  refine List.Perm.eq_of_pairwise (fun _ _ _ _ => le_antisymm) (sortedRows _) ((sortedRows _).filter _) ?_
  refine (List.perm_insertionSort _ _).trans (List.Perm.trans ?_ ((List.perm_insertionSort _ _).filter _).symm)
  rw [List.filter_map, List.filter_filter]
  simp only [Function.comp_def, Bool.and_comm]
  exact List.Perm.refl _

theorem getDatasetRecordCount_eq (db : Db) (datasetId : String) :
    db.getDatasetRecordCount datasetId = (db.records datasetId).length := by
  simp [Db.getDatasetRecordCount, Db.records, List.countP_eq_length_filter]

/-! ## The invariant of the run

Cursor, counter and inserted records agree at every point of the loop. -/

section Invariant

variable {V : Type} (batch : Nat) (scorer : Int → V) (call : ScoreCall) (start : Db)

structure Tied (ids : List Int) (inserted : List (Int × V)) (v : Cursor) : Prop where
  total : v.total = ids.length
  upTo : inserted.map Prod.fst = seen ids v.lastRecord
  processed : v.processed = inserted.length

def Live (db : Db) : Prop :=
  ∃ row, db.jobs.lookup call.jobId = some row ∧ (row.status = .pending ∨ row.status = .running)

/-- What holds where the worker is. -/
def Located (s : Solo V) : Option ScorePc → Prop
  | some .readJob => s.inserted = [] ∧ ∃ row, s.db.jobs.lookup call.jobId = some row ∧
      (row.status = .pending ∨ row.status = .running) ∧ row.processedRows = 0 ∧ row.lastRecordId = 0
  | some (.count v) => s.inserted = [] ∧ Live call s.db ∧ v.processed = 0 ∧ v.lastRecord = 0
  | some (.transition v) => Tied (start.records call.datasetId) s.inserted v ∧ Live call s.db
  | some (.readBack v) => Tied (start.records call.datasetId) s.inserted v ∧
      ∃ row, s.db.jobs.lookup call.jobId = some row ∧ row.status = .running
  | some (.announce v) | some (.loadModel v) | some (.loop v) | some (.fetch v) | some (.progress v) =>
      Tied (start.records call.datasetId) s.inserted v ∧ ∃ row, s.db.jobs.lookup call.jobId = some row
  | some (.insert v records) => Tied (start.records call.datasetId) s.inserted v ∧
      (∃ row, s.db.jobs.lookup call.jobId = some row) ∧
      records = page (start.records call.datasetId) v.lastRecord batch ∧ records ≠ []
  | some (.finish v) | some (.completing v) => Tied (start.records call.datasetId) s.inserted v ∧
      (∃ row, s.db.jobs.lookup call.jobId = some row) ∧ unseen (start.records call.datasetId) v.lastRecord = []
  | none => s.inserted.map Prod.fst = start.records call.datasetId ∧
      ∃ row, s.db.jobs.lookup call.jobId = some row ∧ row.status = .completed ∧
        row.processedRows = (start.records call.datasetId).length ∧ row.totalRows = (start.records call.datasetId).length
  | some (.cancelling _) | some (.failing _) | some (.recordFailure _ _) => False

structure Consistent (s : Solo V) : Prop where
  telemetry : s.db.telemetry = start.telemetry
  scores : s.db.scores = start.scores ++ s.inserted.map fun entry => ⟨call.datasetId, call.modelRunId, entry.1⟩
  values : ∀ entry ∈ s.inserted, entry.2 = scorer entry.1
  located : Located batch call start s s.pc

/-- Steps that are left, at most: four for each turn of the loop. -/
def stepsLeft : Option ScorePc → Nat
  | some .readJob => 4 * (unseen (start.records call.datasetId) 0).length + 10
  | some (.count v) => 4 * (unseen (start.records call.datasetId) v.lastRecord).length + 9
  | some (.transition v) => 4 * (unseen (start.records call.datasetId) v.lastRecord).length + 8
  | some (.readBack v) => 4 * (unseen (start.records call.datasetId) v.lastRecord).length + 7
  | some (.announce v) => 4 * (unseen (start.records call.datasetId) v.lastRecord).length + 6
  | some (.loadModel v) => 4 * (unseen (start.records call.datasetId) v.lastRecord).length + 5
  | some (.progress v) => 4 * (unseen (start.records call.datasetId) v.lastRecord).length + 5
  | some (.loop v) => 4 * (unseen (start.records call.datasetId) v.lastRecord).length + 4
  | some (.fetch v) => 4 * (unseen (start.records call.datasetId) v.lastRecord).length + 3
  | some (.insert v _) => 4 * (unseen (start.records call.datasetId) v.lastRecord).length + 2
  | some (.finish _) => 2
  | some (.completing _) => 1
  | _ => 0

variable {batch scorer call start}

theorem records_congr {db : Db} (same : db.telemetry = start.telemetry) (datasetId : String) :
    db.records datasetId = start.records datasetId := by
  simp [Db.records, same]

theorem Tied.ofFresh {ids : List Int} (positive : ∀ recordId ∈ ids, 0 < recordId) {v : Cursor} (none : v.processed = 0)
    (first : v.lastRecord = 0) : Tied ids ([] : List (Int × V)) { v with total := ids.length } where
  total := rfl
  upTo := by
    rw [first, List.map_nil, eq_comm]
    exact List.filter_eq_nil_iff.mpr fun recordId mem => by simpa using positive recordId mem
  processed := none

/-- The cursor after a batch has been stored. -/
theorem Tied.ofBatch {ids : List Int} (sorted : ids.Pairwise (· < ·)) {inserted : List (Int × V)} {v : Cursor}
    (tied : Tied ids inserted v) (value : Int → V) {records : List Int} (fetched : records = page ids v.lastRecord batch)
    (some : records ≠ []) : Tied ids (inserted ++ records.map fun recordId => (recordId, value recordId))
      ⟨v.total, v.processed + records.length, records.getLastD v.lastRecord⟩ where
  total := tied.total
  upTo := by
    subst fetched
    rw [seen_page sorted v.lastRecord batch some, List.map_append, tied.upTo, List.map_map]
    simp [Function.comp_def]
  processed := by simp [tied.processed]

/-- `UpdateScoreJob` on the row of the call. -/
theorem lookup_updateScoreJob {db : Db} {row : ScoreJob} (found : db.jobs.lookup call.jobId = some row)
    (status : JobState) (v : Cursor) :
    (db.run (.updateScoreJob call.jobId status v.total v.processed v.lastRecord "")).jobs.lookup call.jobId =
      some (row.update db.clock status v.total v.processed v.lastRecord "") := by
  simp [Db.run, found]

/-- A step that keeps the invariant and brings the end nearer. -/
def Advances (batch : Nat) (scorer : Int → V) (call : ScoreCall) (start : Db) (s : Solo V) : Prop :=
  Consistent batch scorer call start (s.step batch scorer call) ∧
    stepsLeft call start (s.step batch scorer call).pc < stepsLeft call start s.pc

/-- A step that stores no score: its statement touches the job table at most. -/
theorem Consistent.advances {db : Db} {pc : ScorePc} {inserted : List (Int × V)}
    (consistent : Consistent batch scorer call start ⟨db, some pc, inserted⟩) {statement : Statement}
    {progress : Progress ScorePc} (acts : scoreStepOf batch db call pc = (statement, progress))
    (silent : loggedScores scorer pc = []) (telemetry : (db.run statement).telemetry = db.telemetry)
    (scores : (db.run statement).scores = db.scores)
    (located : Located batch call start ⟨db.run statement, progress.next, inserted⟩ progress.next)
    (fewer : stepsLeft call start progress.next < stepsLeft call start (some pc)) :
    Advances batch scorer call start ⟨db, some pc, inserted⟩ := by
  have moved : (⟨db, some pc, inserted⟩ : Solo V).step batch scorer call =
      ⟨db.run statement, progress.next, inserted⟩ := by
    simp only [Solo.step, acts, silent, List.append_nil]
  unfold Advances
  rw [moved]
  exact ⟨⟨telemetry.trans consistent.telemetry, scores.trans consistent.scores, consistent.values, located⟩, fewer⟩

section Steps

attribute [local simp] stepsLeft Progress.next

variable {db : Db} {inserted : List (Int × V)} {v : Cursor}

theorem Consistent.readJob (consistent : Consistent batch scorer call start ⟨db, some .readJob, inserted⟩) :
    Advances batch scorer call start ⟨db, some .readJob, inserted⟩ := by
  obtain ⟨rfl, row, found, status, processed, last⟩ := consistent.located
  have acts : scoreStepOf batch db call .readJob = (.nothing, .goto (.count row.cursor)) := by
    simp only [scoreStepOf, scoreStep]
    rw [found]
  exact consistent.advances acts rfl rfl rfl ⟨rfl, ⟨row, found, status⟩, processed, last⟩
    (by simp [ScoreJob.cursor, last])

theorem Consistent.count (consistent : Consistent batch scorer call start ⟨db, some (.count v), inserted⟩)
    (positive : ∀ recordId ∈ start.records call.datasetId, 0 < recordId) :
    Advances batch scorer call start ⟨db, some (.count v), inserted⟩ := by
  obtain ⟨rfl, live, processed, last⟩ := consistent.located
  have acts : scoreStepOf batch db call (.count v) =
      (.nothing, .goto (.transition { v with total := (start.records call.datasetId).length })) := by
    simp only [scoreStepOf, scoreStep, getDatasetRecordCount_eq, records_congr consistent.telemetry]
  exact consistent.advances acts rfl rfl rfl ⟨Tied.ofFresh positive processed last, live⟩
    (by simp)

theorem Consistent.transition (consistent : Consistent batch scorer call start ⟨db, some (.transition v), inserted⟩) :
    Advances batch scorer call start ⟨db, some (.transition v), inserted⟩ := by
  obtain ⟨tied, row, found, status⟩ := consistent.located
  have after : (db.run (.transitionStatus call.jobId .pending .running)).jobs.lookup call.jobId =
      some (row.transition db.clock .pending .running) := by
    rw [Db.run, Table.lookup_modify_self, found]
    rfl
  rcases status with pending | started
  · have acts : scoreStepOf batch db call (.transition v) =
        (.transitionStatus call.jobId .pending .running, .goto (.announce v)) := by
      simp [scoreStepOf, scoreStep, found, pending]
    exact consistent.advances acts rfl rfl rfl ⟨tied, _, after⟩ (by simp)
  · have acts : scoreStepOf batch db call (.transition v) =
        (.transitionStatus call.jobId .pending .running, .goto (.readBack v)) := by
      simp [scoreStepOf, scoreStep, found, started]
    exact consistent.advances acts rfl rfl rfl ⟨tied, _, after, by simp [ScoreJob.transition, started]⟩
      (by simp)

theorem Consistent.readBack (consistent : Consistent batch scorer call start ⟨db, some (.readBack v), inserted⟩) :
    Advances batch scorer call start ⟨db, some (.readBack v), inserted⟩ := by
  obtain ⟨tied, row, found, status⟩ := consistent.located
  have acts : scoreStepOf batch db call (.readBack v) = (.nothing, .goto (.announce v)) := by
    simp [scoreStepOf, scoreStep, found, status]
  exact consistent.advances acts rfl rfl rfl ⟨tied, row, found⟩ (by simp)

theorem Consistent.fetch (consistent : Consistent batch scorer call start ⟨db, some (.fetch v), inserted⟩)
    (room : 0 < batch) : Advances batch scorer call start ⟨db, some (.fetch v), inserted⟩ := by
  obtain ⟨tied, row, found⟩ := consistent.located
  have fetched : db.fetchScoringRowsAfterRecord call.datasetId v.lastRecord batch =
      page (start.records call.datasetId) v.lastRecord batch := by
    rw [fetch_eq_page, records_congr consistent.telemetry]
  by_cases empty : page (start.records call.datasetId) v.lastRecord batch = []
  · have acts : scoreStepOf batch db call (.fetch v) = (.nothing, .goto (.finish v)) := by
      simp only [scoreStepOf, fetched, if_pos empty]
    exact consistent.advances acts rfl rfl rfl ⟨tied, ⟨row, found⟩, unseen_of_page_eq_nil room empty⟩
      (by simp)
  · have acts : scoreStepOf batch db call (.fetch v) =
        (.nothing, .goto (.insert v (page (start.records call.datasetId) v.lastRecord batch))) := by
      simp only [scoreStepOf, fetched, if_neg empty]
    exact consistent.advances acts rfl rfl rfl ⟨tied, ⟨row, found⟩, rfl, empty⟩ (by simp)

/-- The only step that stores scores. -/
theorem Consistent.insert {records : List Int}
    (consistent : Consistent batch scorer call start ⟨db, some (.insert v records), inserted⟩) :
    Advances batch scorer call start ⟨db, some (.insert v records), inserted⟩ := by
  obtain ⟨tied, ⟨row, found⟩, fetched, present⟩ := consistent.located
  have sorted := records_sorted start call.datasetId
  have before : db.scores = _ := consistent.scores
  refine ⟨⟨consistent.telemetry, ?_, ?_, ⟨tied.ofBatch sorted scorer fetched present, row, found⟩⟩, ?_⟩
  · simp [Solo.step, scoreStepOf, scoreStep, Db.run, loggedScores, before, Function.comp_def]
  · intro entry mem
    rcases List.mem_append.mp mem with old | new
    · exact consistent.values entry old
    · obtain ⟨recordId, -, rfl⟩ := List.mem_map.mp new
      rfl
  · subst fetched
    have fewer := unseen_page_lt sorted v.lastRecord batch present
    simp only [stepsLeft, Solo.step, scoreStepOf, scoreStep, Progress.next]
    omega

theorem Consistent.completing (consistent : Consistent batch scorer call start ⟨db, some (.completing v), inserted⟩) :
    Advances batch scorer call start ⟨db, some (.completing v), inserted⟩ := by
  obtain ⟨tied, ⟨row, found⟩, finished⟩ := consistent.located
  have all : inserted.map Prod.fst = start.records call.datasetId := by
    have parts := seen_append_unseen (records_sorted start call.datasetId) v.lastRecord
    rw [finished, List.append_nil] at parts
    exact tied.upTo.trans parts
  have length : inserted.length = (start.records call.datasetId).length := by rw [← all, List.length_map]
  have acts : scoreStepOf batch db call (.completing v) =
      (.updateScoreJob call.jobId .completed v.total v.processed v.lastRecord "", .returns) := rfl
  refine consistent.advances acts rfl rfl rfl ⟨all, _, lookup_updateScoreJob found .completed v, ?_, ?_, ?_⟩ ?_
  · simp
  · simp [ScoreJob.update, tied.processed, length]
  · simp [ScoreJob.update, tied.total]
  · simp

end Steps

theorem Consistent.step (room : 0 < batch) (positive : ∀ recordId ∈ start.records call.datasetId, 0 < recordId)
    {s : Solo V} (consistent : Consistent batch scorer call start s) (running : s.pc ≠ none) :
    Advances batch scorer call start s := by
  obtain ⟨db, pc, inserted⟩ := s
  cases pc with
  | none => exact absurd rfl running
  | some pc =>
    cases pc with
    | readJob => exact consistent.readJob
    | count v => exact consistent.count positive
    | transition v => exact consistent.transition
    | readBack v => exact consistent.readBack
    | announce v =>
      obtain ⟨tied, row, found⟩ := consistent.located
      exact consistent.advances rfl rfl rfl rfl ⟨tied, _, lookup_updateScoreJob found .running v⟩
        (Nat.lt_succ_self _)
    | loadModel v =>
      obtain ⟨tied, row, found⟩ := consistent.located
      exact consistent.advances rfl rfl rfl rfl ⟨tied, row, found⟩ (Nat.lt_succ_self _)
    | loop v =>
      obtain ⟨tied, row, found⟩ := consistent.located
      exact consistent.advances rfl rfl rfl rfl ⟨tied, row, found⟩ (Nat.lt_succ_self _)
    | fetch v => exact consistent.fetch room
    | insert v records => exact consistent.insert
    | progress v =>
      obtain ⟨tied, row, found⟩ := consistent.located
      exact consistent.advances rfl rfl rfl rfl ⟨tied, _, lookup_updateScoreJob found .running v⟩
        (Nat.lt_succ_self _)
    | finish v =>
      obtain ⟨tied, ⟨row, found⟩, finished⟩ := consistent.located
      exact consistent.advances rfl rfl rfl rfl ⟨tied, ⟨row, found⟩, finished⟩ (Nat.lt_succ_self _)
    | completing v => exact consistent.completing
    | cancelling v => exact consistent.located.elim
    | failing what => exact consistent.located.elim
    | recordFailure v what => exact consistent.located.elim

/-! ## The run -/

variable (batch scorer call start) in
theorem after_succ (n : Nat) :
    (Solo.after batch scorer call start (n + 1) : Solo V) = (Solo.after batch scorer call start n).step batch scorer call :=
  Function.iterate_succ_apply' _ n _

/-- A job as `CreateScoreJob` leaves it, or whose worker is started once more before any progress. -/
structure Fresh (call : ScoreCall) (db : Db) : Prop where
  row : ∃ row, db.jobs.lookup call.jobId = some row ∧ (row.status = .pending ∨ row.status = .running) ∧
    row.processedRows = 0 ∧ row.lastRecordId = 0
  positive : ∀ recordId, db.telemetry.lookup recordId = some call.datasetId → 0 < recordId

theorem Fresh.consistent (fresh : Fresh call start) (room : 0 < batch) (scorer : Int → V) (n : Nat) :
    Consistent batch scorer call start (Solo.after batch scorer call start n) := by
  have positive : ∀ recordId ∈ start.records call.datasetId, 0 < recordId :=
    fun recordId mem => fresh.positive recordId (mem_records.mp mem)
  induction n with
  | zero => exact ⟨rfl, by simp [Solo.after], by simp [Solo.after], ⟨rfl, fresh.row⟩⟩
  | succ n ih =>
    rw [after_succ]
    by_cases running : (Solo.after batch scorer call start n : Solo V).pc = none
    · have stays : (Solo.after batch scorer call start n : Solo V).step batch scorer call =
          Solo.after batch scorer call start n := by simp only [Solo.step, running]
      rwa [stays]
    · exact (ih.step room positive running).1

theorem Fresh.ends (fresh : Fresh call start) (room : 0 < batch) (scorer : Int → V) :
    ∃ n, (Solo.after batch scorer call start n : Solo V).pc = none := by
  have positive : ∀ recordId ∈ start.records call.datasetId, 0 < recordId :=
    fun recordId mem => fresh.positive recordId (mem_records.mp mem)
  have within (k : Nat) : ∀ n, stepsLeft call start (Solo.after batch scorer call start n : Solo V).pc < k →
      ∃ m, (Solo.after batch scorer call start m : Solo V).pc = none := by
    induction k with
    | zero => exact fun n none => absurd none (Nat.not_lt_zero _)
    | succ k ih =>
      intro n bound
      by_cases running : (Solo.after batch scorer call start n : Solo V).pc = none
      · exact ⟨n, running⟩
      · have nearer := ((fresh.consistent room scorer n).step room positive running).2
        rw [← after_succ] at nearer
        exact ih (n + 1) (by omega)
  exact within _ 0 (Nat.lt_succ_self _)

/-- A progress update stores the cursor and nothing else. -/
theorem Solo.step_progress {s : Solo V} {v : Cursor} (here : s.pc = some (.progress v)) :
    s.step batch scorer call =
      ⟨s.db.run (.updateScoreJob call.jobId .running v.total v.processed v.lastRecord ""), some (.loop v), s.inserted⟩ := by
  simp [Solo.step, here, scoreStepOf, scoreStep, updateOr, Progress.next, loggedScores]

/-- The records up to a cursor, counted in the table. -/
theorem length_seen_records (db : Db) (datasetId : String) (cursor : Int) :
    (seen (db.records datasetId) cursor).length =
      db.telemetry.entries.countP fun entry => decide (entry.2 = datasetId) && decide (entry.1 ≤ cursor) := by
  rw [seen, ← List.countP_eq_length_filter, Db.records, (List.perm_insertionSort _ _).countP_eq, List.countP_map,
    List.countP_filter]
  simp only [Function.comp_def, Bool.and_comm]

/-- A worker that starts on a fresh job, alone, uncancelled and without errors,
ends `COMPLETED` and has scored every record of its dataset once; after every
progress update the counter agrees with the scores and with the cursor. -/
theorem scores_exactly_once {V : Type} (batch : Nat) (room : 1 ≤ batch) (scorer : Int → V) (call : ScoreCall) (db : Db)
    (fresh : Fresh call db) :
    (∃ n, let final := Solo.after batch scorer call db n
      final.pc = none ∧ (final.inserted.map Prod.fst).Nodup ∧
      (∀ recordId, recordId ∈ final.inserted.map Prod.fst ↔ db.telemetry.lookup recordId = some call.datasetId) ∧
      (∀ entry ∈ final.inserted, entry.2 = scorer entry.1) ∧
      final.db.scores = db.scores ++ final.inserted.map (fun entry => ⟨call.datasetId, call.modelRunId, entry.1⟩) ∧
      ∃ row, final.db.jobs.lookup call.jobId = some row ∧ row.status = .completed ∧ row.processedRows = row.totalRows) ∧
    ∀ n v, (Solo.after batch scorer call db n).pc = some (.progress v) →
      let updated := Solo.after batch scorer call db (n + 1)
      ∃ row, updated.db.jobs.lookup call.jobId = some row ∧ row.processedRows = updated.inserted.length ∧
        row.processedRows = (db.telemetry.entries.countP fun entry =>
          decide (entry.2 = call.datasetId) && decide (entry.1 ≤ row.lastRecordId) : Nat) := by
  constructor
  · obtain ⟨n, ended⟩ := fresh.ends room scorer
    have consistent := fresh.consistent room scorer n
    have located := consistent.located
    rw [ended] at located
    obtain ⟨all, row, found, completed, processed, total⟩ := located
    refine ⟨n, ended, ?_, ?_, consistent.values, consistent.scores, row, found, completed, processed.trans total.symm⟩
    · rw [all]
      exact (records_sorted db call.datasetId).imp fun less => less.ne
    · intro recordId
      rw [all, mem_records]
  · intro n v here
    have consistent := fresh.consistent room scorer n
    have located := consistent.located
    rw [here] at located
    obtain ⟨tied, row, found⟩ := located
    rw [after_succ, Solo.step_progress here]
    refine ⟨_, lookup_updateScoreJob found .running v, by simp [ScoreJob.update, tied.processed], ?_⟩
    have counted : (Solo.after batch scorer call db n).inserted.length =
        (seen (db.records call.datasetId) v.lastRecord).length := by
      rw [← tied.upTo, List.length_map]
    simp [ScoreJob.update, tied.processed, counted, length_seen_records]

end Invariant

/-- Three records of one dataset, one of another, and a new job. -/
def twoDatasets : Db where
  clock := 0
  jobs := (∅ : Table String ScoreJob).insert "j" (.inserted "d" "m" "r" 0)
  scores := []
  telemetry := (((∅ : Table Int String).insert 4 "d").insert 9 "e" |>.insert 2 "d").insert 7 "d"

theorem scores_exactly_once_twoDatasets :
    ∃ n, let final := Solo.after 2 (fun recordId => recordId) ⟨"j", "d", "m", "r"⟩ twoDatasets n
      final.pc = none ∧ final.inserted.length = 3 ∧
        ∃ row, final.db.jobs.lookup "j" = some row ∧ row.status = .completed := by
  have records : twoDatasets.records "d" = [2, 4, 7] := by decide
  have fresh : Fresh ⟨"j", "d", "m", "r"⟩ twoDatasets := by
    refine ⟨⟨.inserted "d" "m" "r" 0, by decide, by decide⟩, fun recordId found => ?_⟩
    have member := mem_records.mpr found
    rw [records] at member
    revert member
    simp +contextual
    omega
  obtain ⟨⟨n, ended, distinct, same, -, -, row, found, completed, -⟩, -⟩ :=
    scores_exactly_once 2 (by decide) (fun recordId => recordId) ⟨"j", "d", "m", "r"⟩ twoDatasets fresh
  refine ⟨n, ended, ?_, row, found, completed⟩
  have covered := (List.perm_ext_iff_of_nodup distinct (by decide : [(2 : Int), 4, 7].Nodup)).mpr fun recordId => by
    rw [same, ← mem_records, records]
  simpa using covered.length_eq

end TelemetryLab.Scoring
