import TelemetryLab.Lib.Paging
import TelemetryLab.Pca.Trainer

/-! Training from the database (`training/telemetry_iterator.cpp` and
`TrainPcaFromDbBatched` in `training/pca_trainer.cpp`).

One iterator serves the three passes of the trainer: each call of `for_each`
resets it and fetches batches until one fetch answers false, which it does at
the end of the data and for every exception alike. Which fetches raise one is an
input, the `Outages`.
-/

set_option autoImplicit false
namespace TelemetryLab.Pca
open Paging

variable {R : Type}

/-- The columns of `host_telemetry_archival` that training reads. -/
structure TelemetryRow (R : Type) where
  recordId : Int
  runId : String
  cpuUsage : R
  memoryUsage : R
  diskUtilization : R
  networkRxRate : R
  networkTxRate : R

def TelemetryRow.vector (row : TelemetryRow R) : List R :=
  [row.cpuUsage, row.memoryUsage, row.diskUtilization, row.networkRxRate, row.networkTxRate]

/-- The table `host_telemetry_archival`; its `record_id` is a `BIGSERIAL`. -/
structure TelemetryTable (R : Type) where
  rows : List (TelemetryRow R)
  positive : ∀ row ∈ rows, 0 < row.recordId
  distinct : (rows.map TelemetryRow.recordId).Nodup

namespace TelemetryTable

/-- `ORDER BY record_id` -/
def orderByRecordId (rows : List (TelemetryRow R)) : List (TelemetryRow R) :=
  rows.insertionSort fun a b => a.recordId ≤ b.recordId

/-- The statement `get_telemetry_batch`. -/
def getTelemetryBatch (table : TelemetryTable R) (datasetId : String) (lastRecordId : Int) (batchSize : Nat) :
    List (TelemetryRow R) :=
  (orderByRecordId (table.rows.filter fun row => decide (row.runId = datasetId) && decide (lastRecordId < row.recordId)))
    |>.take batchSize

/-- The rows of a dataset in increasing order of their ids. -/
def dataset (table : TelemetryTable R) (datasetId : String) : List (TelemetryRow R) :=
  orderByRecordId (table.rows.filter fun row => decide (row.runId = datasetId))

end TelemetryTable

/-- Where an exception comes from while a batch is fetched. -/
inductive Outage where
  | connection
  | query
  /-- A column of the row at this place of the result does not convert. -/
  | conversion (place : Nat)
  deriving DecidableEq, Repr

/-- The exceptions of the fetches: of each pass, of each of its fetches. -/
def Outages := Nat → Nat → Option Outage

structure TelemetryBatchIterator where
  datasetId : String
  batchSize : Nat
  lastRecordId : Int := 0
  totalProcessed : Nat := 0

/-- What one call of `NextBatch` answers. -/
structure Fetch (R : Type) where
  answer : Bool
  outBatch : List (List R)
  iter : TelemetryBatchIterator
  /-- The exception its catch clause has logged. -/
  caught : Option Outage

namespace TelemetryBatchIterator

def reset (iter : TelemetryBatchIterator) : TelemetryBatchIterator :=
  { iter with lastRecordId := 0, totalProcessed := 0 }

/-- The body of the loop over a result. -/
def takeRow (state : TelemetryBatchIterator × List (List R)) (row : TelemetryRow R) :
    TelemetryBatchIterator × List (List R) :=
  ({ state.1 with lastRecordId := row.recordId }, state.2 ++ [row.vector])

def nextBatch (table : TelemetryTable R) (outage : Option Outage) (iter : TelemetryBatchIterator) : Fetch R :=
  match outage with
  | some .connection => ⟨false, [], iter, some .connection⟩
  | some .query => ⟨false, [], iter, some .query⟩
  | outage =>
    let res := table.getTelemetryBatch iter.datasetId iter.lastRecordId iter.batchSize
    if res.isEmpty then ⟨false, [], iter, none⟩
    else
      let converted := match outage with
        | some (.conversion place) => res.take place
        | _ => res
      let (iter, outBatch) := converted.foldl takeRow (iter, [])
      if converted.length < res.length then ⟨false, outBatch, iter, outage⟩
      else ⟨true, outBatch, { iter with totalProcessed := iter.totalProcessed + outBatch.length }, none⟩

end TelemetryBatchIterator

/-- What one call of `for_each` has done. -/
structure Drained (R : Type) where
  iter : TelemetryBatchIterator
  /-- The vectors handed to the callback. -/
  rows : List (List R)
  batchCount : Nat
  heartbeats : Nat
  /-- The exception behind the fetch that ended the loop, if there was one. -/
  caught : Option Outage

/-- The body of the loop of `for_each`. -/
def Drained.advance (state : Drained R) (fetch : Fetch R) : Drained R :=
  let batchCount := state.batchCount + 1
  let heartbeats := if batchCount % 10 = 0 then state.heartbeats + 1 else state.heartbeats
  ⟨fetch.iter, state.rows ++ fetch.outBatch, batchCount, heartbeats, none⟩

/-- The loop of `for_each`, for at most `fuel` fetches. -/
def drain (table : TelemetryTable R) (outages : Nat → Option Outage) : Nat → Drained R → Drained R
  | 0, state => state
  | fuel + 1, state =>
    let fetch := state.iter.nextBatch table (outages state.batchCount)
    if fetch.answer then drain table outages fuel (state.advance fetch)
    else { state with iter := fetch.iter, caught := fetch.caught }

/-- One call of `for_each`. Every batch holds a row at least, so the rows of the
table bound the number of fetches. -/
def forEachBatch (table : TelemetryTable R) (outages : Nat → Option Outage) (iter : TelemetryBatchIterator) :
    Drained R :=
  drain table outages (table.rows.length + 1) ⟨iter.reset, [], 0, 0, none⟩

/-- The iterator as the given call of `for_each` finds it. -/
def iteratorAt (table : TelemetryTable R) (outages : Outages) (iter : TelemetryBatchIterator) :
    Nat → TelemetryBatchIterator
  | 0 => iter
  | call + 1 => (forEachBatch table (outages call) (iteratorAt table outages iter call)).iter

def drainedAt (table : TelemetryTable R) (outages : Outages) (iter : TelemetryBatchIterator) (call : Nat) : Drained R :=
  forEachBatch table (outages call) (iteratorAt table outages iter call)

/-- The passes as the trainer sees them. -/
def batchedPass (table : TelemetryTable R) (outages : Outages) (iter : TelemetryBatchIterator) (call : Nat) : Pass R :=
  ⟨(drainedAt table outages iter call).rows, none⟩

def trainPcaFromDbBatched [Arith R] (table : TelemetryTable R) (outages : Outages) (datasetId : String)
    (nComponents : Int) (percentile : R) (batchSize : Nat) : Except Thrown (PcaArtifact R) :=
  trainPcaFromStream (batchedPass table outages { datasetId, batchSize }) kSize nComponents percentile

/-! ## A page of the dataset -/

namespace TelemetryTable

variable (table : TelemetryTable R) (datasetId : String)

theorem orderByRecordId_perm (rows : List (TelemetryRow R)) : (orderByRecordId rows).Perm rows :=
  List.perm_insertionSort _ rows

theorem orderByRecordId_sorted {rows : List (TelemetryRow R)} (distinct : (rows.map TelemetryRow.recordId).Nodup) :
    (orderByRecordId rows).Pairwise fun a b => a.recordId < b.recordId := by
  have : Std.Total fun a b : TelemetryRow R => a.recordId ≤ b.recordId := ⟨fun a b => le_total a.recordId b.recordId⟩
  have : IsTrans (TelemetryRow R) fun a b => a.recordId ≤ b.recordId := ⟨fun _ _ _ => le_trans⟩
  have sorted : (orderByRecordId rows).Pairwise fun a b => a.recordId ≤ b.recordId := List.pairwise_insertionSort _ rows
  have apart : (orderByRecordId rows).Pairwise fun a b => a.recordId ≠ b.recordId :=
    List.pairwise_map.mp (((orderByRecordId_perm rows).map TelemetryRow.recordId).nodup_iff.mpr distinct)
  exact (sorted.and apart).imp fun both => lt_of_le_of_ne both.1 both.2

theorem distinct_filter (p : TelemetryRow R → Bool) : ((table.rows.filter p).map TelemetryRow.recordId).Nodup :=
  (List.filter_sublist.map TelemetryRow.recordId).nodup table.distinct

theorem dataset_sorted : (table.dataset datasetId).Pairwise fun a b => a.recordId < b.recordId :=
  orderByRecordId_sorted (table.distinct_filter _)

theorem dataset_positive : ∀ row ∈ table.dataset datasetId, 0 < row.recordId := by
  intro row member
  have chosen := (orderByRecordId_perm _).mem_iff.mp member
  exact table.positive row (List.mem_filter.mp chosen).1

theorem dataset_length_le : (table.dataset datasetId).length ≤ table.rows.length := by
  rw [dataset, (orderByRecordId_perm _).length_eq]
  exact List.length_filter_le _ _

/-- Filtering before or after the rows are sorted gives the same page. -/
theorem getTelemetryBatch_eq (lastRecordId : Int) (batchSize : Nat) :
    table.getTelemetryBatch datasetId lastRecordId batchSize =
      ((table.dataset datasetId).filter fun row => decide (lastRecordId < row.recordId)).take batchSize := by
  have same : ∀ p q : TelemetryRow R → Bool,
      orderByRecordId (table.rows.filter fun row => p row && q row) =
        (orderByRecordId (table.rows.filter p)).filter q := by
    intro p q
    refine List.Perm.eq_of_pairwise (fun a b _ _ below above => absurd below (not_lt.mpr above.le))
      (orderByRecordId_sorted (table.distinct_filter _)) ((orderByRecordId_sorted (table.distinct_filter p)).filter q) ?_
    refine (orderByRecordId_perm _).trans (List.Perm.trans ?_ ((orderByRecordId_perm _).filter q).symm)
    rw [List.filter_filter]
    simp only [Bool.and_comm]
    exact List.Perm.refl _
  rw [getTelemetryBatch, dataset, ← same]

/-- The page behind the first `n` rows. -/
theorem getTelemetryBatch_after (n batchSize : Nat) :
    table.getTelemetryBatch datasetId (cursorAfter TelemetryRow.recordId 0 ((table.dataset datasetId).take n))
        batchSize =
      ((table.dataset datasetId).drop n).take batchSize := by
  rw [getTelemetryBatch_eq, filter_cursorAfter (table.dataset_sorted datasetId) (table.dataset_positive datasetId)]

end TelemetryTable

/-! ## One fetch -/

/-- Whether the exception is raised, for a result of this size. -/
def Outage.raised : Option Outage → Nat → Bool
  | none, _ => false
  | some .connection, _ => true
  | some .query, _ => true
  | some (.conversion place), size => decide (place < size)

theorem cursorAfter_append (start : Int) (done page : List (TelemetryRow R)) :
    cursorAfter TelemetryRow.recordId start (done ++ page) =
      cursorAfter TelemetryRow.recordId (cursorAfter TelemetryRow.recordId start done) page := by
  rcases List.eq_nil_or_concat page with rfl | ⟨init, last, rfl⟩
  · simp [cursorAfter]
  · simp [cursorAfter, ← List.append_assoc]

theorem foldl_takeRow (rows : List (TelemetryRow R)) (iter : TelemetryBatchIterator) (outBatch : List (List R)) :
    rows.foldl TelemetryBatchIterator.takeRow (iter, outBatch) =
      ({ iter with lastRecordId := cursorAfter TelemetryRow.recordId iter.lastRecordId rows },
        outBatch ++ rows.map TelemetryRow.vector) := by
  induction rows generalizing iter outBatch with
  | nil => simp [cursorAfter]
  | cons row rows ih =>
    have next : cursorAfter TelemetryRow.recordId iter.lastRecordId (row :: rows) =
        cursorAfter TelemetryRow.recordId row.recordId rows := cursorAfter_append _ [row] rows
    rw [List.foldl_cons, TelemetryBatchIterator.takeRow, ih, next]
    simp

section Fetch

variable {table : TelemetryTable R} {datasetId : String} {batchSize fetches : Nat} {iter : TelemetryBatchIterator}
  {outage : Option Outage}

/-- The rows a fetch reads when that many came before it. -/
def batchAt (table : TelemetryTable R) (datasetId : String) (batchSize fetches : Nat) : List (TelemetryRow R) :=
  ((table.dataset datasetId).drop (fetches * batchSize)).take batchSize

/-- The iterator after some fetches of one pass. -/
structure Reads (table : TelemetryTable R) (datasetId : String) (batchSize fetches : Nat)
    (iter : TelemetryBatchIterator) : Prop where
  ofDataset : iter.datasetId = datasetId
  ofSize : iter.batchSize = batchSize
  cursor : iter.lastRecordId =
    cursorAfter TelemetryRow.recordId 0 ((table.dataset datasetId).take (fetches * batchSize))

theorem Reads.result (reads : Reads table datasetId batchSize fetches iter) :
    table.getTelemetryBatch iter.datasetId iter.lastRecordId iter.batchSize =
      batchAt table datasetId batchSize fetches := by
  rw [reads.ofDataset, reads.ofSize, reads.cursor, TelemetryTable.getTelemetryBatch_after, batchAt]

theorem Reads.next (reads : Reads table datasetId batchSize fetches iter) (total : Nat) :
    Reads table datasetId batchSize (fetches + 1) { iter with
      lastRecordId := cursorAfter TelemetryRow.recordId iter.lastRecordId (batchAt table datasetId batchSize fetches)
      totalProcessed := total } := by
  refine ⟨reads.ofDataset, reads.ofSize, ?_⟩
  rw [Nat.succ_mul, List.take_add, cursorAfter_append, ← reads.cursor]
  rfl

theorem Reads.fetch_raised (reads : Reads table datasetId batchSize fetches iter)
    (raised : Outage.raised outage (batchAt table datasetId batchSize fetches).length = true) :
    (iter.nextBatch table outage).answer = false ∧ (iter.nextBatch table outage).caught = outage := by
  rcases outage with _ | _ | _ | place
  · cases raised
  · exact ⟨rfl, rfl⟩
  · exact ⟨rfl, rfl⟩
  · have inside : place < (batchAt table datasetId batchSize fetches).length := of_decide_eq_true raised
    have some : batchAt table datasetId batchSize fetches ≠ [] := List.ne_nil_of_length_pos (by omega)
    have short : min place (batchAt table datasetId batchSize fetches).length <
        (batchAt table datasetId batchSize fetches).length := by omega
    simp only [TelemetryBatchIterator.nextBatch, reads.result, List.isEmpty_iff, some, if_false, List.length_take, short,
      if_true, and_self]

theorem Reads.fetch_empty (reads : Reads table datasetId batchSize fetches iter)
    (calm : Outage.raised outage (batchAt table datasetId batchSize fetches).length = false)
    (empty : batchAt table datasetId batchSize fetches = []) :
    (iter.nextBatch table outage).answer = false ∧ (iter.nextBatch table outage).caught = none := by
  rcases outage with _ | _ | _ | place
  · simp [TelemetryBatchIterator.nextBatch, reads.result, empty]
  · cases calm
  · cases calm
  · simp [TelemetryBatchIterator.nextBatch, reads.result, empty]

theorem Reads.fetch_rows (reads : Reads table datasetId batchSize fetches iter)
    (calm : Outage.raised outage (batchAt table datasetId batchSize fetches).length = false)
    (some : batchAt table datasetId batchSize fetches ≠ []) :
    (iter.nextBatch table outage).answer = true ∧
      (iter.nextBatch table outage).outBatch = (batchAt table datasetId batchSize fetches).map TelemetryRow.vector ∧
      Reads table datasetId batchSize (fetches + 1) (iter.nextBatch table outage).iter := by
  have done : iter.nextBatch table outage = ⟨true, (batchAt table datasetId batchSize fetches).map TelemetryRow.vector,
      { iter with
        lastRecordId := cursorAfter TelemetryRow.recordId iter.lastRecordId (batchAt table datasetId batchSize fetches)
        totalProcessed := iter.totalProcessed + (batchAt table datasetId batchSize fetches).length }, none⟩ := by
    rcases outage with _ | _ | _ | place
    · simp [TelemetryBatchIterator.nextBatch, reads.result, some, foldl_takeRow]
    · cases calm
    · cases calm
    · have outside : (batchAt table datasetId batchSize fetches).length ≤ place := by
        simpa [Outage.raised] using calm
      simp [TelemetryBatchIterator.nextBatch, reads.result, some, foldl_takeRow, List.take_of_length_le outside]
  rw [done]
  exact ⟨rfl, rfl, reads.next _⟩

end Fetch

/-! ## One pass -/

/-- The fetch that finds the end of so many rows. -/
def endFetch (total batchSize : Nat) : Nat := (total + batchSize - 1) / batchSize

/-- The first fetch of a pass over so many rows that raises an exception. -/
def firstRaised (outages : Nat → Option Outage) (total batchSize : Nat) : Option Nat :=
  (List.range (endFetch total batchSize + 1)).find? fun fetch =>
    Outage.raised (outages fetch) (min batchSize (total - fetch * batchSize))

/-- The fetch that ends a pass. -/
def stopFetch (outages : Nat → Option Outage) (total batchSize : Nat) : Nat :=
  (firstRaised outages total batchSize).getD (endFetch total batchSize)

theorem lt_of_lt_endFetch {total batchSize fetch : Nat} (before : fetch < endFetch total batchSize) :
    fetch * batchSize < total ∧ 0 < batchSize := by
  rcases Nat.eq_zero_or_pos batchSize with rfl | room
  · simp [endFetch] at before
  · have full : (fetch + 1) * batchSize ≤ total + batchSize - 1 := (Nat.le_div_iff_mul_le room).mp before
    rw [Nat.succ_mul] at full
    omega

theorem endFetch_covers {total batchSize : Nat} (room : 0 < batchSize) :
    total ≤ endFetch total batchSize * batchSize := by
  have above : total + batchSize - 1 < endFetch total batchSize * batchSize + batchSize := Nat.lt_div_mul_add room
  omega

theorem endFetch_le (total batchSize : Nat) : endFetch total batchSize ≤ total := by
  rcases Nat.eq_zero_or_pos batchSize with rfl | room
  · simp [endFetch]
  · by_contra more
    have inside := lt_of_lt_endFetch (not_le.mp more)
    have wide : total * 1 ≤ total * batchSize := Nat.mul_le_mul_left total room
    omega

theorem firstRaised_le {outages : Nat → Option Outage} {total batchSize fetch : Nat}
    (found : firstRaised outages total batchSize = some fetch) : fetch ≤ endFetch total batchSize := by
  have inside := List.mem_of_find?_eq_some found
  rw [List.mem_range] at inside
  omega

theorem stopFetch_le (outages : Nat → Option Outage) (total batchSize : Nat) :
    stopFetch outages total batchSize ≤ endFetch total batchSize := by
  rw [stopFetch]
  cases found : firstRaised outages total batchSize with
  | none => exact le_rfl
  | some fetch => exact firstRaised_le found

/-- No fetch before the last one of a pass raises an exception. -/
theorem calm_of_lt_stopFetch {outages : Nat → Option Outage} {total batchSize fetch : Nat}
    (before : fetch < stopFetch outages total batchSize) :
    Outage.raised (outages fetch) (min batchSize (total - fetch * batchSize)) = false := by
  rw [stopFetch] at before
  cases found : firstRaised outages total batchSize with
  | none =>
    rw [found] at before
    have calm := List.find?_eq_none.mp found fetch (List.mem_range.mpr (Nat.lt_succ_of_lt before))
    simpa using calm
  | some first =>
    rw [found] at before
    have calm := (List.find?_range_eq_some.mp found).2.2 fetch before
    simpa using calm

theorem firstRaised_calm (total batchSize : Nat) : firstRaised (fun _ => none) total batchSize = none :=
  List.find?_eq_none.mpr fun _ _ => by simp [Outage.raised]

theorem stopFetch_calm (total batchSize : Nat) :
    stopFetch (fun _ => none) total batchSize = endFetch total batchSize := by
  rw [stopFetch, firstRaised_calm, Option.getD_none]

section Loop

variable {table : TelemetryTable R} {datasetId : String} {batchSize fetches : Nat} {outages : Nat → Option Outage}
  {state : Drained R}

theorem length_batchAt (table : TelemetryTable R) (datasetId : String) (batchSize fetches : Nat) :
    (batchAt table datasetId batchSize fetches).length =
      min batchSize ((table.dataset datasetId).length - fetches * batchSize) := by
  rw [batchAt, List.length_take, List.length_drop]

/-- The state of a pass after some fetches. -/
structure Draining (table : TelemetryTable R) (datasetId : String) (batchSize fetches : Nat) (state : Drained R) :
    Prop where
  reads : Reads table datasetId batchSize fetches state.iter
  rows : state.rows = ((table.dataset datasetId).take (fetches * batchSize)).map TelemetryRow.vector
  batchCount : state.batchCount = fetches

/-- How a pass ends. -/
structure Ended (table : TelemetryTable R) (datasetId : String) (batchSize : Nat) (outages : Nat → Option Outage)
    (state : Drained R) : Prop where
  ofDataset : state.iter.datasetId = datasetId
  ofSize : state.iter.batchSize = batchSize
  rows : state.rows = ((table.dataset datasetId).take
    (stopFetch outages (table.dataset datasetId).length batchSize * batchSize)).map TelemetryRow.vector
  caught : state.caught = none ↔ firstRaised outages (table.dataset datasetId).length batchSize = none

theorem nextBatch_same (table : TelemetryTable R) (outage : Option Outage) (iter : TelemetryBatchIterator) :
    (iter.nextBatch table outage).iter.datasetId = iter.datasetId ∧
      (iter.nextBatch table outage).iter.batchSize = iter.batchSize := by
  unfold TelemetryBatchIterator.nextBatch
  simp only [foldl_takeRow]
  repeat' split
  all_goals exact ⟨rfl, rfl⟩

/-- A fetch before the last one of the pass. -/
theorem Draining.next (now : Draining table datasetId batchSize fetches state)
    (before : fetches < stopFetch outages (table.dataset datasetId).length batchSize) (fuel : Nat) :
    ∃ next, Draining table datasetId batchSize (fetches + 1) next ∧
      drain table outages (fuel + 1) state = drain table outages fuel next := by
  obtain ⟨short, room⟩ := lt_of_lt_endFetch (before.trans_le (stopFetch_le _ _ _))
  have calm := calm_of_lt_stopFetch before
  rw [← length_batchAt] at calm
  have some : batchAt table datasetId batchSize fetches ≠ [] := by
    rw [← List.length_pos_iff, length_batchAt]
    omega
  obtain ⟨answered, fetched, moved⟩ := now.reads.fetch_rows calm some
  refine ⟨state.advance (state.iter.nextBatch table (outages fetches)), ⟨moved, ?_, ?_⟩, ?_⟩
  · rw [Nat.succ_mul, List.take_add, List.map_append, ← now.rows]
    exact congrArg (state.rows ++ ·) fetched
  · exact congrArg (· + 1) now.batchCount
  · rw [drain, now.batchCount]
    exact if_pos answered

/-- The last fetch of the pass. -/
theorem Draining.last (now : Draining table datasetId batchSize fetches state)
    (last : fetches = stopFetch outages (table.dataset datasetId).length batchSize) (fuel : Nat) :
    Ended table datasetId batchSize outages (drain table outages (fuel + 1) state) := by
  have done : (state.iter.nextBatch table (outages fetches)).answer = false ∧
      ((state.iter.nextBatch table (outages fetches)).caught = none ↔
        firstRaised outages (table.dataset datasetId).length batchSize = none) := by
    rw [stopFetch] at last
    cases found : firstRaised outages (table.dataset datasetId).length batchSize with
    | none =>
      rw [found, Option.getD_none] at last
      have calm : Outage.raised (outages fetches) (batchAt table datasetId batchSize fetches).length = false := by
        have quiet := List.find?_eq_none.mp found fetches (List.mem_range.mpr (by omega))
        rw [length_batchAt]
        simpa using quiet
      have empty : batchAt table datasetId batchSize fetches = [] := by
        rw [← List.length_eq_zero_iff, length_batchAt]
        rcases Nat.eq_zero_or_pos batchSize with none | room
        · simp [none]
        · have covered : (table.dataset datasetId).length ≤
              endFetch (table.dataset datasetId).length batchSize * batchSize := endFetch_covers room
          rw [← last] at covered
          omega
      obtain ⟨answered, calmly⟩ := now.reads.fetch_empty calm empty
      exact ⟨answered, iff_of_true calmly rfl⟩
    | some fetch =>
      rw [found, Option.getD_some] at last
      subst last
      have raised : Outage.raised (outages fetches) (batchAt table datasetId batchSize fetches).length = true := by
        rw [length_batchAt]
        exact (List.find?_range_eq_some.mp found).1
      obtain ⟨answered, caught⟩ := now.reads.fetch_raised raised
      refine ⟨answered, iff_of_false ?_ (by simp)⟩
      rw [caught]
      intro none
      rw [none] at raised
      cases raised
  have result : drain table outages (fuel + 1) state =
      { state with
        iter := (state.iter.nextBatch table (outages fetches)).iter
        caught := (state.iter.nextBatch table (outages fetches)).caught } := by
    rw [drain, now.batchCount]
    exact if_neg (by simp [done.1])
  obtain ⟨sameDataset, sameSize⟩ := nextBatch_same table (outages fetches) state.iter
  rw [result]
  exact ⟨sameDataset.trans now.reads.ofDataset, sameSize.trans now.reads.ofSize, last ▸ now.rows, done.2⟩

theorem drain_ended (fuel : Nat) (now : Draining table datasetId batchSize fetches state)
    (inside : fetches ≤ stopFetch outages (table.dataset datasetId).length batchSize)
    (enough : stopFetch outages (table.dataset datasetId).length batchSize < fetches + fuel) :
    Ended table datasetId batchSize outages (drain table outages fuel state) := by
  induction fuel generalizing fetches state with
  | zero => omega
  | succ fuel ih =>
    rcases inside.eq_or_lt with last | before
    · exact now.last last fuel
    · obtain ⟨next, moved, drained⟩ := now.next before fuel
      rw [drained]
      exact ih moved before (by omega)

/-- A pass reads the dataset up to the fetch that stops it. -/
theorem forEachBatch_ended (table : TelemetryTable R) (outages : Nat → Option Outage) (iter : TelemetryBatchIterator) :
    Ended table iter.datasetId iter.batchSize outages (forEachBatch table outages iter) := by
  have start : Draining table iter.datasetId iter.batchSize 0 ⟨iter.reset, [], 0, 0, none⟩ :=
    ⟨⟨rfl, rfl, by simp [cursorAfter, TelemetryBatchIterator.reset]⟩, by simp, rfl⟩
  apply drain_ended _ start (Nat.zero_le _)
  have bound := (stopFetch_le outages _ iter.batchSize).trans (endFetch_le (table.dataset iter.datasetId).length _)
  have rows := table.dataset_length_le iter.datasetId
  omega

end Loop

/-- The iterator keeps its dataset and its batch size over the passes. -/
theorem iteratorAt_same (table : TelemetryTable R) (outages : Outages) (iter : TelemetryBatchIterator) (call : Nat) :
    (iteratorAt table outages iter call).datasetId = iter.datasetId ∧
      (iteratorAt table outages iter call).batchSize = iter.batchSize := by
  induction call with
  | zero => exact ⟨rfl, rfl⟩
  | succ call ih =>
    have ended := forEachBatch_ended table (outages call) (iteratorAt table outages iter call)
    exact ⟨ended.ofDataset.trans ih.1, ended.ofSize.trans ih.2⟩

theorem drainedAt_ended (table : TelemetryTable R) (outages : Outages) (iter : TelemetryBatchIterator) (call : Nat) :
    Ended table iter.datasetId iter.batchSize (outages call) (drainedAt table outages iter call) := by
  have ended := forEachBatch_ended table (outages call) (iteratorAt table outages iter call)
  obtain ⟨sameDataset, sameSize⟩ := iteratorAt_same table outages iter call
  rwa [sameDataset, sameSize] at ended

/-! ## Batches do not matter -/

/-- Four rows of one dataset, stored out of order, and one of another. -/
def fourRows : TelemetryTable ℝ where
  rows := [⟨4, "d", 1, 0, 1, 0, 1⟩, ⟨2, "d", 0, 0, 1, 1, 1⟩, ⟨3, "e", 1, 1, 1, 1, 1⟩, ⟨1, "d", 1, 0, 0, 1, 0⟩,
    ⟨6, "d", 0, 1, 1, 0, 0⟩]
  positive := by decide
  distinct := by decide

/-- Batch-size independence: without outages every pass, from whatever state the
iterator is in, delivers the rows of the dataset in the order of their ids, and
training from the database is training from these samples. -/
theorem trainPcaFromDbBatched_eq [Arith R] (table : TelemetryTable R) (datasetId : String) (batchSize : Nat)
    (room : 1 ≤ batchSize) (nComponents : Int) (percentile : R) :
    (∀ iter : TelemetryBatchIterator, iter.datasetId = datasetId → iter.batchSize = batchSize →
      (forEachBatch table (fun _ => none) iter).rows = (table.dataset datasetId).map TelemetryRow.vector) ∧
    trainPcaFromDbBatched table (fun _ _ => none) datasetId nComponents percentile batchSize =
      trainPcaFromSamples ((table.dataset datasetId).map TelemetryRow.vector) nComponents percentile := by
  have all : ∀ iter : TelemetryBatchIterator, iter.datasetId = datasetId → iter.batchSize = batchSize →
      (forEachBatch table (fun _ => none) iter).rows = (table.dataset datasetId).map TelemetryRow.vector := by
    rintro iter rfl rfl
    rw [(forEachBatch_ended table _ iter).rows, stopFetch_calm, List.take_of_length_le (endFetch_covers room)]
  refine ⟨all, ?_⟩
  unfold trainPcaFromDbBatched trainPcaFromSamples
  congr 1
  funext call
  obtain ⟨sameDataset, sameSize⟩ := iteratorAt_same table (fun _ _ => none) { datasetId, batchSize } call
  exact congrArg (Pass.mk · none) (all _ sameDataset sameSize)

theorem trainPcaFromDbBatched_eq_pairs :
    1 ≤ 2 ∧
    (∀ iter : TelemetryBatchIterator, iter.datasetId = "d" → iter.batchSize = 2 →
      (forEachBatch fourRows (fun _ => none) iter).rows = (fourRows.dataset "d").map TelemetryRow.vector) ∧
    trainPcaFromDbBatched fourRows (fun _ _ => none) "d" 1 95 2 =
      trainPcaFromSamples ((fourRows.dataset "d").map TelemetryRow.vector) 1 95 :=
  ⟨by decide, trainPcaFromDbBatched_eq fourRows "d" 2 (by decide) 1 95⟩

/-! ## Fetches that fail -/

section Failures

variable (table : TelemetryTable R) (outages : Outages) (datasetId : String) (nComponents : Int)
  (percentile : R) (batchSize : Nat)

/-- The rows a pass reads before the fetch that stops it. -/
def deliveredRows (outages : Nat → Option Outage) (total batchSize : Nat) : Nat :=
  min total (stopFetch outages total batchSize * batchSize)

theorem length_drainedAt (call : Nat) :
    (drainedAt table outages { datasetId, batchSize } call).rows.length =
      deliveredRows (outages call) (table.dataset datasetId).length batchSize := by
  rw [(drainedAt_ended table outages { datasetId, batchSize } call).rows, List.length_map, List.length_take,
    Nat.min_comm]
  rfl

theorem length_of_drainedAt (call : Nat) :
    ∀ x ∈ (batchedPass table outages { datasetId, batchSize } call).rows, x.length = kSize := by
  intro x member
  rw [batchedPass, (drainedAt_ended table outages { datasetId, batchSize } call).rows] at member
  obtain ⟨row, -, rfl⟩ := List.mem_map.mp member
  rfl

variable [Arith R]

/-- Whether training succeeds depends only on how many rows the passes deliver. -/
theorem trainPcaFromDbBatched_ok_iff :
    (∃ artifact, trainPcaFromDbBatched table outages datasetId nComponents percentile batchSize = .ok artifact) ↔
      (1 ≤ nComponents ∧ nComponents ≤ kSize) ∧
        2 ≤ deliveredRows (outages 0) (table.dataset datasetId).length batchSize ∧
        0 < deliveredRows (outages 1) (table.dataset datasetId).length batchSize ∧
        0 < deliveredRows (outages 2) (table.dataset datasetId).length batchSize := by
  have fits := length_of_drainedAt table outages datasetId batchSize
  rw [← length_drainedAt, ← length_drainedAt, ← length_drainedAt, List.length_pos_iff, List.length_pos_iff]
  constructor
  · rintro ⟨artifact, trained⟩
    rw [trainPcaFromDbBatched, trainPcaFromStream] at trained
    cases run : train (batchedPass table outages { datasetId, batchSize }) kSize nComponents percentile with
    | error what =>
      rw [run] at trained
      cases trained
    | ok training => exact enough_of_train (fun _ => rfl) fits run
  · rintro ⟨⟨least, most⟩, enough, again, once⟩
    obtain ⟨training, run, -⟩ := train_ok_of_passes percentile (fun _ => rfl) fits enough again once least most
    refine ⟨training.artifact, ?_⟩
    rw [trainPcaFromDbBatched, trainPcaFromStream, run]
    rfl

/-- Training uses all of the data or raises an error. -/
structure AllOrError : Prop where
  raises : (∃ call < 3, (drainedAt table outages { datasetId, batchSize } call).caught ≠ none) →
    ∃ what, trainPcaFromDbBatched table outages datasetId nComponents percentile batchSize = .error what
  whole : ∀ artifact, trainPcaFromDbBatched table outages datasetId nComponents percentile batchSize = .ok artifact →
    ∀ call < 3, (drainedAt table outages { datasetId, batchSize } call).rows =
      (table.dataset datasetId).map TelemetryRow.vector

theorem AllOrError.of_calm
    (calm : ∀ call < 3, firstRaised (outages call) (table.dataset datasetId).length batchSize = none) :
    AllOrError table outages datasetId nComponents percentile batchSize := by
  constructor
  · rintro ⟨call, early, caught⟩
    have ended := drainedAt_ended table outages { datasetId, batchSize } call
    exact absurd (ended.caught.mpr (calm call early)) caught
  · intro artifact trained call early
    have ended := drainedAt_ended table outages { datasetId, batchSize } call
    -- a batch size of zero would not have delivered a row
    have enough := ((trainPcaFromDbBatched_ok_iff table outages datasetId nComponents percentile batchSize).mp
      ⟨artifact, trained⟩).2.1
    have room : 0 < batchSize := by
      apply Nat.pos_of_ne_zero
      rintro rfl
      simp [deliveredRows] at enough
    rw [ended.rows, stopFetch, calm call early, Option.getD_none, List.take_of_length_le (endFetch_covers room)]

/-- Training uses all of the data or raises an error exactly if no fetch fails,
or so few rows are left that the trainer itself complains. -/
theorem all_or_error_iff :
    AllOrError table outages datasetId nComponents percentile batchSize ↔
      (nComponents < 1 ∨ kSize < nComponents) ∨
      deliveredRows (outages 0) (table.dataset datasetId).length batchSize < 2 ∨
      deliveredRows (outages 1) (table.dataset datasetId).length batchSize = 0 ∨
      deliveredRows (outages 2) (table.dataset datasetId).length batchSize = 0 ∨
      ∀ call < 3, firstRaised (outages call) (table.dataset datasetId).length batchSize = none := by
  have succeeds := trainPcaFromDbBatched_ok_iff table outages datasetId nComponents percentile batchSize
  by_cases calm : ∀ call < 3, firstRaised (outages call) (table.dataset datasetId).length batchSize = none
  · have fine := AllOrError.of_calm table outages datasetId nComponents percentile batchSize calm
    tauto
  have failed : ∃ call < 3, (drainedAt table outages { datasetId, batchSize } call).caught ≠ none := by
    push Not at calm
    obtain ⟨call, early, raised⟩ := calm
    exact ⟨call, early, fun none => raised
      ((drainedAt_ended table outages { datasetId, batchSize } call).caught.mp none)⟩
  constructor
  · intro fine
    by_contra enough
    obtain ⟨artifact, trained⟩ := succeeds.mpr (by omega)
    obtain ⟨what, raised⟩ := fine.raises failed
    rw [trained] at raised
    cases raised
  · intro few
    have unable : ∀ artifact,
        trainPcaFromDbBatched table outages datasetId nComponents percentile batchSize ≠ .ok artifact := by
      intro artifact trained
      have enough := succeeds.mp ⟨artifact, trained⟩
      rcases few with range | short | short | short | none
      · omega
      · omega
      · omega
      · omega
      · exact calm none
    constructor
    · intro _
      cases result : trainPcaFromDbBatched table outages datasetId nComponents percentile batchSize with
      | error what => exact ⟨what, rfl⟩
      | ok artifact => exact absurd result (unable artifact)
    · intro artifact trained
      exact absurd trained (unable artifact)

end Failures

/-- The connection is lost at the second fetch of the first pass. -/
def lostConnection : Outages := fun call fetch => if call = 0 ∧ fetch = 1 then some .connection else none

theorem lost_connection_goes_unnoticed : ¬ AllOrError fourRows lostConnection "d" 1 95 2 := by
  intro fine
  have failed : ∃ call < 3,
      (drainedAt fourRows lostConnection { datasetId := "d", batchSize := 2 } call).caught ≠ none := by
    refine ⟨0, by decide, fun none => ?_⟩
    have calm := (drainedAt_ended fourRows lostConnection _ 0).caught.mp none
    revert calm
    decide
  obtain ⟨artifact, trained⟩ := (trainPcaFromDbBatched_ok_iff fourRows lostConnection "d" 1 95 2).mpr (by decide)
  obtain ⟨what, raised⟩ := fine.raises failed
  rw [trained] at raised
  cases raised

end TelemetryLab.Pca
