import TelemetryLab.Pca.BatchIterator

/-! The command-line trainer (`training/train_pca_main.cpp`) on the connections of
`SimpleDbConnectionManager`.

The rows are counted by a statement of its own text and are fetched by a prepared
statement. A statement exists on a connection only if the initializer of the
manager has prepared it there.
-/

set_option autoImplicit false
namespace TelemetryLab.Pca

variable {R : Type}

/-- The names of the statements that are prepared on a connection. -/
structure Connection where
  prepared : List String
  deriving DecidableEq, Repr

def Connection.prepare (name : String) (connection : Connection) : Connection :=
  ⟨name :: connection.prepared⟩

structure SimpleDbConnectionManager where
  connStr : String
  initializer : Option (Connection → Connection) := none

/-- Every connection is a new one. -/
def SimpleDbConnectionManager.getConnection (manager : SimpleDbConnectionManager) : Connection :=
  match manager.initializer with
  | some initializer => initializer ⟨[]⟩
  | none => ⟨[]⟩

/-- The statements of `PrepareStatements` that the trainer's table is read with. -/
def prepareStatements (connection : Connection) : Connection :=
  (connection.prepare "get_non_anomaly_count").prepare "get_telemetry_batch"

/-- The execution of a statement that is not prepared raises an exception. -/
def SimpleDbConnectionManager.outages (manager : SimpleDbConnectionManager) : Outages := fun _ _ =>
  if "get_telemetry_batch" ∈ manager.getConnection.prepared then none else some .query

/-- A row of `host_telemetry_archival` with the label it was generated with. -/
structure LabelledRow (R : Type) extends TelemetryRow R where
  isAnomaly : Bool

structure LabelledTable (R : Type) where
  rows : List (LabelledRow R)
  positive : ∀ row ∈ rows, 0 < row.recordId
  distinct : (rows.map fun row => row.recordId).Nodup

namespace LabelledTable

/-- The columns that training reads. -/
def telemetry (table : LabelledTable R) : TelemetryTable R where
  rows := table.rows.map LabelledRow.toTelemetryRow
  positive := by
    intro row member
    obtain ⟨labelled, inside, rfl⟩ := List.mem_map.mp member
    exact table.positive labelled inside
  distinct := by
    rw [List.map_map]
    exact table.distinct

/-- `WHERE run_id = $1 AND is_anomaly = false` -/
def nonAnomalies (table : LabelledTable R) (datasetId : String) : List (LabelledRow R) :=
  table.rows.filter fun row => decide (row.runId = datasetId) && !row.isAnomaly

end LabelledTable

/-- The manager that `main` makes for its training. -/
def mainManager (dbConnStr : String) : SimpleDbConnectionManager := { connStr := dbConnStr }

/-- The row count that `main` prints. -/
def rowCount (table : LabelledTable R) (datasetId : String) : Nat := (table.nonAnomalies datasetId).length

/-- `TrainPcaFromDb`, with the batch size of the environment or 10000. -/
def trainPcaFromDb [Arith R] (manager : SimpleDbConnectionManager) (table : LabelledTable R) (datasetId : String)
    (nComponents : Int) (percentile : R) (batchSize : Nat) : Except Thrown (PcaArtifact R) :=
  trainPcaFromDbBatched table.telemetry manager.outages datasetId nComponents percentile batchSize

/-- The vectors that a pass of the training goes through. -/
def fedRows (manager : SimpleDbConnectionManager) (table : LabelledTable R) (datasetId : String) (batchSize : Nat)
    (call : Nat) : List (List R) :=
  (batchedPass table.telemetry manager.outages { datasetId, batchSize } call).rows

/-- Every pass goes through the rows that were counted, in whatever order. -/
def TrainsOnCounted (manager : SimpleDbConnectionManager) (table : LabelledTable R) (datasetId : String)
    (batchSize : Nat) : Prop :=
  ∀ call, (fedRows manager table datasetId batchSize call).Perm
    ((table.nonAnomalies datasetId).map fun row => row.vector)

section
variable (table : LabelledTable R) (datasetId : String) (batchSize : Nat)

theorem outages_main (dbConnStr : String) : (mainManager dbConnStr).outages = fun _ _ => some .query := by
  funext call fetch
  rfl

/-- The statement is not prepared, so the first fetch of every pass ends it. -/
theorem fedRows_main (dbConnStr : String) (call : Nat) :
    fedRows (mainManager dbConnStr) table datasetId batchSize call = [] := by
  rw [fedRows, outages_main]
  rfl

/-- The training of the command-line tool fails whatever the dataset holds. -/
theorem main_never_trains [Arith R] (dbConnStr : String) (nComponents : Int) (percentile : R) :
    ¬ ∃ artifact, trainPcaFromDb (mainManager dbConnStr) table datasetId nComponents percentile batchSize =
      .ok artifact := by
  intro trained
  have enough := ((trainPcaFromDbBatched_ok_iff _ _ _ _ _ _).mp trained).2.1
  have none := congrArg List.length (fedRows_main table datasetId batchSize dbConnStr 0)
  rw [fedRows, batchedPass, length_drainedAt] at none
  rw [none] at enough
  cases enough

theorem main_trains_on_counted_iff (dbConnStr : String) :
    TrainsOnCounted (mainManager dbConnStr) table datasetId batchSize ↔
      ∀ row ∈ table.rows, row.runId = datasetId → row.isAnomaly = true := by
  have counted : (∀ row ∈ table.rows, row.runId = datasetId → row.isAnomaly = true) ↔
      table.nonAnomalies datasetId = [] := by
    rw [LabelledTable.nonAnomalies, List.filter_eq_nil_iff]
    simp
  rw [counted]
  simp only [TrainsOnCounted, fedRows_main]
  constructor
  · intro same
    exact List.map_eq_nil_iff.mp (same 0).symm.eq_nil
  · intro none call
    rw [none]
    exact List.Perm.refl []

/-- On connections that are initialized as those of `DbClient` every row is fed, whatever its label. -/
theorem fedRows_prepared (connStr : String) (room : 0 < batchSize) (call : Nat) :
    (fedRows ⟨connStr, some prepareStatements⟩ table datasetId batchSize call).Perm
      ((table.rows.filter fun row => decide (row.runId = datasetId)).map fun row => row.vector) := by
  have calm : (⟨connStr, some prepareStatements⟩ : SimpleDbConnectionManager).outages = fun _ _ => none := by
    funext pass fetch
    rfl
  have all : fedRows ⟨connStr, some prepareStatements⟩ table datasetId batchSize call =
      (table.telemetry.dataset datasetId).map TelemetryRow.vector := by
    have ended := drainedAt_ended table.telemetry (fun _ _ => none) { datasetId, batchSize } call
    rw [fedRows, calm]
    change (drainedAt table.telemetry (fun _ _ => none) { datasetId, batchSize } call).rows = _
    rw [ended.rows, stopFetch_calm, List.take_of_length_le (endFetch_covers room)]
  have order := (TelemetryTable.orderByRecordId_perm
    (table.telemetry.rows.filter fun row => decide (row.runId = datasetId))).map TelemetryRow.vector
  rw [all]
  refine order.trans (.of_eq ?_)
  rw [LabelledTable.telemetry, List.filter_map, List.map_map]
  rfl

/-- The fetched rows are not filtered by their label. -/
theorem prepared_trains_on_counted_iff (connStr : String) (room : 0 < batchSize) :
    TrainsOnCounted ⟨connStr, some prepareStatements⟩ table datasetId batchSize ↔
      ∀ row ∈ table.rows, row.runId = datasetId → row.isAnomaly = false := by
  have fed := fedRows_prepared table datasetId batchSize connStr room
  have both : table.nonAnomalies datasetId =
      (table.rows.filter fun row => decide (row.runId = datasetId)).filter fun row => !row.isAnomaly := by
    rw [List.filter_filter]
    simp only [LabelledTable.nonAnomalies, Bool.and_comm]
  have unlabelled : (∀ row ∈ table.rows, row.runId = datasetId → row.isAnomaly = false) ↔
      ∀ row ∈ table.rows.filter (fun row => decide (row.runId = datasetId)), (!row.isAnomaly) = true := by
    simp
  rw [unlabelled, ← List.length_filter_eq_length_iff, ← both]
  constructor
  · intro same
    have sizes := ((fed 0).symm.trans (same 0)).length_eq
    rw [List.length_map, List.length_map] at sizes
    exact sizes.symm
  · intro sizes call
    have whole := List.filter_sublist.eq_of_length (both ▸ sizes)
    rw [both, whole]
    exact fed call

end

/-! ## Two rows -/

/-- A dataset of this one row. -/
def oneRow (isAnomaly : Bool) : LabelledTable Int where
  rows := [⟨⟨1, "d", 10, 20, 30, 40, 50⟩, isAnomaly⟩]
  positive := by simp
  distinct := by simp

theorem counted_row_not_fed : ¬ ∀ (table : LabelledTable Int) (datasetId : String) (batchSize : Nat)
    (dbConnStr : String), TrainsOnCounted (mainManager dbConnStr) table datasetId batchSize := by
  intro trains
  have fed := trains (oneRow false) "d" 10000 "postgresql://" 0
  rw [fedRows_main] at fed
  cases fed.length_eq

end TelemetryLab.Pca
