import Mathlib.Data.Finset.Card
import Mathlib.Data.Finset.Range
import TelemetryLab.Lib.Table
import TelemetryLab.Lib.Transition

/-! A generation run (`generator.cpp`): the producer in `Run`, the bounded write
queue and the writer thread.

Of a telemetry record only its host and its timestamp are kept; the measured
values are random. Times are seconds, as `ParseTime` returns them. A database
call either commits as a whole or fails, and every call of the producer ignores
a failure.
-/

set_option autoImplicit false
namespace TelemetryLab.Generation

inductive RunState where
  | pending
  | running
  | succeeded
  | failed
  | cancelled
  deriving DecidableEq, Repr

def RunState.isTerminal : RunState → Bool
  | .pending | .running => false
  | .succeeded | .failed | .cancelled => true

/-- What `Run` asks of the `generation_runs` table, always for its own run. -/
inductive RunStatement where
  | nothing
  | createRun (status : RunState) (requestId : String)
  | heartbeat
  | updateRunStatus (status : RunState) (insertedRows : Int) (error : String)
  deriving DecidableEq, Repr

structure GenerateRequest where
  hostCount : Int
  startTime : Int
  endTime : Int
  intervalSeconds : Int
  requestId : String
  deriving DecidableEq, Repr

namespace GenerateRequest

/-- `InitializeHosts`: no host for a negative count. -/
def hosts (request : GenerateRequest) : Nat := request.hostCount.toNat

def duration (request : GenerateRequest) : Int :=
  if request.intervalSeconds = 0 then 600 else request.intervalSeconds

/-- The ticks in `[start, end)`: the offsets from the start that are multiples
of the interval. -/
def ticks (request : GenerateRequest) : Nat :=
  ((Finset.range (request.endTime - request.startTime).toNat).filter
    fun offset : Nat => request.duration ∣ (offset : Int)).card

end GenerateRequest

structure Record where
  host : Nat
  timestamp : Int
  deriving DecidableEq, Repr

inductive RunPc where
  | create
  | spawn
  | tick
  | flag
  | hosts (i : Nat)
  | enqueue (i : Nat)
  | progress (i : Nat)
  | check (i : Nat)
  | final
  | wait
  | succeed
  | cancelling
  | failing (what : String)
  | returned
  deriving DecidableEq, Repr

/-- The writer thread: at the head of its loop, in the wait on the queue, or
inside `BatchInsertTelemetry` with a batch it has popped. -/
inductive WriterPc where
  | absent
  | head
  | waiting
  | inserting (batch : List Record)
  | stopped
  deriving DecidableEq, Repr

structure Generator where
  pc : RunPc
  t : Int
  batch : List Record
  totalRows : Nat
  writeQueue : List (List Record)
  writerRunning : Bool
  writer : WriterPc
  flagged : Bool
  committed : List Record
  deriving DecidableEq, Repr

def batchSize : Nat := 5000

def threadUnavailable : String := "Resource temporarily unavailable"

namespace Generator

def init : Generator where
  pc := .create
  t := 0
  batch := []
  totalRows := 0
  writeQueue := []
  writerRunning := false
  writer := .absent
  flagged := false
  committed := []

/-- `EnqueueBatch`: a full queue drops the batch. -/
def enqueueBatch (maxQueueSize : Nat) (g : Generator) : Generator :=
  if maxQueueSize ≤ g.writeQueue.length then g else { g with writeQueue := g.writeQueue ++ [g.batch] }

/-- `Run`, one shared action at a time; `ok` is whether the call in it succeeds. -/
def produce (request : GenerateRequest) (maxQueueSize : Nat) (g : Generator) (ok : Bool) :
    Option (RunStatement × Generator) :=
  let stored (statement : RunStatement) : RunStatement := if ok then statement else .nothing
  match g.pc with
  | .create => some (stored (.createRun .running request.requestId), { g with pc := .spawn })
  | .spawn =>
    if ok then
      some (.nothing, { g with pc := .tick, t := request.startTime, writerRunning := true, writer := .head })
    -- `writer_running_` is set before the thread is constructed
    else some (.nothing, { g with pc := .failing threadUnavailable, writerRunning := true })
  | .tick =>
    if g.t < request.endTime then some (stored .heartbeat, { g with pc := .flag })
    else some (.nothing, { g with pc := .final })
  | .flag => some (.nothing, { g with pc := if g.flagged then .cancelling else .hosts 0 })
  | .hosts i =>
    if i < request.hosts then
      let batch := g.batch ++ [⟨i, g.t⟩]
      some (.nothing, { g with batch, pc := if batchSize ≤ batch.length then .enqueue (i + 1) else .hosts (i + 1) })
    else some (.nothing, { g with pc := .tick, t := g.t + request.duration })
  -- the rows are counted whether or not the queue had room
  | .enqueue i =>
    some (.nothing, { g.enqueueBatch maxQueueSize with
      pc := .progress i, batch := [], totalRows := g.totalRows + batchSize })
  | .progress i => some (stored (.updateRunStatus .running g.totalRows ""), { g with pc := .check i })
  | .check i => some (.nothing, { g with pc := if g.flagged then .cancelling else .hosts i })
  | .final =>
    if g.batch = [] then some (.nothing, { g with pc := .wait })
    else some (.nothing, { g.enqueueBatch maxQueueSize with
      pc := .wait, batch := [], totalRows := g.totalRows + g.batch.length })
  -- the wait looks at the queue only, not at the writer
  | .wait => some (.nothing, { g with pc := if g.writeQueue = [] then .succeed else .wait })
  | .succeed => some (stored (.updateRunStatus .succeeded g.totalRows ""), { g with pc := .returned })
  | .cancelling => some (stored (.updateRunStatus .cancelled g.totalRows ""), { g with pc := .returned })
  | .failing what => some (stored (.updateRunStatus .failed 0 what), { g with pc := .returned })
  | .returned => none

/-- `WriterLoop`; a failed insert is logged and its batch is gone. -/
def write (g : Generator) (ok : Bool) : Option Generator :=
  match g.writer with
  | .absent | .stopped => none
  | .head => some { g with writer := if g.writerRunning then .waiting else .stopped }
  | .waiting =>
    match g.writeQueue with
    | batch :: rest => some { g with writer := .inserting batch, writeQueue := rest }
    -- the wait on the condition variable goes on until there is work or the end
    | [] => if g.writerRunning then none else some { g with writer := .stopped }
  | .inserting batch => some { g with
      writer := .head, committed := if ok then g.committed ++ batch else g.committed }

end Generator

inductive Label where
  | produce (ok : Bool)
  | write (ok : Bool)
  | cancel
  | destroy
  deriving DecidableEq, Repr

def act (request : GenerateRequest) (maxQueueSize : Nat) (g : Generator) : Label → Option (RunStatement × Generator)
  | .produce ok => g.produce request maxQueueSize ok
  | .write ok => (g.write ok).map fun next => (.nothing, next)
  | .cancel => some (.nothing, { g with flagged := true })
  | .destroy => if g.pc = .returned then some (.nothing, { g with writerRunning := false }) else none

def step (request : GenerateRequest) (maxQueueSize : Nat) (g : Generator) (label : Label) : Option Generator :=
  (act request maxQueueSize g label).map Prod.snd

end TelemetryLab.Generation
