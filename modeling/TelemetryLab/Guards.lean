import TelemetryLab.Lib.Guard
import TelemetryLab.Scoring.Worker
import TelemetryLab.Training.Bodies

/-! The guard at the head of the scoring, training and tuning bodies, under any
number of workers of one row.

All three take the row with `TryTransition...Status(id, PENDING, RUNNING)` and,
when that fails, go on if a second read finds the row `RUNNING`. The statements
of everyone else are the environment: they may end the row, but none of them
makes it `PENDING` or `RUNNING`.
-/

set_option autoImplicit false
namespace TelemetryLab
open Jobs Guard Transition

/-- What the guard can find in its row. -/
def rowCell : Option JobState → Cell
  | some .pending => .free
  | some .running => .taken
  | _ => .closed

theorem rowCell_of_terminal {status : JobState} (ended : status.isTerminal = true) :
    rowCell (some status) = .closed := by
  cases status <;> first | rfl | cases ended

namespace Scoring

def statusOf (jobId : String) (db : Db) : Option JobState := (db.jobs.lookup jobId).map (·.status)

/-- Statements of code other than the workers of the row. -/
def Statement.foreign (jobId : String) : Statement → Bool
  | .insertScoreJob id _ | .transitionStatus id _ _ | .updateScoreJob id _ _ _ _ _ => decide (id ≠ jobId)
  | .nothing | .insertDatasetScores _ _ _ | .reconcile _ | .insertTelemetry _ _ | .tick => true

def scoreProtocol (jobId : String) : Protocol Db ScoreCall ScorePc Event Statement where
  start := .readJob
  body db flagged call pc event :=
    let result := scoreStep db flagged { call with jobId } pc event
    some (db.run result.1, result.2.next)
  environment db statement := if statement.foreign jobId then some (db.run statement) else none
  cell db := rowCell (statusOf jobId db)
  guarding := ScorePc.guarding
  inside pc := pc.scoring.isSome

theorem statusOf_updateScoreJob (jobId : String) (db : Db) (status : JobState)
    (totalRows processedRows lastRecordId : Int) (error : String) :
    statusOf jobId (db.run (.updateScoreJob jobId status totalRows processedRows lastRecordId error)) =
      (statusOf jobId db).map fun _ => status := by
  simp [statusOf, Db.run, Function.comp_def]

theorem statusOf_transitionStatus (jobId : String) (db : Db) (expected next : JobState) :
    statusOf jobId (db.run (.transitionStatus jobId expected next)) =
      (statusOf jobId db).map fun status => if status = expected then next else status := by
  simp only [statusOf, Db.run, Table.lookup_modify_self, Option.map_map]
  congr 1
  funext row
  simp only [Function.comp, ScoreJob.transition]
  split <;> rfl

/-- A progress or final write of a worker. -/
theorem rowCell_updateOr (event : Event) (call : ScoreCall) (status : JobState) (v : Cursor) (error : String) (db : Db) :
    rowCell (statusOf call.jobId (db.run (updateOr event call status v error))) = rowCell (statusOf call.jobId db) ∨
      rowCell (statusOf call.jobId (db.run (updateOr event call status v error))) = rowCell (some status) := by
  cases event with
  | error what => exact .inl rfl
  | done =>
    rw [updateOr, statusOf_updateScoreJob]
    cases statusOf call.jobId db with
    | none => exact .inl rfl
    | some old => exact .inr rfl

theorem any_pending_iff (db : Db) (jobId : String) :
    ((db.jobs.lookup jobId).any fun row => decide (row.status = .pending)) = true ↔
      statusOf jobId db = some .pending := by
  rw [statusOf]
  cases db.jobs.lookup jobId <;> simp

/-- Getting past the guard: the transition found the row free, or the second
read found it taken. -/
theorem scoreStep_enters {db : Db} {flagged : Bool} {call : ScoreCall} {pc next : ScorePc} {event : Event}
    (moved : (scoreStep db flagged call pc event).2 = .goto next) (guarding : pc.guarding = true)
    (inside : next.scoring.isSome = true) :
    ((scoreStep db flagged call pc event).1 = .transitionStatus call.jobId .pending .running ∧
        statusOf call.jobId db = some .pending) ∨
      ((scoreStep db flagged call pc event).1 = .nothing ∧ statusOf call.jobId db = some .running) := by
  cases pc <;> cases event <;> grind [scoreStep, ScorePc.scoring, ScorePc.guarding, statusOf, any_pending_iff]

/-- What a worker does to its row anywhere else. -/
theorem scoreStep_keeps {db : Db} {flagged : Bool} {call : ScoreCall} {pc : ScorePc} {event : Event}
    (outside : pc.guarding = true → ∀ next, (scoreStep db flagged call pc event).2 = .goto next →
      next.scoring.isSome = false) :
    statusOf call.jobId (db.run (scoreStep db flagged call pc event).1) = statusOf call.jobId db ∨
      ∃ status v error, (scoreStep db flagged call pc event).1 = updateOr event call status v error ∧
        (status.isTerminal = true ∨ pc.scoring.isSome = true ∧ status = .running) := by
  cases pc with
  | transition v =>
    cases event with
    | error what => exact .inl rfl
    | done =>
      -- over a pending row the worker would have got past its guard
      have busy : statusOf call.jobId db ≠ some .pending := by
        intro pending
        have leads := outside rfl (.announce v) (by rw [scoreStep, if_pos ((any_pending_iff db _).mpr pending)])
        cases leads
      refine .inl ?_
      rw [scoreStep, statusOf_transitionStatus]
      cases status : statusOf call.jobId db with
      | none => rfl
      | some old =>
        have other : old ≠ .pending := fun same => busy (status.trans (congrArg some same))
        simp [other]
  | announce v => exact .inr ⟨.running, v, "", rfl, .inr ⟨rfl, rfl⟩⟩
  | progress v => exact .inr ⟨.running, v, "", rfl, .inr ⟨rfl, rfl⟩⟩
  | cancelling v => exact .inr ⟨.cancelled, v, "", rfl, .inl rfl⟩
  | completing v => exact .inr ⟨.completed, v, "", rfl, .inl rfl⟩
  | recordFailure v what => exact .inr ⟨.failed, v, what, rfl, .inl rfl⟩
  | insert v records => cases event <;> exact .inl rfl
  | readJob => cases event <;> grind [scoreStep, Db.run]
  | readBack v => cases event <;> grind [scoreStep, Db.run]
  | failing what => cases event <;> grind [scoreStep, Db.run]
  | count v => cases event <;> exact .inl rfl
  | loadModel v => cases event <;> exact .inl rfl
  | loop v => cases event <;> exact .inl rfl
  | fetch v => cases event <;> exact .inl rfl
  | finish v => cases event <;> exact .inl rfl

theorem scoreStep_forward {db : Db} {flagged : Bool} {call : ScoreCall} {pc next : ScorePc} {event : Event}
    (moved : (scoreStep db flagged call pc event).2 = .goto next) (past : pc.guarding = false) :
    next.guarding = false ∧ (next.scoring.isSome = true → pc.scoring.isSome = true) := by
  cases pc with
  | readJob | count v | transition v | readBack v => cases past
  | cancelling v | completing v | recordFailure v what => cases moved
  | announce v | progress v =>
    cases moved
    exact ⟨rfl, fun _ => rfl⟩
  | loadModel v | insert v records => cases event <;> cases moved <;> exact ⟨rfl, fun _ => rfl⟩
  | loop v =>
    cases moved
    cases flagged <;> exact ⟨rfl, fun _ => rfl⟩
  | fetch v =>
    cases event <;> cases moved
    · split <;> exact ⟨rfl, fun _ => rfl⟩
    · exact ⟨rfl, fun _ => rfl⟩
  | finish v =>
    -- here the worker leaves its loop
    cases moved
    cases flagged <;> exact ⟨rfl, fun inside => by cases inside⟩
  | failing what =>
    cases event with
    | done =>
      simp only [scoreStep] at moved
      split at moved <;> cases moved
      exact ⟨rfl, fun inside => by cases inside⟩
    | error other => cases moved

theorem foreign_status {jobId : String} {statement : Statement} (foreign : statement.foreign jobId = true) (db : Db) :
    rowCell (statusOf jobId (db.run statement)) = rowCell (statusOf jobId db) ∨
      rowCell (statusOf jobId (db.run statement)) = .closed := by
  cases statement with
  | insertScoreJob id row =>
    have different : jobId ≠ id := Ne.symm (of_decide_eq_true foreign)
    exact .inl (by simp [statusOf, Db.run, AList.lookup_insert_ne different])
  | transitionStatus id expected next =>
    have different : jobId ≠ id := Ne.symm (of_decide_eq_true foreign)
    exact .inl (by simp [statusOf, Db.run, Table.lookup_modify_ne _ _ different])
  | updateScoreJob id status totalRows processedRows lastRecordId error =>
    have different : jobId ≠ id := Ne.symm (of_decide_eq_true foreign)
    exact .inl (by simp [statusOf, Db.run, Table.lookup_modify_ne _ _ different])
  | reconcile staleTtl =>
    simp only [statusOf, Db.run, Table.lookup_update]
    cases db.jobs.lookup jobId with
    | none => exact .inl rfl
    | some row =>
      simp only [Option.map_some, ScoreJob.reconcile]
      split
      · exact .inr rfl
      · exact .inl rfl
  | nothing => exact .inl rfl
  | insertDatasetScores datasetId modelRunId records => exact .inl rfl
  | insertTelemetry recordId datasetId => exact .inl rfl
  | tick => exact .inl rfl

theorem scoreProtocol_lawful (jobId : String) : Lawful (scoreProtocol jobId) where
  start := rfl
  apart := by
    intro pc guarding
    cases pc <;> first | rfl | cases guarding
  enter := by
    intro db after flagged call pc event next ran guarding inside
    obtain ⟨rfl, moved⟩ := Prod.mk.inj (Option.some.inj ran)
    rcases scoreStep_enters (Progress.next_eq_some moved) guarding inside with ⟨issued, pending⟩ | ⟨issued, running⟩
    · refine ⟨?_, .inl (congrArg rowCell pending)⟩
      simp only [scoreProtocol, issued]
      rw [statusOf_transitionStatus, show statusOf jobId db = some .pending from pending]
      rfl
    · have taken : rowCell (statusOf jobId db) = .taken := congrArg rowCell running
      refine ⟨?_, .inr taken⟩
      simp only [scoreProtocol, issued]
      exact taken
  keep := by
    intro db after flagged call pc event next ran outside
    obtain ⟨rfl, rfl⟩ := Prod.mk.inj (Option.some.inj ran)
    have outside (guarding : pc.guarding = true) (target : ScorePc)
        (moved : (scoreStep db flagged { call with jobId } pc event).2 = .goto target) :
        target.scoring.isSome = false :=
      outside guarding target (by rw [moved]; rfl)
    rcases scoreStep_keeps outside with same | ⟨status, v, error, issued, written⟩
    · exact .inl (congrArg rowCell same)
    · simp only [scoreProtocol, issued]
      rcases rowCell_updateOr event { call with jobId } status v error db with same | wrote
      · exact .inl same
      · refine .inr ?_
        rcases written with ended | ⟨inside, rfl⟩
        · exact .inl (wrote.trans (rowCell_of_terminal ended))
        · exact .inr ⟨inside, wrote⟩
  forward := by
    intro db after flagged call pc event next ran past
    obtain ⟨_, moved⟩ := Prod.mk.inj (Option.some.inj ran)
    exact scoreStep_forward (Progress.next_eq_some moved) past
  environment := by
    intro db statement after ran
    simp only [scoreProtocol] at ran
    split at ran <;> cases ran
    exact foreign_status ‹_› db

end Scoring

namespace Training

/-- The `model_runs` table with a row that is there to stay. -/
structure RunTable (modelRunId : String) where
  clock : Nat
  runs : Runs
  present : modelRunId ∈ runs

namespace RunTable

variable {modelRunId : String}

def execute (table : RunTable modelRunId) (statement : Statement) : RunTable modelRunId where
  clock := table.clock
  runs := statement.run table.clock table.runs
  present := Statement.mem_run.mpr (.inl table.present)

def tick (table : RunTable modelRunId) : RunTable modelRunId := { table with clock := table.clock + 1 }

def statusOf (table : RunTable modelRunId) : Option JobState := (table.runs.lookup modelRunId).map (·.status)

/-- The row as `CreateModelRun` or `CreateHpoTrialRun` leaves it. -/
def inserted (modelRunId : String) (clock : Nat) (runs : Runs) (datasetId name requestId : String) (hpoConfig : Bool)
    (parentRunId : Option String) (trialIndex : Option Nat) : RunTable modelRunId where
  clock := clock
  runs := runs.insert modelRunId (.inserted datasetId name requestId hpoConfig parentRunId trialIndex clock)
  present := (AList.mem_insert _).mpr (.inl rfl)

end RunTable

/-- Statements of code other than the workers of the row; `DELETE /train` and
the parent of a trial may end it. -/
def Statement.foreign (modelRunId : String) : Statement → Bool
  | .insert id _ | .transitionStatus id _ _ => decide (id ≠ modelRunId)
  | .updateStatus id status _ _ => decide (id ≠ modelRunId) || status.isTerminal
  | .nothing | .heartbeat _ | .trialEligibility _ _ _ | .reconcile _ => true

inductive Outside where
  | tick
  | statement (statement : Statement)

def RunTable.outside {modelRunId : String} (table : RunTable modelRunId) : Outside → Option (RunTable modelRunId)
  | .tick => some table.tick
  | .statement statement => if statement.foreign modelRunId then some (table.execute statement) else none

/-- Workers of one row of `model_runs`, by the body they run. -/
def runProtocol {modelRunId : String} {Call Pc Event : Type} (start : Pc) (entered : Pc → Bool)
    (body : RunTable modelRunId → Bool → Call → Pc → Event → Option (RunTable modelRunId × Option Pc)) :
    Protocol (RunTable modelRunId) Call Pc Event Outside where
  start := start
  body := body
  environment := RunTable.outside
  cell table := rowCell table.statusOf
  guarding pc := !entered pc
  inside := entered

def trainProtocol (modelRunId : String) : Protocol (RunTable modelRunId) TrainCall TrainPc Event Outside :=
  runProtocol .transition TrainPc.entered fun table flagged call pc event =>
    (trainStep table.runs flagged { call with modelRunId } pc event).map fun result =>
      (table.execute result.1, result.2.next)

/-- How a call of the orchestrator comes back, and whether `StartJob` takes the
trial when the call hands one over. -/
structure TuneEvent where
  event : Event
  accepted : Bool

def tuneProtocol (parentRunId : String) : Protocol (RunTable parentRunId) TuningTask TunePc TuneEvent Outside :=
  runProtocol .transition TunePc.entered fun table flagged task pc event =>
    (tuneStep table.clock table.runs flagged { task with parentRunId } pc event.event).map fun action =>
      match action with
      | .statement statement progress => (table.execute statement, progress.next)
      | .runPcaTraining _ starts admitted => (table, if starts && event.accepted then some admitted else none)

variable {modelRunId : String} {table : RunTable modelRunId}

theorem RunTable.statusOf_execute (statement : Statement) (fresh : ∀ row, statement ≠ .insert modelRunId row) :
    ∃ row, table.runs.lookup modelRunId = some row ∧
      (table.execute statement).statusOf = some (statement.statusAfter table.clock modelRunId row) := by
  obtain ⟨row, found⟩ := Table.exists_lookup table.present
  obtain ⟨after, present, _, status⟩ := Statement.lookup_run found fresh
  exact ⟨row, found, by rw [statusOf, execute, present, Option.map_some, status]⟩

theorem RunTable.cell_execute_foreign {statement : Statement} (foreign : statement.foreign modelRunId = true) :
    rowCell (table.execute statement).statusOf = rowCell table.statusOf ∨
      rowCell (table.execute statement).statusOf = .closed := by
  have fresh (row : ModelRun) : statement ≠ .insert modelRunId row := by
    rintro rfl
    simp [Statement.foreign] at foreign
  obtain ⟨row, found, after⟩ := table.statusOf_execute statement fresh
  have before : table.statusOf = some row.status := by rw [statusOf, found, Option.map_some]
  rw [after, before]
  clear after
  cases statement with
  | updateStatus id status artifactPath error =>
    by_cases same : modelRunId = id
    · have ended : status.isTerminal = true := by simpa [Statement.foreign, same] using foreign
      exact .inr (by rw [Statement.statusAfter, if_pos same, rowCell_of_terminal ended])
    · exact .inl (by rw [Statement.statusAfter, if_neg same])
  | transitionStatus id expected next =>
    have different : modelRunId ≠ id := Ne.symm (of_decide_eq_true foreign)
    exact .inl (by simp [Statement.statusAfter, different])
  | reconcile staleTtl =>
    simp only [Statement.statusAfter]
    split
    · exact .inr rfl
    · exact .inl rfl
  | nothing => exact .inl rfl
  | insert id row => exact .inl rfl
  | heartbeat id => exact .inl rfl
  | trialEligibility id isEligible reason => exact .inl rfl

theorem RunTable.statusOf_take : (table.execute (.transitionStatus modelRunId .pending .running)).statusOf =
    if table.statusOf = some .pending then some .running else table.statusOf := by
  obtain ⟨row, found, status⟩ := table.statusOf_execute (.transitionStatus modelRunId .pending .running) (by simp)
  have before : table.statusOf = some row.status := by rw [statusOf, found, Option.map_some]
  rw [status, before]
  by_cases pending : row.status = .pending <;> simp [Statement.statusAfter, pending]

theorem passesTransition_iff : passesTransition table.runs modelRunId = true ↔ table.statusOf = some .pending := by
  rw [passesTransition, RunTable.statusOf]
  cases table.runs.lookup modelRunId <;> simp

/-- What the guard and the rest of a body do to the row: `entered` is whether
the body is past its guard before the step, `next` whether it is after it. -/
structure RunTable.Respects (table : RunTable modelRunId) (statement : Statement) (entered : Bool)
    (next : Option Bool) : Prop where
  enter : entered = false → next = some true →
    (statement = .transitionStatus modelRunId .pending .running ∧ table.statusOf = some .pending) ∨
      (statement = .nothing ∧ table.statusOf = some .running)
  keep : (entered = false → next ≠ some true) → statement.foreign modelRunId = true ∨
    (statement = .transitionStatus modelRunId .pending .running ∧ table.statusOf ≠ some .pending)
  forward : entered = true → next ≠ some false

theorem RunTable.Respects.cell_enter {statement : Statement} {entered : Bool} {next : Option Bool}
    (respects : table.Respects statement entered next) (guarding : entered = false) (inside : next = some true) :
    rowCell (table.execute statement).statusOf = .taken ∧
      (rowCell table.statusOf = .free ∨ rowCell table.statusOf = .taken) := by
  rcases respects.enter guarding inside with ⟨rfl, pending⟩ | ⟨rfl, running⟩
  · exact ⟨by rw [statusOf_take, if_pos pending]; rfl, .inl (congrArg rowCell pending)⟩
  · exact ⟨congrArg rowCell running, .inr (congrArg rowCell running)⟩

theorem RunTable.Respects.cell_keep {statement : Statement} {entered : Bool} {next : Option Bool}
    (respects : table.Respects statement entered next) (outside : entered = false → next ≠ some true) :
    rowCell (table.execute statement).statusOf = rowCell table.statusOf ∨
      rowCell (table.execute statement).statusOf = .closed := by
  rcases respects.keep outside with foreign | ⟨rfl, busy⟩
  · exact RunTable.cell_execute_foreign foreign
  · exact .inl (by rw [statusOf_take, if_neg busy])

theorem RunTable.Respects.past {statement : Statement} {next : Option Bool}
    (past : statement.foreign modelRunId = true ∧ next ≠ some false) : table.Respects statement true next where
  enter := by simp
  keep := fun _ => .inl past.1
  forward := fun _ => past.2

/-- The compare-and-set passes exactly over a pending row. -/
theorem RunTable.Respects.transition {passes : Bool} (guard : passesTransition table.runs modelRunId = passes) :
    table.Respects (.transitionStatus modelRunId .pending .running) false (some passes) where
  enter _ inside := .inl ⟨rfl, passesTransition_iff.mp (guard.trans (Option.some.inj inside))⟩
  keep outside := .inr ⟨rfl, fun pending =>
    outside rfl (congrArg some (guard.symm.trans (passesTransition_iff.mpr pending)))⟩
  forward := by simp

/-- The second read lets a running row through. -/
theorem RunTable.Respects.readBack {row : ModelRun} (found : table.runs.lookup modelRunId = some row)
    (running : row.status = .running) : table.Respects .nothing false (some true) where
  enter _ _ := .inr ⟨rfl, by rw [statusOf, found, Option.map_some, running]⟩
  keep := fun _ => .inl rfl
  forward := by simp

theorem RunTable.Respects.refused {next : Option Bool} (outside : next ≠ some true) :
    table.Respects .nothing false next where
  enter := fun _ inside => absurd inside outside
  keep := fun _ => .inl rfl
  forward := by simp

theorem RunTable.outside_cell {env : Outside} {after : RunTable modelRunId} (ran : table.outside env = some after) :
    rowCell after.statusOf = rowCell table.statusOf ∨ rowCell after.statusOf = .closed := by
  cases env with
  | tick =>
    cases ran
    exact .inl rfl
  | statement statement =>
    simp only [RunTable.outside] at ran
    split at ran <;> cases ran
    exact RunTable.cell_execute_foreign ‹_›

theorem foreign_of_tried {event : Event} {intended statement : Statement} (foreign : intended.foreign modelRunId = true)
    (tried : Tried intended event statement) : statement.foreign modelRunId = true := by
  cases tried with
  | stored => exact foreign
  | lost what => rfl

/-- Past its guard a body ends its row or leaves it alone, and never goes back. -/
theorem trainStep_past {runs : Runs} {flagged : Bool} {call : TrainCall} {pc : TrainPc} {event : Event}
    {statement : Statement} {progress : Progress TrainPc} (entered : pc.entered = true)
    (ran : trainStep runs flagged call pc event = some (statement, progress)) :
    statement.foreign call.modelRunId = true ∧ progress.next.map TrainPc.entered ≠ some false := by
  have ends (status : JobState) (artifactPath error : String) (terminal : status.isTerminal = true) :
      (Statement.updateStatus call.modelRunId status artifactPath error).foreign call.modelRunId = true := by
    simp [Statement.foreign, terminal]
  cases trainStep_trains ran with
  | takes | late | unwritten | joins | leaves | missing | unread => cases entered
  | beats | skips | stops | trained | untrained | saves | unsaved =>
    exact ⟨rfl, by simp [Progress.next, TrainPc.entered]⟩
  | cancels _ _ tried => exact ⟨foreign_of_tried (ends _ _ _ rfl) tried, by simp [Progress.next]⟩
  | completes _ _ tried =>
    exact ⟨foreign_of_tried (ends _ _ _ rfl) tried, by simp [Progress.next, TrainPc.entered]⟩
  | fails what _ _ tried =>
    exact ⟨foreign_of_tried (ends _ _ _ rfl) tried, by simp [Progress.next, TrainPc.entered]⟩
  | marks _ _ tried => exact ⟨foreign_of_tried rfl tried, by simp [Progress.next]⟩
  | marksFailed what _ _ tried => exact ⟨foreign_of_tried rfl tried, by simp [Progress.next]⟩

theorem trainStep_respects {flagged : Bool} {call : TrainCall} {pc : TrainPc} {event : Event} {statement : Statement}
    {progress : Progress TrainPc} (own : call.modelRunId = modelRunId)
    (ran : trainStep table.runs flagged call pc event = some (statement, progress)) :
    table.Respects statement pc.entered (progress.next.map TrainPc.entered) := by
  subst own
  cases inside : pc.entered with
  | true => exact .past (trainStep_past inside ran)
  | false =>
    cases trainStep_trains ran with
    | takes passes => exact .transition passes
    | late blocked => exact .transition blocked
    | joins row found running => exact .readBack found running
    | unwritten => exact .refused (by simp [TrainPc.entered, Progress.next])
    | leaves | missing | unread => exact .refused (by simp [Progress.next])
    | beats | skips | stops | trained | untrained | saves | unsaved | cancels | completes | fails => cases inside
    | marks | marksFailed => cases inside

/-- Past its guard the orchestrator inserts rows of its own and may cancel its
parent; the row of the parent is there, so no trial takes its key. -/
theorem tuneStep_past {flagged : Bool} {task : TuningTask} {pc : TunePc} {event : Event} {statement : Statement}
    {progress : Progress TunePc} (own : task.parentRunId = modelRunId) (entered : pc.entered = true)
    (ran : tuneStep table.clock table.runs flagged task pc event = some (.statement statement progress)) :
    statement.foreign modelRunId = true ∧ progress.next.map TunePc.entered ≠ some false := by
  subst own
  cases tuneStep_tunes ran with
  | takes | late | unwritten | joins | leaves | missing | unread => cases entered
  | skips | created | stops | goesOn | waits | polled | polls =>
    exact ⟨rfl, by simp [Progress.next, TunePc.entered]⟩
  | uncreated | finishes | lost | unpolled => exact ⟨rfl, by simp [Progress.next]⟩
  | creates idx trialIds id left fresh =>
    -- the row of the parent is in the table, so no trial gets its id
    have different : id ≠ task.parentRunId := by
      rintro rfl
      exact fresh table.present
    exact ⟨by simpa [Statement.foreign] using different, by simp [Progress.next, TunePc.entered]⟩
  | unconfirmed idx trialIds id what left fresh =>
    have different : id ≠ task.parentRunId := by
      rintro rfl
      exact fresh table.present
    exact ⟨by simpa [Statement.foreign] using different, by simp [Progress.next]⟩
  | cancels d _ _ tried =>
    exact ⟨foreign_of_tried (by simp [Statement.foreign, JobState.isTerminal]) tried, by simp [Progress.next]⟩
  | beats d _ _ tried => exact ⟨foreign_of_tried rfl tried, by simp [Progress.next, TunePc.entered]⟩

theorem tuneStep_respects {flagged : Bool} {task : TuningTask} {pc : TunePc} {event : Event} {statement : Statement}
    {progress : Progress TunePc} (own : task.parentRunId = modelRunId)
    (ran : tuneStep table.clock table.runs flagged task pc event = some (.statement statement progress)) :
    table.Respects statement pc.entered (progress.next.map TunePc.entered) := by
  subst own
  cases inside : pc.entered with
  | true => exact .past (tuneStep_past rfl inside ran)
  | false =>
    cases tuneStep_tunes ran with
    | takes passes => exact .transition passes
    | late blocked => exact .transition blocked
    | joins row found running => exact .readBack found running
    | unwritten => exact .refused (by simp [TunePc.entered, Progress.next])
    | leaves | missing | unread => exact .refused (by simp [Progress.next])
    | creates | skips | uncreated | unconfirmed | created => cases inside
    | stops | goesOn | finishes | cancels | waits | beats => cases inside
    | polled | polls | lost | unpolled => cases inside

/-- A trial is handed over from behind the guard only. -/
theorem tuneStep_handsOver {now : Nat} {runs : Runs} {flagged : Bool} {task : TuningTask} {pc admitted : TunePc}
    {event : Event} {call : TrainCall} {starts : Bool}
    (ran : tuneStep now runs flagged task pc event = some (.runPcaTraining call starts admitted)) :
    pc.entered = true ∧ admitted.entered = true := by
  cases tuneStep_tunes ran with
  | dispatches => exact ⟨rfl, rfl⟩

theorem runProtocol_lawful {Call Pc Event : Type} {start : Pc} {entered : Pc → Bool}
    {body : RunTable modelRunId → Bool → Call → Pc → Event → Option (RunTable modelRunId × Option Pc)}
    (outside : entered start = false)
    (respects : ∀ {table after flagged call pc event next}, body table flagged call pc event = some (after, next) →
      ∃ statement, after = table.execute statement ∧ table.Respects statement (entered pc) (next.map entered)) :
    Lawful (runProtocol start entered body) where
  start := by simp [runProtocol, outside]
  apart := by simp [runProtocol]
  enter := by
    intro table after flagged call pc event next ran guarding inside
    obtain ⟨statement, rfl, respects⟩ := respects ran
    exact respects.cell_enter (by simpa [runProtocol] using guarding) (congrArg some inside)
  keep := by
    intro table after flagged call pc event next ran away
    obtain ⟨statement, rfl, respects⟩ := respects ran
    have closes := respects.cell_keep fun guarding inside => by
      obtain ⟨target, rfl, within⟩ := Option.map_eq_some_iff.mp inside
      have apart := away (by simpa [runProtocol] using guarding) target rfl
      simp [runProtocol, within] at apart
    exact closes.imp_right .inl
  forward := by
    intro table after flagged call pc event next ran past
    obtain ⟨statement, rfl, respects⟩ := respects ran
    have within : entered pc = true := by simpa [runProtocol] using past
    have still := respects.forward within
    simp only [Option.map_some, ne_eq, Option.some.injEq, Bool.not_eq_false] at still
    exact ⟨by simp [runProtocol, still], fun _ => within⟩
  environment := RunTable.outside_cell

theorem trainProtocol_lawful (modelRunId : String) : Lawful (trainProtocol modelRunId) := by
  apply runProtocol_lawful rfl
  intro table after flagged call pc event next ran
  obtain ⟨⟨statement, progress⟩, stepped, same⟩ := Option.map_eq_some_iff.mp ran
  cases same
  exact ⟨statement, rfl, trainStep_respects rfl stepped⟩

theorem tuneProtocol_lawful (parentRunId : String) : Lawful (tuneProtocol parentRunId) := by
  apply runProtocol_lawful rfl
  intro table after flagged task pc event next ran
  obtain ⟨action, stepped, same⟩ := Option.map_eq_some_iff.mp ran
  cases action with
  | statement statement progress =>
    cases same
    exact ⟨statement, rfl, tuneStep_respects rfl stepped⟩
  | runPcaTraining call starts admitted =>
    cases same
    -- handing a trial over touches the table only through the worker it starts
    obtain ⟨within, stays⟩ := tuneStep_handsOver stepped
    refine ⟨.nothing, rfl, ?_⟩
    rw [within]
    apply RunTable.Respects.past
    refine ⟨rfl, ?_⟩
    split <;> simp [stays]

theorem RunTable.cell_inserted (modelRunId : String) (clock : Nat) (runs : Runs) (datasetId name requestId : String)
    (hpoConfig : Bool) (parentRunId : Option String) (trialIndex : Option Nat) :
    rowCell (RunTable.inserted modelRunId clock runs datasetId name requestId hpoConfig parentRunId
      trialIndex).statusOf = .free := by
  simp [statusOf, inserted, ModelRun.inserted, rowCell]

end Training

namespace Scoring

theorem cell_inserted (db : Db) (jobId datasetId modelRunId requestId : String) :
    rowCell (statusOf jobId (db.run
      (.insertScoreJob jobId (.inserted datasetId modelRunId requestId db.clock)))) = .free := by
  simp [statusOf, Db.run, ScoreJob.inserted, rowCell]

end Scoring

open Scoring Training

/-- For every row of the two tables, from its insertion on and under any number
of its workers: at most one of them ever gets past the guard if and only if no
second read finds the row `RUNNING`. -/
theorem at_most_one_worker_iff (db : Db) (jobId : String) (clock : Nat) (runs : Runs)
    (modelRunId datasetId name requestId : String) (hpoConfig : Bool) (parentRunId : Option String)
    (trialIndex : Option Nat) (scoring : List (Label ScoreCall Scoring.Event Scoring.Statement))
    (training : List (Label TrainCall Training.Event Outside)) (tuning : List (Label TuningTask TuneEvent Outside)) :
    let job := db.run (.insertScoreJob jobId (.inserted datasetId modelRunId requestId db.clock))
    let run := RunTable.inserted modelRunId clock runs datasetId name requestId hpoConfig parentRunId trialIndex
    (States (scoreProtocol jobId).step Protocol.AtMostOneEntered ⟨job, []⟩ scoring ↔
        Steps (scoreProtocol jobId).step (scoreProtocol jobId).NoFallback ⟨job, []⟩ scoring) ∧
      (States (trainProtocol modelRunId).step Protocol.AtMostOneEntered ⟨run, []⟩ training ↔
        Steps (trainProtocol modelRunId).step (trainProtocol modelRunId).NoFallback ⟨run, []⟩ training) ∧
      (States (tuneProtocol modelRunId).step Protocol.AtMostOneEntered ⟨run, []⟩ tuning ↔
        Steps (tuneProtocol modelRunId).step (tuneProtocol modelRunId).NoFallback ⟨run, []⟩ tuning) := by
  intro job run
  have jobFree : rowCell (statusOf jobId job) = .free := cell_inserted db jobId datasetId modelRunId requestId
  have runFree : rowCell run.statusOf = .free :=
    RunTable.cell_inserted modelRunId clock runs datasetId name requestId hpoConfig parentRunId trialIndex
  refine ⟨?_, ?_, ?_⟩
  · exact (scoreProtocol_lawful jobId).atMostOne_iff jobFree scoring
  · exact (trainProtocol_lawful modelRunId).atMostOne_iff runFree training
  · exact (tuneProtocol_lawful modelRunId).atMostOne_iff runFree tuning

/-- A score job that has just been inserted. -/
def freshJob : Db := Db.run ⟨0, ∅, [], ∅⟩ (.insertScoreJob "j" (.inserted "d" "m" "r" 0))

/-- The second of two workers fails its transition and finds the row running. -/
def twoScorers : List (Label ScoreCall Scoring.Event Scoring.Statement) :=
  [.join ⟨"j", "d", "m", "r"⟩, .join ⟨"j", "d", "m", "s"⟩] ++ List.replicate 3 (.work 0 .done) ++
    List.replicate 4 (.work 1 .done)

def freshRun : RunTable "m" := .inserted "m" 0 ∅ "d" "pca_default" "r" false none none

def twoTrainers : List (Label TrainCall Training.Event Outside) :=
  [.join ⟨"m", ⟨"d", 3, 99⟩, "r"⟩, .join ⟨"m", ⟨"d", 3, 99⟩, "s"⟩, .work 0 .done, .work 1 .done, .work 1 .done]

theorem two_workers_past_guard :
    (¬ ∀ schedule, States (scoreProtocol "j").step Protocol.AtMostOneEntered ⟨freshJob, []⟩ schedule) ∧
      ¬ ∀ schedule, States (trainProtocol "m").step Protocol.AtMostOneEntered ⟨freshRun, []⟩ schedule := by
  constructor
  · intro all
    have both : (exec (scoreProtocol "j").step ⟨freshJob, []⟩ twoScorers).any
        (fun pool => decide (1 < Protocol.entered pool)) = true := by decide +kernel
    obtain ⟨final, run, two⟩ := (Option.any_eq_true _ _).mp both
    exact absurd ((all twoScorers).exec run) (not_le.mpr (of_decide_eq_true two))
  · intro all
    have both : (exec (trainProtocol "m").step ⟨freshRun, []⟩ twoTrainers).any
        (fun pool => decide (1 < Protocol.entered pool)) = true := by decide +kernel
    obtain ⟨final, run, two⟩ := (Option.any_eq_true _ _).mp both
    exact absurd ((all twoTrainers).exec run) (not_le.mpr (of_decide_eq_true two))

end TelemetryLab
