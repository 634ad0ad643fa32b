import TelemetryLab.Generation.Generator
import TelemetryLab.Scoring.Finality

/-! Scoring workers, generation runs and the reconciler over one database.

The generators run in a process of their own, and any server process may sweep
both tables, at its start without a time limit. Past its first statement a
generator, like a scoring worker past its guard, writes the status of its row
without looking at it.
-/

set_option autoImplicit false
namespace TelemetryLab.Fleet
open Jobs Generation Transition

/-- The statuses of both tables are spelled alike, up to the successful one. -/
def jobState : RunState → JobState
  | .pending => .pending
  | .running => .running
  | .succeeded => .completed
  | .failed => .failed
  | .cancelled => .cancelled

structure GenerationRun where
  status : RunState
  insertedRows : Int
  error : Option String
  requestId : String
  updatedAt : Nat
  deriving DecidableEq, Repr

abbrev GenerationRuns := Table String GenerationRun

namespace GenerationRun

/-- `UpdateRunStatus`: an empty error leaves the stored one. -/
def update (now : Nat) (status : RunState) (insertedRows : Int) (error : String) (row : GenerationRun) : GenerationRun :=
  let row := { row with status, insertedRows, updatedAt := now }
  if error ≠ "" then { row with error := some error } else row

def stale (staleTtl : Option Nat) (now : Nat) (row : GenerationRun) : Bool :=
  Jobs.stale staleTtl now (jobState row.status) row.updatedAt

def reconcile (staleTtl : Option Nat) (now : Nat) (row : GenerationRun) : GenerationRun :=
  if row.stale staleTtl now then
    { row with status := .failed, error := some (reconcileError staleTtl), updatedAt := now }
  else row

@[simp] theorem update_status (now : Nat) (status : RunState) (insertedRows : Int) (error : String)
    (row : GenerationRun) : (row.update now status insertedRows error).status = status := by
  simp only [update]
  split <;> rfl

end GenerationRun

/-- `run_id` is the primary key, so a second insert fails and is ignored. -/
def runStatement (now : Nat) (runId : String) (runs : GenerationRuns) : RunStatement → GenerationRuns
  | .nothing => runs
  | .createRun status requestId => if runId ∈ runs then runs else runs.insert runId ⟨status, 0, none, requestId, now⟩
  | .heartbeat => Table.modify runId (fun row => { row with updatedAt := now }) runs
  | .updateRunStatus status insertedRows error =>
    Table.modify runId (GenerationRun.update now status insertedRows error) runs

structure Job where
  runId : String
  request : GenerateRequest
  maxQueueSize : Nat
  generator : Generator
  deriving DecidableEq

/-- The generator has not made its last write yet. -/
def Job.writing (job : Job) : Bool := decide (job.generator.pc ≠ .returned)

structure World where
  scoring : Scoring.World
  runs : GenerationRuns
  jobs : List Job

def World.init : World := ⟨.init, ∅, []⟩

def World.clock (w : World) : Nat := w.scoring.db.clock

inductive Label where
  | scoring (label : Scoring.Label)
  | generate (runId : String) (request : GenerateRequest) (maxQueueSize : Nat)
  | generator (i : Nat) (label : Generation.Label)
  | reconcile (staleTtl : Option Nat)

def step (w : World) : Label → Option World
  -- a sweep covers both tables in one transaction
  | .scoring (.reconcile _) => none
  | .scoring label => (Scoring.step w.scoring label).map fun scoring => { w with scoring }
  -- the run id is a new UUID
  | .generate runId request maxQueueSize =>
    if runId ∈ w.runs ∨ ∃ job ∈ w.jobs, job.runId = runId then none
    else some { w with jobs := w.jobs ++ [⟨runId, request, maxQueueSize, .init⟩] }
  | .generator i label =>
    match w.jobs[i]? with
    | none => none
    | some job => (Generation.act job.request job.maxQueueSize job.generator label).map fun result =>
        { w with
          runs := runStatement w.clock job.runId w.runs result.1
          jobs := w.jobs.set i { job with generator := result.2 } }
  | .reconcile staleTtl => (Scoring.step w.scoring (.reconcile staleTtl)).map fun scoring =>
      { w with scoring, runs := Table.update (fun _ => GenerationRun.reconcile staleTtl w.clock) w.runs }

/-! ## The property and its condition -/

/-- The finished rows of both tables keep their status. -/
def StayFinished (before after : World) : Prop :=
  Scoring.JobsStayFinished before.scoring after.scoring ∧
    ∀ runId row, before.runs.lookup runId = some row → row.status.isTerminal = true →
      ∃ later, after.runs.lookup runId = some later ∧ later.status = row.status

/-- A sweep hits no row that a worker past its guard or a generator will still
write, and a worker gets past its guard only over an open row. -/
def Calm (w : World) : Label → Prop
  | .scoring label => Scoring.Calm w.scoring label
  | .reconcile staleTtl => Scoring.SweepSpares w.scoring staleTtl ∧
      ∀ job ∈ w.jobs, job.writing = true → ∀ row ∈ w.runs.lookup job.runId, row.stale staleTtl w.clock = false
  | .generate _ _ _ | .generator _ _ => True

instance (w : World) : (label : Label) → Decidable (Calm w label)
  | .scoring label => inferInstanceAs (Decidable (Scoring.Calm w.scoring label))
  | .reconcile staleTtl => inferInstanceAs (Decidable (Scoring.SweepSpares w.scoring staleTtl ∧
      ∀ job ∈ w.jobs, job.writing = true → ∀ row ∈ w.runs.lookup job.runId, row.stale staleTtl w.clock = false))
  | .generate _ _ _ | .generator _ _ => .isTrue trivial

/-- Every generator that will write has its unfinished row to itself. -/
structure Exclusive (w : World) : Prop where
  scoring : Scoring.Exclusive w.scoring
  alone : ∀ (i j : Nat) (first second : Job), w.jobs[i]? = some first → w.jobs[j]? = some second →
    first.runId = second.runId → i = j
  unfinished : ∀ (i : Nat) (job : Job), w.jobs[i]? = some job → job.writing = true →
    ∀ row, w.runs.lookup job.runId = some row → row.status.isTerminal = false

theorem init_exclusive : Exclusive .init where
  scoring := Scoring.init_exclusive
  alone := by simp [World.init]
  unfinished := by simp [World.init]

/-! ## What a generator writes -/

theorem generator_statement {request : GenerateRequest} {maxQueueSize : Nat} {g next : Generator}
    {label : Generation.Label} {statement : RunStatement}
    (acted : Generation.act request maxQueueSize g label = some (statement, next)) :
    (g.pc = .returned → next.pc = .returned ∧ statement = .nothing) ∧
      (statement = .nothing ∨ statement = .heartbeat ∨ (∃ requestId, statement = .createRun .running requestId) ∨
        ∃ status insertedRows error, statement = .updateRunStatus status insertedRows error ∧
          (status = .running ∨ next.pc = .returned)) := by
  cases label with
  | produce ok =>
    unfold Generation.act Generator.produce at acted
    cases pc : g.pc <;> simp only [pc] at acted <;> grind
  | write ok =>
    obtain ⟨written, ran, same⟩ := Option.map_eq_some_iff.mp acted
    cases same
    refine ⟨fun returned => ⟨?_, rfl⟩, .inl rfl⟩
    unfold Generator.write at ran
    grind
  | cancel =>
    cases acted
    exact ⟨fun returned => ⟨returned, rfl⟩, .inl rfl⟩
  | destroy =>
    simp only [Generation.act] at acted
    split at acted <;> cases acted
    exact ⟨fun returned => ⟨returned, rfl⟩, .inl rfl⟩

theorem runStatement_other {now : Nat} {runId other : String} {runs : GenerationRuns} (statement : RunStatement)
    (different : other ≠ runId) : (runStatement now runId runs statement).lookup other = runs.lookup other := by
  cases statement with
  | nothing => rfl
  | createRun status requestId =>
    simp only [runStatement]
    split
    · rfl
    · exact AList.lookup_insert_ne different
  | heartbeat => exact Table.lookup_modify_ne _ _ different
  | updateRunStatus status insertedRows error => exact Table.lookup_modify_ne _ _ different

/-- The row of a generator after one of its statements. -/
theorem runStatement_own {now : Nat} {runId : String} {runs : GenerationRuns} {statement : RunStatement}
    {later : GenerationRun} (stored : (runStatement now runId runs statement).lookup runId = some later) :
    (∃ row, runs.lookup runId = some row ∧ later.status = row.status) ∨
      (∃ requestId, statement = .createRun later.status requestId) ∨
      ∃ insertedRows error, statement = .updateRunStatus later.status insertedRows error := by
  cases statement with
  | nothing => exact .inl ⟨later, stored, rfl⟩
  | createRun status requestId =>
    simp only [runStatement] at stored
    split at stored
    · exact .inl ⟨later, stored, rfl⟩
    · rw [AList.lookup_insert] at stored
      cases stored
      exact .inr (.inl ⟨requestId, rfl⟩)
  | heartbeat =>
    rw [runStatement, Table.lookup_modify_self] at stored
    obtain ⟨row, found, rfl⟩ := Option.map_eq_some_iff.mp stored
    exact .inl ⟨row, found, rfl⟩
  | updateRunStatus status insertedRows error =>
    rw [runStatement, Table.lookup_modify_self] at stored
    obtain ⟨row, found, rfl⟩ := Option.map_eq_some_iff.mp stored
    exact .inr (.inr ⟨insertedRows, error, by simp⟩)

/-- What a step of the fleet is made of. -/
theorem step_cases {w next : World} {label : Label} (taken : step w label = some next) :
    (∃ inner scoring, label = .scoring inner ∧ Scoring.step w.scoring inner = some scoring ∧ next = { w with scoring }) ∨
      (∃ runId request maxQueueSize, label = .generate runId request maxQueueSize ∧ runId ∉ w.runs ∧
        (∀ job ∈ w.jobs, job.runId ≠ runId) ∧
        next = { w with jobs := w.jobs ++ [⟨runId, request, maxQueueSize, .init⟩] }) ∨
      (∃ i inner job statement generator, label = .generator i inner ∧ w.jobs[i]? = some job ∧
        Generation.act job.request job.maxQueueSize job.generator inner = some (statement, generator) ∧
        next = { w with
          runs := runStatement w.clock job.runId w.runs statement
          jobs := w.jobs.set i { job with generator } }) ∨
      ∃ staleTtl scoring, label = .reconcile staleTtl ∧
        Scoring.step w.scoring (.reconcile staleTtl) = some scoring ∧
        next = { w with scoring, runs := Table.update (fun _ => GenerationRun.reconcile staleTtl w.clock) w.runs } := by
  cases label with
  | scoring inner =>
    have stepped : (Scoring.step w.scoring inner).map (fun scoring => { w with scoring }) = some next := by
      cases inner with
      | reconcile staleTtl => cases taken
      | _ => exact taken
    obtain ⟨scoring, ran, rfl⟩ := Option.map_eq_some_iff.mp stepped
    exact .inl ⟨inner, scoring, rfl, ran, rfl⟩
  | generate runId request maxQueueSize =>
    simp only [step] at taken
    split at taken
    · cases taken
    next fresh =>
      cases taken
      obtain ⟨absent, unused⟩ := not_or.mp fresh
      exact .inr (.inl ⟨runId, request, maxQueueSize, rfl, absent, fun job member same => unused ⟨job, member, same⟩, rfl⟩)
  | generator i inner =>
    simp only [step] at taken
    split at taken
    · cases taken
    next job found =>
      obtain ⟨⟨statement, generator⟩, acted, rfl⟩ := Option.map_eq_some_iff.mp taken
      exact .inr (.inr (.inl ⟨i, inner, job, statement, generator, rfl, found, acted, rfl⟩))
  | reconcile staleTtl =>
    simp only [step] at taken
    obtain ⟨scoring, ran, rfl⟩ := Option.map_eq_some_iff.mp taken
    exact .inr (.inr (.inr ⟨staleTtl, scoring, rfl, ran, rfl⟩))

/-- A generator at work finds its own row unfinished, and finishes it with its last write. -/
theorem generator_unfinished {w : World} {i : Nat} {job : Job} {inner : Generation.Label} {statement : RunStatement}
    {generator : Generator} (exclusive : Exclusive w) (found : w.jobs[i]? = some job)
    (acted : Generation.act job.request job.maxQueueSize job.generator inner = some (statement, generator))
    (writing : generator.pc ≠ .returned) {later : GenerationRun}
    (stored : (runStatement w.clock job.runId w.runs statement).lookup job.runId = some later) :
    later.status.isTerminal = false := by
  obtain ⟨absorbing, statements⟩ := generator_statement acted
  have before : job.writing = true := decide_eq_true fun returned => writing (absorbing returned).1
  rcases runStatement_own stored with ⟨row, present, same⟩ | ⟨requestId, created⟩ | ⟨insertedRows, error, updated⟩
  · rw [same]
    exact exclusive.unfinished i job found before row present
  · grind [RunState.isTerminal]
  · grind [RunState.isTerminal]

theorem generate_exclusive {w : World} (exclusive : Exclusive w) {runId : String} (request : GenerateRequest)
    (maxQueueSize : Nat) (absent : runId ∉ w.runs) (unused : ∀ job ∈ w.jobs, job.runId ≠ runId) :
    Exclusive { w with jobs := w.jobs ++ [⟨runId, request, maxQueueSize, .init⟩] } := by
  have other_or_new (j : Nat) (job : Job)
      (at_ : (w.jobs ++ [⟨runId, request, maxQueueSize, .init⟩])[j]? = some job) :
      w.jobs[j]? = some job ∨ j = w.jobs.length ∧ job.runId = runId := by
    rw [List.getElem?_append] at at_
    split at at_
    · exact .inl at_
    · rw [List.getElem?_singleton] at at_
      split at at_ <;> cases at_
      exact .inr ⟨by omega, rfl⟩
  refine ⟨exclusive.scoring, ?_, ?_⟩
  · intro j k first second firstAt secondAt same
    rcases other_or_new j first firstAt with old | ⟨rfl, new⟩ <;>
      rcases other_or_new k second secondAt with old' | ⟨rfl, new'⟩
    · exact exclusive.alone j k first second old old' same
    · exact absurd (same.trans new') (unused first (List.mem_of_getElem? old))
    · exact absurd (same.symm.trans new) (unused second (List.mem_of_getElem? old'))
    · rfl
  · intro j job at_ writing row present
    rcases other_or_new j job at_ with old | ⟨_, new⟩
    · exact exclusive.unfinished j job old writing row present
    · rw [new] at present
      exact absurd (Table.mem_of_lookup present) absent

theorem generator_exclusive {w : World} (exclusive : Exclusive w) {i : Nat} {inner : Generation.Label} {job : Job}
    {statement : RunStatement} {generator : Generator} (found : w.jobs[i]? = some job)
    (acted : Generation.act job.request job.maxQueueSize job.generator inner = some (statement, generator)) :
    Exclusive { w with
      runs := runStatement w.clock job.runId w.runs statement
      jobs := w.jobs.set i { job with generator } } := by
  have job_at (j : Nat) (other : Job) (at_ : (w.jobs.set i { job with generator })[j]? = some other) :
      (i = j ∧ other = { job with generator }) ∨ (i ≠ j ∧ w.jobs[j]? = some other) := by
    by_cases here : i = j
    · subst here
      rw [List.getElem?_set_self (List.getElem?_eq_some_iff.mp found).1] at at_
      exact .inl ⟨rfl, (Option.some.inj at_).symm⟩
    · rw [List.getElem?_set_ne here] at at_
      exact .inr ⟨here, at_⟩
  have original (j : Nat) (other : Job) (at_ : (w.jobs.set i { job with generator })[j]? = some other) :
      ∃ old, w.jobs[j]? = some old ∧ old.runId = other.runId := by
    rcases job_at j other at_ with ⟨rfl, rfl⟩ | ⟨_, old⟩
    · exact ⟨job, found, rfl⟩
    · exact ⟨other, old, rfl⟩
  refine ⟨exclusive.scoring, ?_, ?_⟩
  · intro j k first second firstAt secondAt same
    obtain ⟨old, oldAt, oldRun⟩ := original j first firstAt
    obtain ⟨old', oldAt', oldRun'⟩ := original k second secondAt
    exact exclusive.alone j k old old' oldAt oldAt' (by rw [oldRun, oldRun', same])
  · intro j other at_ writing row present
    rcases job_at j other at_ with ⟨rfl, rfl⟩ | ⟨apart, old⟩
    · exact generator_unfinished exclusive found acted (of_decide_eq_true writing) present
    · -- the statement is on another row: run ids are not shared
      have different : other.runId ≠ job.runId := fun same => apart (exclusive.alone i j job other found old same.symm)
      rw [runStatement_other statement different] at present
      exact exclusive.unfinished j other old writing row present

theorem reconcile_exclusive {w : World} (exclusive : Exclusive w) {staleTtl : Option Nat}
    (calm : Calm w (.reconcile staleTtl)) {scoring : Scoring.World}
    (ran : Scoring.step w.scoring (.reconcile staleTtl) = some scoring) :
    Exclusive { w with scoring, runs := Table.update (fun _ => GenerationRun.reconcile staleTtl w.clock) w.runs } := by
  refine ⟨Scoring.step_exclusive w.scoring (.reconcile staleTtl) scoring exclusive.scoring calm.1 ran,
    exclusive.alone, ?_⟩
  intro j job at_ writing row present
  rw [Table.lookup_update] at present
  obtain ⟨old, oldAt, rfl⟩ := Option.map_eq_some_iff.mp present
  have spared := calm.2 job (List.mem_of_getElem? at_) writing old oldAt
  simp only [GenerationRun.reconcile, spared]
  exact exclusive.unfinished j job at_ writing old oldAt

theorem step_exclusive (w : World) (label : Label) (next : World) (exclusive : Exclusive w) (calm : Calm w label)
    (taken : step w label = some next) : Exclusive next := by
  rcases step_cases taken with ⟨inner, scoring, rfl, ran, rfl⟩ | ⟨runId, request, maxQueueSize, rfl, absent, unused, rfl⟩ |
    ⟨i, inner, job, statement, generator, rfl, found, acted, rfl⟩ | ⟨staleTtl, scoring, rfl, ran, rfl⟩
  · exact ⟨Scoring.step_exclusive _ _ _ exclusive.scoring calm ran, exclusive.alone, exclusive.unfinished⟩
  · exact generate_exclusive exclusive request maxQueueSize absent unused
  · exact generator_exclusive exclusive found acted
  · exact reconcile_exclusive exclusive calm ran

theorem step_stays_finished (w : World) (label : Label) (next : World) (exclusive : Exclusive w)
    (taken : step w label = some next) : StayFinished w next := by
  rcases step_cases taken with ⟨inner, scoring, rfl, ran, rfl⟩ | ⟨runId, request, maxQueueSize, rfl, _, _, rfl⟩ |
    ⟨i, inner, job, statement, generator, rfl, found, acted, rfl⟩ | ⟨staleTtl, scoring, rfl, ran, rfl⟩
  · exact ⟨Scoring.step_stays_finished _ _ _ exclusive.scoring ran, fun _ row present _ => ⟨row, present, rfl⟩⟩
  · exact ⟨fun _ row present _ => ⟨row, present, rfl⟩, fun _ row present _ => ⟨row, present, rfl⟩⟩
  · refine ⟨fun _ row present _ => ⟨row, present, rfl⟩, fun runId row present ended => ?_⟩
    by_cases own : runId = job.runId
    · -- the row is finished, so the generator has returned and writes nothing
      subst own
      have returned : job.generator.pc = .returned := by
        by_contra writing
        rw [exclusive.unfinished i job found (decide_eq_true writing) row present] at ended
        cases ended
      have silent := ((generator_statement acted).1 returned).2
      exact ⟨row, by rw [silent]; exact present, rfl⟩
    · exact ⟨row, (runStatement_other statement own).trans present, rfl⟩
  · refine ⟨Scoring.step_stays_finished _ _ _ exclusive.scoring ran, fun runId row present ended => ?_⟩
    refine ⟨row.reconcile staleTtl w.clock, by simp [present], ?_⟩
    -- a sweep looks for live rows only
    have missed : row.stale staleTtl w.clock = false := by
      by_contra hit
      have live := stale_live (by simpa [GenerationRun.stale] using hit)
      cases status : row.status <;> simp_all [jobState, RunState.isTerminal, JobState.isTerminal]
    simp [GenerationRun.reconcile, missed]

theorem finished_rows_stay_finished (schedule : List Label) (calm : Steps step Calm .init schedule) :
    Changes step StayFinished .init schedule :=
  steps_of_steps step_exclusive
    (fun w label next exclusive _ taken other same => by
      cases taken.symm.trans same
      exact step_stays_finished w label next exclusive taken)
    init_exclusive calm

/-! ## Two runs -/

/-- A request for a score job of dataset `d`, up to the start of its worker. -/
def scoreRequested : List Label :=
  [.scoring (.ingest 1 "d"), .scoring (.request "d" "m" "r"), .scoring (.requestStep 0 .done),
    .scoring (.requestStep 0 (.created "j")), .scoring (.requestStep 0 .done), .scoring (.requestStep 0 .done)]

/-- A sweep with a time limit while the worker runs, then a generator, then a
sweep without one after both have ended. -/
def sweptInPeace : List Label :=
  scoreRequested ++ List.replicate 4 (.scoring (.work 0 .done)) ++ [.reconcile (some 60)] ++
    List.replicate 9 (.scoring (.work 0 .done)) ++ [.generate "g" ⟨1, 0, 60, 60, "r"⟩ 100] ++
    List.replicate 2 (.generator 0 (.produce true)) ++ [.generator 0 (.write true)] ++
    List.replicate 7 (.generator 0 (.produce true)) ++ List.replicate 2 (.generator 0 (.write true)) ++
    List.replicate 2 (.generator 0 (.produce true)) ++ [.scoring .tick, .reconcile none]

def World.jobStatus (w : World) (jobId : String) : Option JobState :=
  (w.scoring.db.jobs.lookup jobId).map (·.status)

def World.runStatus (w : World) (runId : String) : Option RunState := (w.runs.lookup runId).map (·.status)

theorem finished_rows_stay_finished_sweptInPeace :
    (exec step World.init sweptInPeace).map (fun w => (w.jobStatus "j", w.runStatus "g")) =
        some (some .completed, some .succeeded) ∧
      Changes step StayFinished World.init sweptInPeace :=
  ⟨by decide +kernel, finished_rows_stay_finished sweptInPeace (by decide +kernel)⟩

theorem not_stay_finished_of_statuses {first : List Label} {label : Label} {jobId : String} {old new : JobState}
    (before : (exec step World.init first).map (·.jobStatus jobId) = some (some old))
    (after : (exec step World.init (first ++ [label])).map (·.jobStatus jobId) = some (some new))
    (ended : old.isTerminal = true) (different : new ≠ old) :
    ¬ Changes step StayFinished World.init (first ++ [label]) := by
  intro changes
  obtain ⟨final, run, status⟩ := Option.map_eq_some_iff.mp after
  obtain ⟨middle, reached, stays, _⟩ := changes.last run
  rw [reached, Option.map_some, Option.some.injEq] at before
  obtain ⟨row, found, rfl⟩ := Option.map_eq_some_iff.mp before
  obtain ⟨later, present, same⟩ := stays jobId row found ended
  rw [World.jobStatus, present, Option.map_some, Option.some.injEq] at status
  exact different (status.symm.trans same)

/-- The startup sweep of another server fails the row of a worker that has just
taken it. -/
def sweptWhileRunning : List Label :=
  scoreRequested ++ List.replicate 3 (.scoring (.work 0 .done)) ++ [.reconcile none]

/-- The next progress write makes the failed row run again. -/
theorem swept_row_runs_again : ¬ ∀ schedule : List Label, Changes step StayFinished World.init schedule := by
  intro all
  have swept : (exec step World.init sweptWhileRunning).map (·.jobStatus "j") = some (some .failed) := by
    decide +kernel
  have revived : (exec step World.init (sweptWhileRunning ++ [.scoring (.work 0 .done)])).map (·.jobStatus "j") =
      some (some .running) := by decide +kernel
  exact not_stay_finished_of_statuses swept revived rfl (by decide) (all _)

end TelemetryLab.Fleet
