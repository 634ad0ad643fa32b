import TelemetryLab.Scoring.World

/-! Live score jobs of a pair.

`CreateScoreJob` looks for a live job and inserts one if it finds none. The two
statements are one transaction, but under `READ COMMITTED` the select of a
second transaction runs before the insert of the first is visible, and no index
of the table stands in its way. A row also becomes live again when a worker
reports progress on a job that a sweep has ended.
-/

set_option autoImplicit false
namespace TelemetryLab.Scoring
open Jobs Transition

/-- At most one live job for each dataset and model run. -/
def OneLive (w : World) : Prop := ∀ datasetId modelRunId, (w.db.liveScoreJobs datasetId modelRunId).length ≤ 1

/-- The points at which the body writes `RUNNING`. -/
def ScorePc.reports : ScorePc → Bool
  | .announce _ | .progress _ => true
  | _ => false

/-- The step makes a job live, by an insert or by a report on a finished row,
only while the pair of the job has no live one. -/
def Unrivalled (w : World) : Label → Prop
  | .requestStep i (.created _) =>
    ∀ request ∈ w.requests[i]?, w.db.liveScoreJobs request.datasetId request.modelRunId = []
  | .work i .done => ∀ worker ∈ w.workers[i]?, worker.pc.reports = true →
      ∀ row ∈ w.db.jobs.lookup worker.call.jobId, row.status.isTerminal = true →
        w.db.liveScoreJobs row.datasetId row.modelRunId = []
  | _ => True

/-! ## Counting -/

def ScoreJob.live (datasetId modelRunId : String) (row : ScoreJob) : Bool :=
  decide (row.datasetId = datasetId) && decide (row.modelRunId = modelRunId) && !row.status.isTerminal

/-- The weight of a row in the count of live jobs. -/
def ScoreJob.liveWeight (datasetId modelRunId : String) (row : ScoreJob) : ℕ :=
  (row.live datasetId modelRunId).toNat

theorem length_liveScoreJobs (db : Db) (datasetId modelRunId : String) :
    (db.liveScoreJobs datasetId modelRunId).length = Table.total (ScoreJob.liveWeight datasetId modelRunId) db.jobs := by
  unfold Db.liveScoreJobs Table.total
  rw [List.length_map]
  induction db.jobs.entries with
  | nil => rfl
  | cons entry rest ih =>
    rw [List.map_cons, List.sum_cons, ← ih]
    have same : (decide (entry.2.datasetId = datasetId) && decide (entry.2.modelRunId = modelRunId) &&
        (decide (entry.2.status = .pending) || decide (entry.2.status = .running))) =
        entry.2.live datasetId modelRunId := by
      unfold ScoreJob.live
      cases entry.2.status <;> rfl
    rw [List.filter_cons, same, ScoreJob.liveWeight]
    cases entry.2.live datasetId modelRunId <;> simp [Nat.add_comm]

theorem liveScoreJobs_eq_nil (db : Db) (datasetId modelRunId : String) :
    db.liveScoreJobs datasetId modelRunId = [] ↔ Table.total (ScoreJob.liveWeight datasetId modelRunId) db.jobs = 0 := by
  rw [← length_liveScoreJobs, List.length_eq_zero_iff]

/-- A row that keeps its pair and does not come to life weighs no more. -/
theorem liveWeight_le {row later : ScoreJob} (dataset : later.datasetId = row.datasetId)
    (model : later.modelRunId = row.modelRunId)
    (ended : row.status.isTerminal = true → later.status.isTerminal = true) (datasetId modelRunId : String) :
    later.liveWeight datasetId modelRunId ≤ row.liveWeight datasetId modelRunId := by
  unfold ScoreJob.liveWeight ScoreJob.live
  rw [dataset, model]
  cases status : row.status.isTerminal with
  | true => simp [ended status]
  | false =>
    refine Bool.toNat_le_toNat fun both => ?_
    simp only [Bool.and_eq_true] at both
    simp [both.1]

/-- What a step does to the counts: none grows, or that of one pair grows by one. -/
inductive Effect (w : World) (label : Label) (jobs : Table String ScoreJob) : Prop
  | fewer (solo : Unrivalled w label) (less : ∀ datasetId modelRunId,
      Table.total (ScoreJob.liveWeight datasetId modelRunId) jobs ≤
        Table.total (ScoreJob.liveWeight datasetId modelRunId) w.db.jobs)
  | more (row : ScoreJob) (solo : Unrivalled w label ↔ w.db.liveScoreJobs row.datasetId row.modelRunId = [])
      (counts : ∀ datasetId modelRunId, Table.total (ScoreJob.liveWeight datasetId modelRunId) jobs =
        (decide (row.datasetId = datasetId) && decide (row.modelRunId = modelRunId)).toNat +
          Table.total (ScoreJob.liveWeight datasetId modelRunId) w.db.jobs)

theorem Effect.same {w : World} {label : Label} (solo : Unrivalled w label) : Effect w label w.db.jobs :=
  .fewer solo fun _ _ => le_rfl

theorem total_modify_le {f : ScoreJob → ScoreJob} (jobs : Table String ScoreJob) (jobId : String)
    (kept : ∀ row, (f row).datasetId = row.datasetId ∧ (f row).modelRunId = row.modelRunId)
    (ended : ∀ row ∈ jobs.lookup jobId, row.status.isTerminal = true → (f row).status.isTerminal = true)
    (datasetId modelRunId : String) :
    Table.total (ScoreJob.liveWeight datasetId modelRunId) (Table.modify jobId f jobs) ≤
      Table.total (ScoreJob.liveWeight datasetId modelRunId) jobs := by
  cases found : jobs.lookup jobId with
  | none =>
    have absent := AList.lookup_eq_none.mp found
    rw [Table.modify_of_not_mem f absent]
  | some row =>
    have counts := Table.total_modify_add (ScoreJob.liveWeight datasetId modelRunId) f found
    have less := liveWeight_le (kept row).1 (kept row).2 (ended row found) datasetId modelRunId
    omega

theorem update_pair (now : Nat) (status : JobState) (totalRows processedRows lastRecordId : Int) (error : String)
    (row : ScoreJob) :
    (row.update now status totalRows processedRows lastRecordId error).datasetId = row.datasetId ∧
      (row.update now status totalRows processedRows lastRecordId error).modelRunId = row.modelRunId := by
  unfold ScoreJob.update
  dsimp only
  split
  · exact ⟨rfl, rfl⟩
  · split <;> exact ⟨rfl, rfl⟩

/-! ## The step -/

attribute [local simp] Unrivalled

theorem insert_effect {w : World} {i : Nat} {request : Request} {jobId : String}
    (found : w.requests[i]? = some request) (fresh : jobId ∉ w.db.jobs) :
    Effect w (.requestStep i (.created jobId)) (w.db.jobs.insert jobId
      (.inserted request.datasetId request.modelRunId request.requestId w.db.clock)) := by
  refine .more (.inserted request.datasetId request.modelRunId request.requestId w.db.clock) ?_
    fun datasetId modelRunId => ?_
  · simp [found, ScoreJob.inserted]
  · rw [Table.total_insert, Table.total_erase_of_not_mem _ fresh]
    simp [ScoreJob.liveWeight, ScoreJob.live, ScoreJob.inserted, JobState.isTerminal]

/-- A report keeps a live row alive and brings a finished one back. -/
theorem report_effect {w : World} {i : Nat} {worker : Worker} (found : w.workers[i]? = some worker)
    (reports : worker.pc.reports = true) (v : Cursor) :
    Effect w (.work i .done) (w.db.run (updateOr .done worker.call .running v "")).jobs := by
  have unrivalled : Unrivalled w (.work i .done) ↔ ∀ row ∈ w.db.jobs.lookup worker.call.jobId,
      row.status.isTerminal = true → w.db.liveScoreJobs row.datasetId row.modelRunId = [] := by
    simp [found, reports]
  have kept (row : ScoreJob) := update_pair w.db.clock .running v.total v.processed v.lastRecord "" row
  by_cases finished : ∃ row ∈ w.db.jobs.lookup worker.call.jobId, row.status.isTerminal = true
  · obtain ⟨row, present, ended⟩ := finished
    rw [Option.mem_def] at present
    refine .more row ?_ fun datasetId modelRunId => ?_
    · rw [unrivalled, present]
      simp [ended]
    · have counts := Table.total_modify_add (ScoreJob.liveWeight datasetId modelRunId)
        (ScoreJob.update w.db.clock .running v.total v.processed v.lastRecord "") present
      have before : row.liveWeight datasetId modelRunId = 0 := by simp [ScoreJob.liveWeight, ScoreJob.live, ended]
      have after : (row.update w.db.clock .running v.total v.processed v.lastRecord "").liveWeight datasetId modelRunId =
          (decide (row.datasetId = datasetId) && decide (row.modelRunId = modelRunId)).toNat := by
        simp [ScoreJob.liveWeight, ScoreJob.live, (kept row).1, (kept row).2, JobState.isTerminal]
      rw [before, after, Nat.add_zero, Nat.add_comm] at counts
      exact counts
  · refine .fewer (unrivalled.mpr fun row present ended => absurd ⟨row, present, ended⟩ finished) ?_
    exact total_modify_le _ _ kept fun row present ended => absurd ⟨row, present, ended⟩ finished

/-- A final status makes no job live. -/
theorem end_effect {w : World} {i : Nat} {worker : Worker} (found : w.workers[i]? = some worker)
    (silent : worker.pc.reports = false) (event : Event) {status : JobState} (terminal : status.isTerminal = true)
    (v : Cursor) (error : String) :
    Effect w (.work i event) (w.db.run (updateOr event worker.call status v error)).jobs := by
  have unrivalled : Unrivalled w (.work i event) := by cases event <;> simp [found, silent]
  cases event with
  | error what => exact .same unrivalled
  | done =>
    refine .fewer unrivalled (total_modify_le _ _ (update_pair w.db.clock status v.total v.processed v.lastRecord error) ?_)
    intro row _ _
    rw [ScoreJob.update_status]
    exact terminal

theorem transition_effect {w : World} {i : Nat} {worker : Worker} (found : w.workers[i]? = some worker)
    (silent : worker.pc.reports = false) :
    Effect w (.work i .done) (w.db.run (.transitionStatus worker.call.jobId .pending .running)).jobs := by
  refine .fewer (by simp [found, silent]) (total_modify_le _ _ (fun row => ?_) fun row _ ended => ?_)
  · unfold ScoreJob.transition
    split <;> exact ⟨rfl, rfl⟩
  · unfold ScoreJob.transition
    split
    next pending =>
      rw [pending] at ended
      cases ended
    next => exact ended

theorem sweep_effect (w : World) (staleTtl : Option Nat) :
    Effect w (.reconcile staleTtl) (w.db.run (.reconcile staleTtl)).jobs := by
  refine .fewer trivial fun datasetId modelRunId => Table.total_update_le _ (fun _ row => ?_) _
  unfold ScoreJob.reconcile
  split
  · apply liveWeight_le
    · rfl
    · rfl
    · exact fun _ => rfl
  · exact le_rfl

theorem work_effect {w : World} {i : Nat} {worker : Worker} (found : w.workers[i]? = some worker) (event : Event) :
    Effect w (.work i event) (w.db.run (scoreStep w.db worker.flagged worker.call worker.pc event).1).jobs := by
  have quiet (silent : worker.pc.reports = false) : Unrivalled w (.work i event) := by
    cases event <;> simp [found, silent]
  cases pc : worker.pc with
  | announce v | progress v =>
    cases event with
    | done => exact report_effect found (by rw [pc]; rfl) v
    | error what => exact .same trivial
  | cancelling v => exact end_effect found (by rw [pc]; rfl) event rfl v ""
  | completing v => exact end_effect found (by rw [pc]; rfl) event rfl v ""
  | recordFailure v what => exact end_effect found (by rw [pc]; rfl) event rfl v what
  | transition v =>
    cases event with
    | done => exact transition_effect found (by rw [pc]; rfl)
    | error what => exact .same trivial
  | readJob | readBack v | failing what =>
    have unrivalled := quiet (by rw [pc]; rfl)
    cases event <;> simp only [scoreStep]
    · split <;> exact .same unrivalled
    · exact .same unrivalled
  | count v | loadModel v | loop v | fetch v | insert v records | finish v =>
    have unrivalled := quiet (by rw [pc]; rfl)
    cases event <;> exact .same unrivalled

/-- The statement that an action issues. -/
def RequestAction.statement : RequestAction → Statement
  | .goto statement _ => statement
  | .start _ | .answer => .nothing

theorem request_effect {w : World} {i : Nat} {request : Request} {event : RequestEvent} {action : RequestAction}
    (found : w.requests[i]? = some request) (ran : requestStep w.db request request.pc event = some action) :
    Effect w (.requestStep i event) (w.db.run action.statement).jobs := by
  unfold requestStep at ran
  split at ran
  case h_3 jobId _ =>
    split at ran <;> cases ran
    next fresh => exact insert_effect found fresh
  all_goals grind [Effect.same, Unrivalled, Db.run, RequestAction.statement]

theorem step_effect {w next : World} {label : Label} (taken : step w label = some next) :
    Effect w label next.db.jobs := by
  obtain ⟨statement, workers, requests, acted, rfl⟩ := step_eq_some taken
  cases label with
  | tick | cancel i =>
    cases acted
    exact .same trivial
  | reconcile staleTtl =>
    cases acted
    exact sweep_effect w staleTtl
  | request datasetId modelRunId requestId =>
    cases acted
    exact .same trivial
  | ingest recordId datasetId =>
    simp only [act] at acted
    split at acted <;> cases acted
    exact .same trivial
  | requestStep i event =>
    simp only [act] at acted
    split at acted
    · cases acted
    next request found =>
      obtain ⟨action, ran, same⟩ := Option.map_eq_some_iff.mp acted
      have effect := request_effect found ran
      cases action <;> cases same <;> exact effect
  | work i event =>
    simp only [act] at acted
    split at acted
    · cases acted
    next worker found =>
      split at acted
      · cases acted
      · cases acted
        exact work_effect found event

theorem one_live_iff (w : World) :
    OneLive w ↔ ∀ datasetId modelRunId, Table.total (ScoreJob.liveWeight datasetId modelRunId) w.db.jobs ≤ 1 := by
  simp only [OneLive, length_liveScoreJobs]

theorem step_one_live (w : World) (label : Label) (next : World) (one : OneLive w) (unrivalled : Unrivalled w label)
    (taken : step w label = some next) : OneLive next := by
  rw [one_live_iff] at one ⊢
  intro datasetId modelRunId
  cases step_effect taken with
  | fewer _ less => exact (less datasetId modelRunId).trans (one datasetId modelRunId)
  | more row alone counts =>
    have none := (liveScoreJobs_eq_nil w.db _ _).mp (alone.mp unrivalled)
    rw [counts]
    by_cases here : row.datasetId = datasetId ∧ row.modelRunId = modelRunId
    · obtain ⟨rfl, rfl⟩ := here
      rw [none]
      exact Bool.toNat_le _
    · have other : (decide (row.datasetId = datasetId) && decide (row.modelRunId = modelRunId)) = false := by
        simpa using here
      rw [other, Bool.toNat_false, Nat.zero_add]
      exact one datasetId modelRunId

/-- A job that joins a live one of its pair makes two. -/
theorem unrivalled_of_one_live (w : World) (label : Label) (next : World) (taken : step w label = some next)
    (one : OneLive next) : Unrivalled w label := by
  rw [one_live_iff] at one
  cases step_effect taken with
  | fewer unrivalled _ => exact unrivalled
  | more row alone counts =>
    refine alone.mpr ((liveScoreJobs_eq_nil w.db _ _).mpr ?_)
    have most := one row.datasetId row.modelRunId
    rw [counts] at most
    simp only [decide_true, Bool.and_true, Bool.toNat_true] at most
    omega

theorem one_live_job_iff (schedule : List Label) :
    States step OneLive .init schedule ↔ Steps step Unrivalled .init schedule := by
  refine states_iff_steps (fun _ one => one) step_one_live ?_ schedule ?_
  · exact fun w label next _ taken one => unrivalled_of_one_live w label next taken one
  · exact fun datasetId modelRunId => Nat.zero_le _

/-- Two requests look for a live job before either has inserted one. -/
def selectedTogether : List Label :=
  [.request "d" "m" "r", .request "d" "m" "q", .requestStep 0 .done, .requestStep 1 .done,
    .requestStep 0 (.created "j"), .requestStep 1 (.created "k")]

theorem two_live_jobs : ¬ ∀ schedule : List Label, States step OneLive World.init schedule := by
  intro all
  have both : (exec step World.init selectedTogether).map (fun w => (w.db.liveScoreJobs "d" "m").length) = some 2 := by
    decide +kernel
  obtain ⟨final, run, two⟩ := Option.map_eq_some_iff.mp both
  have one := (all selectedTogether).exec run "d" "m"
  omega

end TelemetryLab.Scoring
