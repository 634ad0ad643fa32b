import TelemetryLab.Training.ParentStatus

/-! Sweeps and the trials of a live tuning run.

A row is dated when it is created and by the heartbeats of its own job; the move
from `PENDING` to `RUNNING` does not date it (`transition_model_run_status`), and
nobody sends heartbeats for a trial that waits for a worker. The times of these
three events are recorded beside the service, which does not read them.
-/

set_option autoImplicit false
namespace TelemetryLab.Training
open Jobs JobManager Transition Tally

structure Timed where
  world : World
  created : Table String Nat
  /-- The last stored heartbeat. -/
  beat : Table String Nat
  /-- The move from `PENDING` to `RUNNING`. -/
  moved : Table String Nat

namespace Timed

def init : Timed := ⟨.init, ∅, ∅, ∅⟩

/-- The events of a statement, at the time of the step. -/
def record (t : Timed) (world : World) : Statement → Timed
  | .insert modelRunId _ => { t with world, created := t.created.insert modelRunId t.world.clock }
  | .heartbeat modelRunId =>
    { t with
      world
      beat := if modelRunId ∈ t.world.runs then t.beat.insert modelRunId t.world.clock else t.beat }
  | .transitionStatus modelRunId expected _ =>
    { t with
      world
      moved := if (t.world.runs.lookup modelRunId).any fun row => decide (row.status = expected) then
          t.moved.insert modelRunId t.world.clock
        else t.moved }
  | .nothing | .updateStatus _ _ _ _ | .trialEligibility _ _ _ | .reconcile _ => { t with world }

def step (t : Timed) (label : Label) : Option Timed :=
  if t.world.memory.jobs.terminated then none
  else (act t.world label).map fun result => t.record (t.world.after label result) result.1

@[simp] theorem record_world (t : Timed) (world : World) (statement : Statement) :
    (t.record world statement).world = world := by
  cases statement <;> rfl

/-- The records have no part in what happens. -/
theorem step_world (t : Timed) (label : Label) : (t.step label).map world = Training.step t.world label := by
  unfold step Training.step
  split
  · rfl
  · cases act t.world label with
    | none => rfl
    | some result => simp

theorem step_eq_some {t next : Timed} {label : Label} (taken : t.step label = some next) :
    ∃ statement memory, act t.world label = some (statement, memory) ∧
      next = t.record (t.world.after label (statement, memory)) statement := by
  unfold step at taken
  split at taken
  · cases taken
  · obtain ⟨⟨statement, memory⟩, acted, rfl⟩ := Option.map_eq_some_iff.mp taken
    exact ⟨statement, memory, acted, rfl⟩

end Timed

/-- The trials an orchestrator is going to dispatch, unless something stops it. -/
def TunePc.upcoming (pc : TunePc) : List String :=
  match pc with
  | .cancelling _ => []
  | _ => pc.waiting

theorem TunePc.waiting_of_upcoming {pc : TunePc} {trialId : String} (upcoming : trialId ∈ pc.upcoming) :
    trialId ∈ pc.waiting := by
  unfold TunePc.upcoming at upcoming
  split at upcoming
  · cases upcoming
  · exact upcoming

/-- A sweep with a time limit leaves alone the trials that a live orchestrator is
going to dispatch, and those that their worker has taken within the limit. -/
def SparesLive (t : Timed) : Label → Prop
  | .reconcile (some ttl) =>
    (∀ thread ∈ t.world.memory.manager.started, thread.phase = .body → ∀ tuning ∈ thread.work.tuning,
      ∀ trialId ∈ tuning.2.upcoming, ∀ row ∈ t.world.runs.lookup trialId, row.status = .pending →
        (row.reconcile (some ttl) t.world.clock).status ≠ .failed) ∧
    ∀ taken ∈ t.moved.entries, t.world.clock < taken.2 + ttl → ∀ row ∈ t.world.runs.lookup taken.1,
      row.parentRunId.isSome = true → row.status = .running →
        (row.reconcile (some ttl) t.world.clock).status ≠ .failed
  | _ => True

/-- At a sweep no such trial has waited longer than the limit since its creation;
one that has been taken may have sent a heartbeat instead. -/
def Timely (t : Timed) : Label → Prop
  | .reconcile (some ttl) =>
    (∀ thread ∈ t.world.memory.manager.started, thread.phase = .body → ∀ tuning ∈ thread.work.tuning,
      ∀ trialId ∈ tuning.2.upcoming, ∀ row ∈ t.world.runs.lookup trialId, row.status = .pending →
        ∀ created ∈ t.created.lookup trialId, t.world.clock ≤ created + ttl) ∧
    ∀ taken ∈ t.moved.entries, t.world.clock < taken.2 + ttl → ∀ row ∈ t.world.runs.lookup taken.1,
      row.parentRunId.isSome = true → row.status = .running →
        ∀ created ∈ t.created.lookup taken.1, t.world.clock ≤ (t.beat.lookup taken.1).getD created + ttl
  | _ => True

/-! ## Dates -/

/-- Rows that are not terminal carry the date of their creation or of their last
heartbeat, and trials that wait have had none. -/
structure Stamped (t : Timed) : Prop where
  held : HeldOnce t.world
  dated : ∀ modelRunId row, t.world.runs.lookup modelRunId = some row → row.status.isTerminal = false →
    ∃ created, t.created.lookup modelRunId = some created ∧ row.updatedAt = (t.beat.lookup modelRunId).getD created
  known : ∀ modelRunId, modelRunId ∉ t.world.runs → t.beat.lookup modelRunId = none
  silent : ∀ thread ∈ t.world.memory.manager.started, ∀ task pc, thread.work = .tune task pc →
    ∀ trialId ∈ pc.waiting, t.beat.lookup trialId = none

theorem init_stamped : Stamped .init where
  held := init_heldOnce
  dated := fun _ _ found => by cases found
  known := fun _ _ => rfl
  silent := fun _ member => by cases member

/-- The date of a row that a statement leaves unfinished. -/
theorem Statement.lookup_date {w : World} {statement : Statement} (issued : Issued w statement) {modelRunId : String}
    {row : ModelRun} (found : w.runs.lookup modelRunId = some row) {after : ModelRun}
    (present : (statement.run w.clock w.runs).lookup modelRunId = some after) (live : after.status.isTerminal = false) :
    row.status.isTerminal = false ∧
      after.updatedAt = if statement = .heartbeat modelRunId then w.clock else row.updatedAt := by
  cases statement with
  | nothing =>
    cases present.symm.trans found
    exact ⟨live, by simp⟩
  | insert id new =>
    have different : modelRunId ≠ id := by
      rintro rfl
      exact (issued.insert _ _ rfl).1 (Table.mem_of_lookup found)
    rw [run, AList.lookup_insert_ne different] at present
    cases present.symm.trans found
    exact ⟨live, by simp⟩
  | transitionStatus id expected next =>
    rcases Table.lookup_modify_inv found present with ⟨rfl, rfl⟩ | ⟨other, rfl⟩
    · obtain ⟨rfl, _⟩ := issued.transition _ _ _ rfl
      simp only [ModelRun.transitionStatus] at live ⊢
      split at live
      next pending => exact ⟨by rw [pending]; rfl, by simp [pending]⟩
      next other => exact ⟨live, by simp [other]⟩
    · exact ⟨live, by simp⟩
  | updateStatus id status artifactPath error =>
    rcases Table.lookup_modify_inv found present with ⟨rfl, rfl⟩ | ⟨other, rfl⟩
    · rw [ModelRun.updateStatus_status, (issued.update _ _ _ _ rfl).1] at live
      cases live
    · exact ⟨live, by simp⟩
  | heartbeat id =>
    rcases Table.lookup_modify_inv found present with ⟨rfl, rfl⟩ | ⟨other, rfl⟩
    · exact ⟨live, by simp⟩
    · exact ⟨live, by simp [Ne.symm other]⟩
  | trialEligibility id isEligible reason =>
    rcases Table.lookup_modify_inv found present with ⟨rfl, rfl⟩ | ⟨other, rfl⟩
    · exact ⟨live, by simp⟩
    · exact ⟨live, by simp⟩
  | reconcile staleTtl =>
    rw [run, Table.lookup_update, found] at present
    cases present
    simp only [ModelRun.reconcile] at live ⊢
    split at live
    next => cases live
    next spared => exact ⟨live, by simp [spared]⟩

namespace Timed

/-- The creation of a row is recorded once. -/
theorem record_created {t : Timed} {world : World} {statement : Statement} {modelRunId : String}
    (fresh : ∀ row, statement ≠ .insert modelRunId row) :
    (t.record world statement).created.lookup modelRunId = t.created.lookup modelRunId := by
  cases statement with
  | insert id row =>
    have different : modelRunId ≠ id := by
      rintro rfl
      exact fresh row rfl
    exact AList.lookup_insert_ne different
  | nothing | heartbeat id | transitionStatus id expected next | updateStatus id status artifactPath error => rfl
  | trialEligibility id isEligible reason | reconcile staleTtl => rfl

theorem record_beat {t : Timed} {world : World} {statement : Statement} {modelRunId : String} :
    (t.record world statement).beat.lookup modelRunId =
      if statement = .heartbeat modelRunId ∧ modelRunId ∈ t.world.runs then some t.world.clock
      else t.beat.lookup modelRunId := by
  cases statement with
  | heartbeat id =>
    by_cases known : id ∈ t.world.runs
    · by_cases same : modelRunId = id
      · subst same
        simp [record, known]
      · simp [record, known, AList.lookup_insert_ne same, Ne.symm same]
    · simp only [record, known, if_false, Statement.heartbeat.injEq]
      split
      next both => exact absurd (both.1 ▸ both.2) known
      next => rfl
  | nothing | insert id row | transitionStatus id expected next | updateStatus id status artifactPath error =>
    simp [record]
  | trialEligibility id isEligible reason | reconcile staleTtl => simp [record]

end Timed

/-- A trial that waits after a step waited before it, or has just been created. -/
theorem act_waiting {w : World} {label : Label} {statement : Statement} {memory : Memory}
    (acted : act w label = some (statement, memory)) {after : JobThread Body} (member : after ∈ memory.manager.started)
    {task : TuningTask} {pc : TunePc} (tunes : after.work = .tune task pc) {trialId : String}
    (waits : trialId ∈ pc.waiting) :
    (∃ before ∈ w.memory.manager.started, ∃ prior, before.work = .tune task prior ∧ trialId ∈ prior.waiting) ∨
      trialId ∉ w.runs := by
  cases act_origin acted member with
  | kept before old same => exact .inl ⟨before, old, pc, same.work.symm.trans tunes, waits⟩
  | launched initial running =>
    rw [tunes] at initial
    cases pc <;> cases initial
    cases waits
  | foreign other => cases tunes.symm.trans other
  | trained before old running call point onward event was ran now flag phase => cases tunes.symm.trans now
  | trainEnded before old same ended call point was => cases tunes.symm.trans (same.trans was)
  | tuned before old running other point onward event was ran now phase =>
    cases tunes.symm.trans now
    rcases tuneStep_waiting ran with same | ⟨created, row, rfl, fresh, added⟩
    · exact .inl ⟨before, old, point, was, same ▸ waits⟩
    · rw [added] at waits
      rcases List.mem_append.mp waits with earlier | new
      · exact .inl ⟨before, old, point, was, earlier⟩
      · exact .inr (List.mem_singleton.mp new ▸ fresh)
  | dispatched before old running other point onward event call threadStarts was ran now phase started =>
    cases tunes.symm.trans now
    refine .inl ⟨before, old, point, was, ?_⟩
    rw [tuneStep_dispatched_waiting ran]
    exact List.mem_cons_of_mem _ waits
  | tuneEnded k event here before found running same ended other point action was ran ends =>
    cases tunes.symm.trans (same.trans was)
    exact .inl ⟨before, List.mem_of_getElem? found, pc, was, waits⟩

theorem step_stamped (t : Timed) (label : Label) (next : Timed) (stamped : Stamped t) (taken : t.step label = some next) :
    Stamped next := by
  have stepped : Training.step t.world label = some next.world := by
    rw [← Timed.step_world, taken]
    rfl
  obtain ⟨statement, memory, acted, rfl⟩ := Timed.step_eq_some taken
  have issued := act_issued acted
  have runs : (t.record (t.world.after label (statement, memory)) statement).world.runs =
      statement.run t.world.clock t.world.runs := by
    rw [Timed.record_world]
    rfl
  refine ⟨step_heldOnce stamped.held stepped, ?_, ?_, ?_⟩
  · intro modelRunId after present live
    rw [runs] at present
    rcases lookup_run_inv present with ⟨row, found⟩ | rfl
    · -- the date of an old row moves with its heartbeat only
      obtain ⟨was, date⟩ := Statement.lookup_date issued found present live
      obtain ⟨created, recorded, dated⟩ := stamped.dated modelRunId row found was
      have known : modelRunId ∈ t.world.runs := Table.mem_of_lookup found
      have old : ∀ row, statement ≠ .insert modelRunId row := by
        rintro row rfl
        exact (issued.insert _ _ rfl).1 known
      refine ⟨created, (Timed.record_created old).trans recorded, ?_⟩
      rw [date, Timed.record_beat]
      by_cases beats : statement = .heartbeat modelRunId
      · rw [if_pos beats, if_pos ⟨beats, known⟩]
        rfl
      · rw [if_neg beats, if_neg fun both => beats both.1]
        exact dated
    · cases act_author acted with
      | created _ _ fresh pending date trial =>
        refine ⟨t.world.clock, AList.lookup_insert _, ?_⟩
        rw [date, Timed.record_beat, if_neg (by simp), stamped.known modelRunId fresh]
        rfl
  · intro modelRunId absent
    rw [runs] at absent
    have absent : modelRunId ∉ t.world.runs := fun known => absent (Statement.mem_run.mpr (.inl known))
    rw [Timed.record_beat, if_neg fun both => absent both.2]
    exact stamped.known modelRunId absent
  · intro after member task pc tunes trialId waits
    rw [Timed.record_world] at member
    rw [Timed.record_beat]
    rcases act_waiting acted member tunes waits with ⟨before, old, prior, was, waited⟩ | fresh
    · -- a trial that waits has no worker to beat for it
      have quiet : ¬ (statement = .heartbeat trialId ∧ trialId ∈ t.world.runs) := by
        rintro ⟨rfl, _⟩
        cases act_author acted with
        | beaten _ k worker found works => exact stamped.held.waiting_idle old was waited found works
      rw [if_neg quiet]
      exact stamped.silent before old task prior was trialId waited
    · rw [if_neg fun both => fresh both.2]
      exact stamped.known trialId fresh

/-! ## Sweeps -/

/-- A sweep fails a live row exactly when its date is out of the limit. -/
theorem reconcile_spares {row : ModelRun} (live : row.status.isTerminal = false) (ttl now : Nat) :
    (row.reconcile (some ttl) now).status ≠ .failed ↔ now ≤ row.updatedAt + ttl := by
  have status : row.status = .pending ∨ row.status = .running := by
    cases state : row.status <;> simp [state, JobState.isTerminal] at live ⊢
  by_cases late : row.updatedAt + ttl < now
  · have hit : stale (some ttl) now row.status row.updatedAt = true := by
      rcases status with pending | running
      · simp [stale, pending, late]
      · simp [stale, running, late]
    simp [ModelRun.reconcile, hit, late]
  · have spared : stale (some ttl) now row.status row.updatedAt = false := by simp [stale, late]
    have same : row.reconcile (some ttl) now = row := by simp [ModelRun.reconcile, spared]
    rw [same]
    refine iff_of_true (fun failed => ?_) (Nat.not_lt.mp late)
    rw [failed] at live
    cases live

/-- The date of a row, spelled out. -/
theorem Stamped.spares_iff {t : Timed} (stamped : Stamped t) {modelRunId : String} {row : ModelRun}
    (found : t.world.runs.lookup modelRunId = some row) (live : row.status.isTerminal = false) (ttl : Nat) :
    (row.reconcile (some ttl) t.world.clock).status ≠ .failed ↔
      ∀ created ∈ t.created.lookup modelRunId, t.world.clock ≤ (t.beat.lookup modelRunId).getD created + ttl := by
  obtain ⟨created, recorded, date⟩ := stamped.dated modelRunId row found live
  rw [reconcile_spares live, date, recorded]
  simp

theorem Stamped.sparesLive_iff {t : Timed} (stamped : Stamped t) (label : Label) :
    SparesLive t label ↔ Timely t label := by
  unfold SparesLive Timely
  split
  next ttl =>
    refine and_congr ?_ ?_
    · refine forall₂_congr fun thread member => forall_congr' fun _ => forall₂_congr fun tuning tunes => ?_
      refine forall₂_congr fun trialId upcoming => forall₂_congr fun row found => forall_congr' fun pending => ?_
      have tunes : thread.work = .tune tuning.1 tuning.2 := Body.tuning_eq_some.mp tunes
      have waits := TunePc.waiting_of_upcoming upcoming
      rw [stamped.spares_iff found (by rw [pending]; rfl), stamped.silent thread member _ _ tunes trialId waits]
      rfl
    · refine forall₂_congr fun taken _ => forall_congr' fun _ => forall₂_congr fun row found => ?_
      refine forall_congr' fun _ => forall_congr' fun running => ?_
      exact stamped.spares_iff found (by rw [running]; rfl) ttl
  next => exact Iff.rfl

/-- The sweeps of a run spare the trials of live tuning runs if and only if each
comes in time for all of them. -/
theorem live_trials_spared_iff (schedule : List Label) :
    Steps Timed.step SparesLive .init schedule ↔ Steps Timed.step Timely .init schedule :=
  steps_iff_of_invariant step_stamped (fun _ label _ stamped _ => stamped.sparesLive_iff label) schedule init_stamped

/-- The run that a worker is training. -/
def Body.training : Body → Option String
  | .train call .training => some call.modelRunId
  | _ => none

/-- At a sweep every worker in training has sent a heartbeat within the limit, or
has begun within it. -/
def WorkersBeat (t : Timed) : Label → Prop
  | .reconcile (some ttl) => ∀ thread ∈ t.world.memory.manager.started, thread.phase = .body →
      ∀ modelRunId ∈ thread.work.training, ∀ began ∈ t.moved.lookup modelRunId,
        t.world.clock ≤ began + ttl ∨ ∃ beat ∈ t.beat.lookup modelRunId, t.world.clock ≤ beat + ttl
  | _ => True

instance (t : Timed) : (label : Label) → Decidable (WorkersBeat t label)
  | .reconcile (some ttl) => inferInstanceAs (Decidable (∀ thread ∈ t.world.memory.manager.started,
      thread.phase = .body → ∀ modelRunId ∈ thread.work.training, ∀ began ∈ t.moved.lookup modelRunId,
        t.world.clock ≤ began + ttl ∨ ∃ beat ∈ t.beat.lookup modelRunId, t.world.clock ≤ beat + ttl))
  | .reconcile none | .tick | .post _ _ _ | .postStart _ _ | .delete _ | .deleteStep _ _ | .work _ _ | .job _ =>
    .isTrue trivial

instance (t : Timed) : (label : Label) → Decidable (SparesLive t label)
  | .reconcile (some _) => inferInstanceAs (Decidable (_ ∧ _))
  | .reconcile none | .tick | .post _ _ _ | .postStart _ _ | .delete _ | .deleteStep _ _ | .work _ _ | .job _ =>
    .isTrue trivial

/-- Two trials, one at a time. -/
def oneAtATime : TrainRequest :=
  ⟨"r", "d", "pca_default", 3, 99, some ⟨"grid", 10, 1, none, ⟨[2, 3], [99]⟩⟩⟩

/-- The second trial waits while the first one is trained; its worker and the
orchestrator send a heartbeat at time 1. -/
def secondWaits : List Label :=
  [.post "p" oneAtATime fun _ => (0, 0), .postStart 0 true, .work 0 .done, .work 0 (.created "t"),
    .work 0 (.created "u"), .work 0 .done, .work 0 .done, .work 0 (.thread true), .work 0 .done, .work 0 .done,
    .work 1 .done, .tick, .work 1 (.heartbeat true), .work 0 .done, .work 0 .done, .work 0 .done, .work 0 .done,
    .work 0 .done, .tick]

theorem waiting_trial_reaped :
    ¬ ∀ schedule : List Label,
      Steps Timed.step (fun t label => ParentsBeat t.world label ∧ WorkersBeat t label) .init schedule →
      Steps Timed.step SparesLive .init schedule := by
  intro all
  have beat : Steps Timed.step (fun t label => ParentsBeat t.world label ∧ WorkersBeat t label) .init
      (secondWaits ++ [.reconcile (some 1)]) := by decide +kernel
  have reaped : ¬ Steps Timed.step SparesLive .init (secondWaits ++ [.reconcile (some 1)]) := by decide +kernel
  exact reaped (all _ beat)

end TelemetryLab.Training
