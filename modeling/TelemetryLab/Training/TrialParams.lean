import Mathlib.Data.List.ReduceOption
import TelemetryLab.Training.Cancellation

/-! The parameters with which trials are trained.

An orchestrator creates its rows in one loop, with the index of the configuration,
and hands them over in another, with the position in the list of their ids. The
column `trial_params`, the results of `CreateHpoTrialRun` and the hand-overs are
kept beside the service, which does not read them.
-/

set_option autoImplicit false
namespace TelemetryLab.Training
open Jobs JobManager Transition

/-- What `trial_params` holds, and what `RunPcaTraining` gets. -/
def TrainingConfig.params (config : TrainingConfig) : Int × ℚ := (config.nComponents, config.percentile)

structure Ledger where
  world : World
  trialParams : Table String (Int × ℚ)
  /-- What the calls of `CreateHpoTrialRun` returned, by the thread of the orchestrator. -/
  results : Nat → List (Option String)
  /-- The rows handed to `RunPcaTraining`, by the thread of the orchestrator. -/
  handed : Nat → List String

namespace Ledger

def init : Ledger := ⟨.init, ∅, fun _ => [], fun _ => []⟩

/-- The column with a row that trial `idx` gets. -/
def stored (l : Ledger) (task : TuningTask) (idx : Nat) (modelRunId : String) : Table String (Int × ℚ) :=
  match task.trials[idx]? with
  | some config => l.trialParams.insert modelRunId config.params
  | none => l.trialParams

/-- The call an orchestrator on thread `k` makes. -/
def note (l : Ledger) (k : Nat) (task : TuningTask) : TunePc → Event → Ledger
  | .creating idx _, .created modelRunId =>
    { l with
      trialParams := l.stored task idx modelRunId
      results := Function.update l.results k (l.results k ++ [some modelRunId]) }
  -- the row is there, the call has thrown
  | .creating idx _, .unconfirmed modelRunId _ => { l with trialParams := l.stored task idx modelRunId }
  | .creating _ _, .empty => { l with results := Function.update l.results k (l.results k ++ [none]) }
  | .dispatch d, .thread _ =>
    { l with handed := Function.update l.handed k (l.handed k ++ (d.trialIds[d.nextTrial]?).toList) }
  | _, _ => l

def record (l : Ledger) : Label → Ledger
  | .work k event =>
    match (l.world.memory.manager.started[k]?).map JobThread.work with
    | some (.tune task pc) => l.note k task pc event
    | _ => l
  | _ => l

def step (l : Ledger) (label : Label) : Option Ledger :=
  (Training.step l.world label).map fun world => { l.record label with world }

end Ledger

/-- The orchestrator that hands a trial over in a step, its task, and the call. -/
def handsOver (w : World) : Label → Option (Nat × TuningTask × TrainCall)
  | .work k event =>
    match w.memory.manager.started[k]? with
    | some thread =>
      match thread.work with
      | .tune task pc =>
        match tuneStep w.clock w.runs (w.memory.manager.flagSet thread.flag) task pc event with
        | some (.runPcaTraining call _ _) => some (k, task, call)
        | _ => none
      | _ => none
    | none => none
  | _ => none

/-- A trial is trained with the parameters of its row. -/
def OwnParams (l : Ledger) (label : Label) : Prop :=
  ∀ k task call, handsOver l.world label = some (k, task, call) →
    l.trialParams.lookup call.modelRunId = some call.config.params

/-- No orchestrator has handed the row over before. -/
def HandedOnce (l : Ledger) (label : Label) : Prop :=
  ∀ k task call, handsOver l.world label = some (k, task, call) → ∀ j, call.modelRunId ∉ l.handed j

/-- The configuration with which a row was created has the parameters of the one
that is as many places earlier as calls before its own returned no id. -/
def Unshifted (trials : List TrainingConfig) (results : List (Option String)) (modelRunId : String) : Prop :=
  ∀ i : Nat, results[i]? = some (some modelRunId) →
    (trials[i]?).map TrainingConfig.params =
      (trials[i - (results.take i).countP Option.isNone]?).map TrainingConfig.params

def HandsUnshifted (l : Ledger) (label : Label) : Prop :=
  ∀ k task call, handsOver l.world label = some (k, task, call) → Unshifted task.trials (l.results k) call.modelRunId

/-! ## What an orchestrator knows of its rows -/

structure Tracks (task : TuningTask) (pc : TunePc) (results : List (Option String))
    (trialParams : Table String (Int × ℚ)) : Prop where
  listed : pc.trialIds = results.reduceOption
  nodup : pc.trialIds.Nodup
  early : pc = .transition ∨ pc = .readBack → results = []
  counted : ∀ idx trialIds, pc = .creating idx trialIds → results.length = idx
  stored : ∀ (i : Nat) (modelRunId : String), results[i]? = some (some modelRunId) →
    ∃ config : TrainingConfig, task.trials[i]? = some config ∧ trialParams.lookup modelRunId = some config.params

structure Kept (l : Ledger) : Prop where
  tracks : ∀ k thread, l.world.memory.manager.started[k]? = some thread → ∀ task pc, thread.work = .tune task pc →
    Tracks task pc (l.results k) l.trialParams
  running : ∀ k thread, l.world.memory.manager.started[k]? = some thread → thread.phase = .body →
    ∀ task pc, thread.work = .tune task pc → l.handed k = pc.trialIds.take pc.nextTrial
  absent : ∀ k, l.world.memory.manager.started[k]? = none → l.results k = [] ∧ l.handed k = []
  listed : ∀ k, ∀ modelRunId ∈ l.handed k, some modelRunId ∈ l.results k
  known : ∀ k modelRunId, some modelRunId ∈ l.results k → modelRunId ∈ l.world.runs
  apart : ∀ k j modelRunId, some modelRunId ∈ l.results k → some modelRunId ∈ l.results j → k = j

theorem init_kept : Kept .init where
  tracks := fun _ _ found => by cases found
  running := fun _ _ found => by cases found
  absent := fun _ _ => ⟨rfl, rfl⟩
  listed := fun _ _ member => by cases member
  known := fun _ _ member => by cases member
  apart := fun _ _ _ member => by cases member

section Records

variable {l : Ledger} {k j : Nat} {task : TuningTask} {pc next : TunePc} {event : Event} {label : Label}
  {statement : Statement} {memory : Memory}

theorem Ledger.record_work {thread : JobThread Body} (found : l.world.memory.manager.started[k]? = some thread)
    (was : thread.work = .tune task pc) : l.record (.work k event) = l.note k task pc event := by
  simp [record, found, was]

theorem Ledger.record_other (other : ∀ thread, l.world.memory.manager.started[k]? = some thread →
    ∀ task pc, thread.work ≠ .tune task pc) : l.record (.work k event) = l := by
  simp only [record]
  split
  next task pc does =>
    obtain ⟨thread, found, was⟩ := Option.map_eq_some_iff.mp does
    exact absurd was (other thread found task pc)
  next => rfl

/-- Nothing is noted for another thread. -/
theorem Ledger.note_elsewhere (elsewhere : k ≠ j) :
    (l.note k task pc event).results j = l.results j ∧ (l.note k task pc event).handed j = l.handed j := by
  unfold note
  split <;> simp [Function.update_of_ne (Ne.symm elsewhere)]

theorem Ledger.record_elsewhere (elsewhere : ∀ event, label ≠ .work j event) :
    (l.record label).results j = l.results j ∧ (l.record label).handed j = l.handed j := by
  cases label with
  | work k event =>
    have other : k ≠ j := by
      rintro rfl
      exact elsewhere event rfl
    simp only [record]
    split
    · exact note_elsewhere other
    · exact ⟨rfl, rfl⟩
  | tick | reconcile | post | postStart | delete | deleteStep | job => exact ⟨rfl, rfl⟩

theorem getElem?_concat_eq_some {A : Type} {xs : List A} {x y : A} {i : Nat} :
    (xs ++ [x])[i]? = some y ↔ xs[i]? = some y ∨ i = xs.length ∧ x = y := by
  rcases Nat.lt_trichotomy i xs.length with earlier | rfl | beyond
  · rw [List.getElem?_append_left earlier]
    simp [earlier.ne]
  · simp
  · have past : (xs ++ [x])[i]? = none := List.getElem?_eq_none (by rw [List.length_append]; exact beyond)
    rw [past, List.getElem?_eq_none beyond.le]
    refine iff_of_false nofun ?_
    rintro (absent | ⟨same, _⟩)
    · cases absent
    · exact beyond.ne' same

/-- A step within the loops keeps account of what is created. -/
theorem Tracks.note {now : Nat} {flagged : Bool} (tracks : Tracks task pc (l.results k) l.trialParams)
    (known : ∀ modelRunId, some modelRunId ∈ l.results k → modelRunId ∈ l.world.runs)
    (ran : tuneStep now l.world.runs flagged task pc event = some (.statement statement (.goto next))) :
    Tracks task next ((l.note k task pc event).results k) (l.note k task pc event).trialParams := by
  obtain ⟨listed, nodup, early, counted, stored⟩ := tracks
  cases tuneStep_tunes ran with
  | takes | late | unwritten | joins =>
    have none := early (by simp)
    exact ⟨listed, nodup, fun _ => none, by simp [Ledger.note, none], stored⟩
  | creates idx trialIds modelRunId left fresh =>
    have length := counted idx trialIds rfl
    simp only [Ledger.note, Ledger.stored, List.getElem?_eq_getElem left, Function.update_self]
    refine ⟨?_, ?_, by simp, by simp [length], ?_⟩
    · rw [List.reduceOption_append, ← listed]
      rfl
    · refine List.nodup_append.mpr ⟨nodup, List.nodup_singleton _, ?_⟩
      rintro id member other last rfl
      rw [List.mem_singleton.mp last] at member
      have made : modelRunId ∈ (l.results k).reduceOption := listed ▸ member
      exact fresh (known modelRunId (List.reduceOption_mem_iff.mp made))
    · intro i id found
      rcases getElem?_concat_eq_some.mp found with earlier | ⟨rfl, last⟩
      · have old : id ≠ modelRunId := by
          rintro rfl
          exact fresh (known id (List.mem_of_getElem? earlier))
        rw [AList.lookup_insert_ne old]
        exact stored i id earlier
      · cases last
        rw [length, AList.lookup_insert]
        exact ⟨_, List.getElem?_eq_getElem left, rfl⟩
  | skips idx trialIds left =>
    have length := counted idx trialIds rfl
    simp only [Ledger.note, Function.update_self]
    refine ⟨?_, nodup, by simp, by simp [length], ?_⟩
    · rw [List.reduceOption_append, ← listed]
      exact (List.append_nil trialIds).symm
    · intro i id found
      rcases getElem?_concat_eq_some.mp found with earlier | ⟨_, last⟩
      · exact stored i id earlier
      · cases last
  | created | stops | goesOn | waits | polled | polls => exact ⟨listed, nodup, by simp, by simp, stored⟩
  | beats d _ _ tried => cases tried <;> exact ⟨listed, nodup, by simp, by simp, stored⟩

theorem Tracks.keep {results : List (Option String)} {trialParams after : Table String (Int × ℚ)}
    (tracks : Tracks task pc results trialParams)
    (same : ∀ modelRunId, some modelRunId ∈ results → after.lookup modelRunId = trialParams.lookup modelRunId) :
    Tracks task pc results after := by
  obtain ⟨listed, nodup, early, counted, stored⟩ := tracks
  refine ⟨listed, nodup, early, counted, fun i modelRunId found => ?_⟩
  rw [same modelRunId (List.mem_of_getElem? found)]
  exact stored i modelRunId found

/-- What an orchestrator has handed over moves on with `next_trial`. -/
theorem note_handed {now : Nat} {flagged : Bool}
    (ran : tuneStep now l.world.runs flagged task pc event = some (.statement statement (.goto next))) :
    (l.note k task pc event).handed k = l.handed k ∧ next.trialIds.take next.nextTrial = pc.trialIds.take pc.nextTrial := by
  cases tuneStep_tunes ran with
  | takes | late | unwritten | joins | creates | skips | created => simp [Ledger.note, TunePc.nextTrial]
  | stops | goesOn | waits | polled | polls => exact ⟨rfl, rfl⟩
  | beats d _ _ tried => cases tried <;> exact ⟨rfl, rfl⟩

/-- The results after any action of an orchestrator. -/
theorem note_results {now : Nat} {flagged : Bool} {action : TuneAction}
    (ran : tuneStep now l.world.runs flagged task pc event = some action) :
    (l.note k task pc event).results k = l.results k ∨
    (∃ next, action = .statement .nothing (.goto next) ∧ event = .empty ∧
      (l.note k task pc event).results k = l.results k ++ [none]) ∨
    ∃ modelRunId row next, action = .statement (.insert modelRunId row) (.goto next) ∧
      modelRunId ∉ l.world.runs ∧ (l.note k task pc event).results k = l.results k ++ [some modelRunId] := by
  cases tuneStep_tunes ran with
  | creates idx trialIds modelRunId left fresh => exact .inr (.inr ⟨modelRunId, _, _, rfl, fresh, by simp [Ledger.note]⟩)
  | skips idx trialIds left => exact .inr (.inl ⟨_, rfl, rfl, by simp [Ledger.note]⟩)
  | takes | late | unwritten | joins | leaves | missing | unread | uncreated | unconfirmed | created => exact .inl rfl
  | stops | goesOn | finishes | dispatches | waits | polled | polls | lost | unpolled => exact .inl rfl
  | cancels d _ _ tried => cases tried <;> exact .inl rfl
  | beats d _ _ tried => cases tried <;> exact .inl rfl

theorem Ledger.stored_lookup {idx : Nat} {modelRunId id : String} (old : modelRunId ≠ id) :
    (l.stored task idx id).lookup modelRunId = l.trialParams.lookup modelRunId := by
  unfold stored
  split
  · exact AList.lookup_insert_ne old
  · rfl

/-- The column after any action of an orchestrator: a row of its own is new. -/
theorem note_trialParams {now : Nat} {flagged : Bool} {action : TuneAction}
    (ran : tuneStep now l.world.runs flagged task pc event = some action) {modelRunId : String}
    (known : modelRunId ∈ l.world.runs) :
    (l.note k task pc event).trialParams.lookup modelRunId = l.trialParams.lookup modelRunId := by
  have apart {id : String} (fresh : id ∉ l.world.runs) : modelRunId ≠ id := by
    rintro rfl
    exact fresh known
  cases tuneStep_tunes ran with
  | creates idx trialIds id left fresh => exact Ledger.stored_lookup (apart fresh)
  | unconfirmed idx trialIds id what left fresh => exact Ledger.stored_lookup (apart fresh)
  | takes | late | unwritten | joins | leaves | missing | unread | skips | uncreated | created => rfl
  | stops | goesOn | finishes | dispatches | waits | polled | polls | lost | unpolled => rfl
  | cancels d _ _ tried => cases tried <;> rfl
  | beats d _ _ tried => cases tried <;> rfl

/-- A step adds at most one result, and only for the thread that takes it. -/
theorem act_results (acted : act l.world label = some (statement, memory)) (j : Nat) :
    (l.record label).results j = l.results j ∨
    ((l.record label).results j = l.results j ++ [none] ∧ label = .work j .empty) ∨
    ∃ modelRunId row, statement = .insert modelRunId row ∧ modelRunId ∉ l.world.runs ∧
      (∃ event, label = .work j event) ∧ (l.record label).results j = l.results j ++ [some modelRunId] := by
  by_cases own : ∃ event, label = .work j event
  case neg => exact .inl (Ledger.record_elsewhere (not_exists.mp own)).1
  case pos =>
    obtain ⟨event, rfl⟩ := own
    cases act_acts acted with
    | trained _ _ thread call pc _ progress found running was ran =>
      refine .inl (congrArg (fun l => l.results j) (Ledger.record_other fun other present task pc tunes => ?_))
      cases found.symm.trans present
      cases was.symm.trans tunes
    | tuned _ _ thread task pc _ progress found running was ran =>
      rw [Ledger.record_work found was]
      rcases note_results (k := j) ran with same | ⟨next, -, rfl, added⟩ | ⟨id, row, next, issued, fresh, added⟩
      · exact .inl same
      · exact .inr (.inl ⟨added, rfl⟩)
      · cases issued
        exact .inr (.inr ⟨id, row, rfl, fresh, ⟨event, rfl⟩, added⟩)
    | dispatched _ _ thread task pc admitted call threadStarts found running was ran =>
      rw [Ledger.record_work found was]
      rcases note_results (k := j) ran with same | ⟨next, issued, -⟩ | ⟨id, row, next, issued, -⟩
      · exact .inl same
      · cases issued
      · cases issued

/-- The column keeps what it holds for known rows. -/
theorem act_trialParams (acted : act l.world label = some (statement, memory)) {modelRunId : String}
    (known : modelRunId ∈ l.world.runs) :
    (l.record label).trialParams.lookup modelRunId = l.trialParams.lookup modelRunId := by
  cases act_acts acted with
  | trained k event thread call pc _ progress found running was ran =>
    rw [Ledger.record_other fun other present task pc tunes => ?_]
    cases found.symm.trans present
    cases was.symm.trans tunes
  | tuned k event thread task pc _ progress found running was ran =>
    rw [Ledger.record_work found was]
    exact note_trialParams ran known
  | dispatched k event thread task pc admitted call threadStarts found running was ran =>
    rw [Ledger.record_work found was]
    exact note_trialParams ran known
  | tick | reconcile | post | postStart | delete | deleteStep | job => rfl

/-- A hand-over is noted as such, and changes nothing else. -/
theorem note_dispatched {now : Nat} {flagged : Bool} {call : TrainCall} {threadStarts : Bool} {admitted : TunePc}
    (ran : tuneStep now l.world.runs flagged task pc event = some (.runPcaTraining call threadStarts admitted)) :
    ∃ (d : Dispatching) (config : TrainingConfig), pc = .dispatch d ∧ d.trialIds[d.nextTrial]? = some call.modelRunId ∧
      task.trials[d.nextTrial]? = some config ∧ call.config.params = config.params ∧
      admitted.trialIds = d.trialIds ∧ admitted.nextTrial = d.nextTrial + 1 ∧
      (∀ idx trialIds, admitted ≠ .creating idx trialIds) ∧ ¬ (admitted = .transition ∨ admitted = .readBack) ∧
      (l.note k task pc event).handed k = l.handed k ++ [call.modelRunId] := by
  cases tuneStep_tunes ran with
  | dispatches d trialId config starts room listed configured =>
    exact ⟨d, config, rfl, listed, configured, rfl, rfl, rfl, by simp, by simp, by simp [Ledger.note, listed]⟩

end Records

/-! ## The step -/

section Step

variable {l : Ledger} {label : Label} {statement : Statement} {memory : Memory}

theorem Ledger.step_eq_some {next : Ledger} (taken : l.step label = some next) :
    ∃ statement memory, act l.world label = some (statement, memory) ∧
      next = { l.record label with world := l.world.after label (statement, memory) } := by
  obtain ⟨world, moved, rfl⟩ := Option.map_eq_some_iff.mp taken
  obtain ⟨⟨statement, memory⟩, acted, rfl⟩ := Training.step_eq_some moved
  exact ⟨statement, memory, acted, rfl⟩

/-- Nothing is noted for a thread that does not exist yet. -/
theorem Ledger.record_absent {j : Nat} (absent : l.world.memory.manager.started[j]? = none) :
    (l.record label).results j = l.results j ∧ (l.record label).handed j = l.handed j := by
  by_cases own : ∃ event, label = .work j event
  · obtain ⟨event, rfl⟩ := own
    rw [record_other fun thread found => by simp [absent] at found]
    exact ⟨rfl, rfl⟩
  · exact record_elsewhere (not_exists.mp own)

theorem Kept.step_tracks (kept : Kept l) (acted : act l.world label = some (statement, memory)) {j : Nat}
    {after : JobThread Body} (here : memory.manager.started[j]? = some after) {task : TuningTask} {pc : TunePc}
    (work : after.work = .tune task pc) :
    Tracks task pc ((l.record label).results j) (l.record label).trialParams := by
  have old {results : List (Option String)} {pc : TunePc} (tracks : Tracks task pc results l.trialParams)
      (same : results = l.results j) : Tracks task pc results (l.record label).trialParams :=
    tracks.keep fun modelRunId member => act_trialParams acted (kept.known j modelRunId (same ▸ member))
  cases act_place acted here with
  | kept before found same elsewhere =>
    have tracks := kept.tracks j before found task pc (same.work ▸ work)
    rw [(Ledger.record_elsewhere elsewhere).1]
    exact old tracks rfl
  | launched absent initial running =>
    rw [(Ledger.record_absent absent).1, (kept.absent j absent).1]
    rw [work] at initial
    cases pc <;> cases initial
    exact ⟨rfl, List.nodup_nil, fun _ => rfl, by simp, by simp⟩
  | foreign other was => cases work.symm.trans other
  | trained event at_ before found running call prior next was ran now flag running' => cases work.symm.trans now
  | trainEnded event at_ before found same ended call prior was => cases work.symm.trans (same.trans was)
  | tuned event at_ before found running owner prior next was ran now running' =>
    subst at_
    cases work.symm.trans now
    rw [Ledger.record_work found was]
    exact (kept.tracks j before found task prior was).note (kept.known j) ran
  | dispatched event at_ before found running owner prior next call threadStarts was ran now running' started =>
    subst at_
    cases work.symm.trans now
    obtain ⟨d, config, rfl, listed, configured, same, ids, position, loop, early, -⟩ := note_dispatched (k := j) ran
    obtain ⟨made, nodup, -, -, stored⟩ := kept.tracks j before found task (.dispatch d) was
    have tracks : Tracks task pc (l.results j) l.trialParams :=
      ⟨ids.trans made, by rw [ids]; exact nodup, fun point => absurd point early,
        fun idx trialIds point => absurd point (loop idx trialIds), stored⟩
    have same : (l.record (.work j event)).results j = l.results j := by
      rw [Ledger.record_work found was]
      rcases note_results (k := j) ran with same | ⟨_, issued, _⟩ | ⟨_, _, _, issued, _⟩
      · exact same
      · cases issued
      · cases issued
    rw [same]
    exact old tracks rfl
  | tuneEnded event at_ before found running same ended owner prior action was ran ends =>
    subst at_
    cases work.symm.trans (same.trans was)
    have same : (l.record (.work j event)).results j = l.results j := by
      rw [Ledger.record_work found was]
      rcases note_results (k := j) ran with same | ⟨_, rfl, _⟩ | ⟨_, _, _, rfl, _⟩
      · exact same
      · cases ends
      · cases ends
    rw [same]
    exact old (kept.tracks j before found task pc was) rfl

theorem Kept.step_running (kept : Kept l) (acted : act l.world label = some (statement, memory)) {j : Nat}
    {after : JobThread Body} (here : memory.manager.started[j]? = some after) (alive : after.phase = .body)
    {task : TuningTask} {pc : TunePc} (work : after.work = .tune task pc) :
    (l.record label).handed j = pc.trialIds.take pc.nextTrial := by
  cases act_place acted here with
  | kept before found same elsewhere =>
    rw [(Ledger.record_elsewhere elsewhere).2]
    exact kept.running j before found (same.body.mp alive) task pc (same.work ▸ work)
  | launched absent initial running =>
    rw [(Ledger.record_absent absent).2, (kept.absent j absent).2]
    rw [work] at initial
    cases pc <;> cases initial
    rfl
  | foreign other was => cases work.symm.trans other
  | trained event at_ before found running call prior next was ran now flag running' => cases work.symm.trans now
  | trainEnded event at_ before found same ended call prior was => cases work.symm.trans (same.trans was)
  | tuned event at_ before found running owner prior next was ran now running' =>
    subst at_
    cases work.symm.trans now
    obtain ⟨same, ids⟩ := note_handed (k := j) ran
    rw [Ledger.record_work found was, same, ids]
    exact kept.running j before found running task prior was
  | dispatched event at_ before found running owner prior next call threadStarts was ran now running' started =>
    subst at_
    cases work.symm.trans now
    obtain ⟨d, config, rfl, listed, -, -, ids, position, -, -, added⟩ := note_dispatched (k := j) ran
    rw [Ledger.record_work found was, added, kept.running j before found running task (.dispatch d) was, ids, position,
      List.take_add_one, listed]
    rfl
  | tuneEnded event at_ before found running same ended owner prior action was ran ends => exact absurd alive ended

/-- Only rows of the orchestrator itself are handed over. -/
theorem Kept.step_handed (kept : Kept l) (acted : act l.world label = some (statement, memory)) {j : Nat}
    {modelRunId : String} (member : modelRunId ∈ (l.record label).handed j) : some modelRunId ∈ l.results j := by
  by_cases own : ∃ event, label = .work j event
  case neg =>
    rw [(Ledger.record_elsewhere (not_exists.mp own)).2] at member
    exact kept.listed j modelRunId member
  case pos =>
    obtain ⟨event, rfl⟩ := own
    cases act_acts acted with
    | trained _ _ thread call pc _ progress found running was ran =>
      rw [Ledger.record_other fun other present task pc tunes => ?_] at member
      · exact kept.listed j modelRunId member
      · cases found.symm.trans present
        cases was.symm.trans tunes
    | tuned _ _ thread task pc _ progress found running was ran =>
      have same : (l.note j task pc event).handed j = l.handed j := by
        cases tuneStep_tunes ran with
        | cancels d _ _ tried => cases tried <;> rfl
        | beats d _ _ tried => cases tried <;> rfl
        | takes | late | unwritten | joins | leaves | missing | unread | creates | skips | uncreated | unconfirmed | created => rfl
        | stops | goesOn | finishes | waits | polled | polls | lost | unpolled => rfl
      rw [Ledger.record_work found was, same] at member
      exact kept.listed j modelRunId member
    | dispatched _ _ thread task pc admitted call threadStarts found running was ran =>
      obtain ⟨d, config, rfl, listed, -, -, -, -, -, -, added⟩ := note_dispatched (k := j) ran
      rw [Ledger.record_work found was, added] at member
      rcases List.mem_append.mp member with earlier | last
      · exact kept.listed j modelRunId earlier
      · rw [List.mem_singleton.mp last, ← List.reduceOption_mem_iff, ← (kept.tracks j thread found task _ was).listed]
        exact List.mem_of_getElem? listed

theorem step_kept (l : Ledger) (label : Label) (next : Ledger) (kept : Kept l) (taken : l.step label = some next) :
    Kept next := by
  obtain ⟨statement, memory, acted, rfl⟩ := Ledger.step_eq_some taken
  have fewer {j : Nat} {modelRunId : String} (member : some modelRunId ∈ l.results j) :
      some modelRunId ∈ (l.record label).results j := by
    rcases act_results acted j with same | ⟨added, -⟩ | ⟨_, _, -, -, -, added⟩
    · rwa [same]
    · rw [added]
      exact List.mem_append_left _ member
    · rw [added]
      exact List.mem_append_left _ member
  have older {j : Nat} {modelRunId : String} (member : some modelRunId ∈ (l.record label).results j) :
      some modelRunId ∈ l.results j ∨
        (modelRunId ∉ l.world.runs ∧ (∃ event, label = .work j event) ∧ ∃ row, statement = .insert modelRunId row) := by
    rcases act_results acted j with same | ⟨added, -⟩ | ⟨id, row, issued, fresh, own, added⟩
    · exact .inl (same ▸ member)
    · rw [added] at member
      exact .inl (by simpa using member)
    · rw [added] at member
      rcases List.mem_append.mp member with earlier | last
      · exact .inl earlier
      · cases List.mem_singleton.mp last
        exact .inr ⟨fresh, own, row, issued⟩
  constructor
  · intro j after here task pc work
    exact kept.step_tracks acted here work
  · intro j after here alive task pc work
    exact kept.step_running acted here alive work
  · intro j absent
    have before : l.world.memory.manager.started[j]? = none := by
      have beyond : memory.manager.started.length ≤ j := List.getElem?_eq_none_iff.mp absent
      exact List.getElem?_eq_none_iff.mpr ((act_length acted).trans beyond)
    show (l.record label).results j = [] ∧ (l.record label).handed j = []
    rw [(Ledger.record_absent before).1, (Ledger.record_absent before).2]
    exact kept.absent j before
  · intro j modelRunId member
    exact fewer (kept.step_handed acted member)
  · intro j modelRunId member
    show modelRunId ∈ statement.run l.world.clock l.world.runs
    rcases older member with earlier | ⟨-, -, inserted⟩
    · exact Statement.mem_run.mpr (.inl (kept.known j modelRunId earlier))
    · exact Statement.mem_run.mpr (.inr inserted)
  · intro k j modelRunId first second
    rcases older first with before | ⟨fresh, ⟨event, here⟩, -⟩
    · rcases older second with also | ⟨fresh, -, -⟩
      · exact kept.apart k j modelRunId before also
      · exact absurd (kept.known k modelRunId before) fresh
    · rcases older second with also | ⟨-, ⟨other, there⟩, -⟩
      · exact absurd (kept.known j modelRunId also) fresh
      · cases here.symm.trans there
        rfl

/-! ## The hand-over -/

/-- An id is as many places earlier in the list of ids as calls before its own returned none. -/
theorem reduceOption_position {A : Type} {results : List (Option A)} {x : A} {i : Nat}
    (found : results[i]? = some (some x)) : results.reduceOption[i - (results.take i).countP Option.isNone]? = some x := by
  induction results generalizing i with
  | nil => cases found
  | cons result rest ih =>
    cases i with
    | zero =>
      cases found
      rfl
    | succ i =>
      have few : (rest.take i).countP Option.isNone ≤ i :=
        List.countP_le_length.trans (List.length_take_le i rest)
      have later := ih found
      cases result with
      | none => simpa [List.reduceOption_cons_of_none, Nat.add_sub_add_right] using later
      | some y => simpa [List.reduceOption_cons_of_some, Nat.sub_add_comm few] using later

variable {k : Nat} {task : TuningTask} {call : TrainCall}

theorem handsOver_dispatch (acted : act l.world label = some (statement, memory))
    (hands : handsOver l.world label = some (k, task, call)) :
    ∃ (thread : JobThread Body) (d : Dispatching) (config : TrainingConfig),
      l.world.memory.manager.started[k]? = some thread ∧ thread.phase = .body ∧ thread.work = .tune task (.dispatch d) ∧
      d.trialIds[d.nextTrial]? = some call.modelRunId ∧ task.trials[d.nextTrial]? = some config ∧
      call.config.params = config.params := by
  cases act_acts acted with
  | dispatched j event thread owner pc admitted other threadStarts found running was ran =>
    simp only [handsOver, found, was, ran, Option.some.injEq, Prod.mk.injEq] at hands
    obtain ⟨rfl, rfl, rfl⟩ := hands
    obtain ⟨d, config, rfl, listed, configured, same, -⟩ := note_dispatched (k := j) ran
    exact ⟨thread, d, config, found, running, was, listed, configured, same⟩
  | trained j event thread other pc _ progress found running was ran => simp [handsOver, found, was] at hands
  | tuned j event thread owner pc _ progress found running was ran => simp [handsOver, found, was, ran] at hands
  | tick | reconcile | post | postStart | delete | deleteStep | job => cases hands

/-- The row has the parameters of its own configuration, the call those of the
configuration at the position of the id. -/
theorem own_iff_unshifted (kept : Kept l) (acted : act l.world label = some (statement, memory))
    (hands : handsOver l.world label = some (k, task, call)) :
    l.trialParams.lookup call.modelRunId = some call.config.params ↔
      Unshifted task.trials (l.results k) call.modelRunId := by
  obtain ⟨thread, d, config, found, running, was, listed, configured, same⟩ := handsOver_dispatch acted hands
  obtain ⟨made, nodup, -, -, stored⟩ := kept.tracks k thread found task (.dispatch d) was
  have made : d.trialIds = (l.results k).reduceOption := made
  have position {i : Nat} (here : (l.results k)[i]? = some (some call.modelRunId)) :
      i - ((l.results k).take i).countP Option.isNone = d.nextTrial := by
    have there : d.trialIds[i - ((l.results k).take i).countP Option.isNone]? = some call.modelRunId :=
      made ▸ reduceOption_position here
    obtain ⟨inside, -⟩ := List.getElem?_eq_some_iff.mp there
    exact (List.getElem?_inj inside nodup).mp (there.trans listed.symm)
  constructor
  · intro own i here
    obtain ⟨config', created, recorded⟩ := stored i call.modelRunId here
    rw [position here, created, configured, Option.map_some, Option.map_some, ← recorded, own, same]
  · intro unshifted
    have member : some call.modelRunId ∈ l.results k := by
      rw [← List.reduceOption_mem_iff, ← made]
      exact List.mem_of_getElem? listed
    obtain ⟨i, here⟩ := List.mem_iff_getElem?.mp member
    obtain ⟨config', created, recorded⟩ := stored i call.modelRunId here
    have equal := unshifted i here
    rw [position here, created, configured, Option.map_some, Option.map_some] at equal
    rw [recorded, same, equal]

theorem Kept.handedOnce (kept : Kept l) (acted : act l.world label = some (statement, memory)) : HandedOnce l label := by
  intro k task call hands j earlier
  obtain ⟨thread, d, config, found, running, was, listed, -⟩ := handsOver_dispatch acted hands
  obtain ⟨made, nodup, -⟩ := kept.tracks k thread found task (.dispatch d) was
  have member : some call.modelRunId ∈ l.results k := by
    rw [← List.reduceOption_mem_iff, ← made]
    exact List.mem_of_getElem? listed
  cases kept.apart j k call.modelRunId (kept.listed j call.modelRunId earlier) member
  rw [kept.running k thread found running task (.dispatch d) was] at earlier
  obtain ⟨h, here⟩ := List.mem_iff_getElem?.mp earlier
  -- the earlier hand-over was of an earlier position
  have before : h < d.nextTrial := by
    have inside := (List.getElem?_eq_some_iff.mp here).1
    exact lt_of_lt_of_le inside (List.length_take_le _ _)
  have there : d.trialIds[h]? = some call.modelRunId := by
    rw [← here]
    exact (List.getElem?_take_of_lt before).symm
  obtain ⟨inside, -⟩ := List.getElem?_eq_some_iff.mp there
  exact before.ne ((List.getElem?_inj inside nodup).mp (there.trans listed.symm))

/-- Without an empty answer nothing is shifted. -/
theorem unshifted_of_all (all : none ∉ l.results k) (modelRunId : String) :
    Unshifted task.trials (l.results k) modelRunId := by
  intro i _
  have none : ((l.results k).take i).countP Option.isNone = 0 := by
    rw [List.countP_eq_zero]
    intro result member absent
    rw [Option.isNone_iff_eq_none.mp absent] at member
    exact all (List.mem_of_mem_take member)
  rw [none, Nat.sub_zero]

theorem step_all {next : Ledger} (all : ∀ k, none ∉ l.results k) (answered : ∀ k, label ≠ .work k .empty)
    (taken : l.step label = some next) (k : Nat) : none ∉ next.results k := by
  obtain ⟨statement, memory, acted, rfl⟩ := Ledger.step_eq_some taken
  show none ∉ (l.record label).results k
  rcases act_results acted k with same | ⟨-, empty⟩ | ⟨_, _, -, -, -, added⟩
  · exact same ▸ all k
  · exact absurd empty (answered k)
  · rw [added]
    simpa using all k

end Step

/-- No row is handed over twice. A trial is trained with the parameters of its row
if and only if the empty answers before its creation have shifted it to a
configuration of the same parameters, so always if there was none. -/
theorem trained_with_own_params (schedule : List Label) :
    Steps Ledger.step HandedOnce .init schedule ∧
    (Steps Ledger.step OwnParams .init schedule ↔ Steps Ledger.step HandsUnshifted .init schedule) ∧
    ((∀ label ∈ schedule, ∀ k, label ≠ .work k .empty) → Steps Ledger.step OwnParams .init schedule) := by
  have same : Steps Ledger.step OwnParams .init schedule ↔ Steps Ledger.step HandsUnshifted .init schedule := by
    refine steps_iff_of_invariant step_kept ?_ schedule init_kept
    intro l label next kept taken
    obtain ⟨statement, memory, acted, -⟩ := Ledger.step_eq_some taken
    refine forall_congr' fun k => forall_congr' fun task => forall_congr' fun call => forall_congr' fun hands => ?_
    exact own_iff_unshifted kept acted hands
  refine ⟨?_, same, fun answered => ?_⟩
  · refine steps_of_steps (P := Kept) (C := fun _ _ => True) (fun l label next kept _ taken => step_kept l label next kept taken)
      ?_ init_kept (steps_of_all (fun _ _ _ _ => trivial) _ _)
    intro l label next kept _ taken
    obtain ⟨statement, memory, acted, -⟩ := Ledger.step_eq_some taken
    exact kept.handedOnce acted
  · rw [same]
    have labels : Steps Ledger.step (fun _ label => ∀ k, label ≠ .work k .empty) .init schedule :=
      steps_of_labels (fun label member _ => answered label member) _
    refine steps_of_steps (P := fun l => ∀ k, none ∉ l.results k) (fun l label next all given taken => step_all all given taken)
      ?_ (by simp [Ledger.init]) labels
    intro l label next all given taken k task call hands
    exact unshifted_of_all (all k) call.modelRunId

/-- The first row of a tuning run is not created, the second one is. -/
def firstEmpty : List Label :=
  [.post "p" twoTrials fun _ => (0, 0), .postStart 0 true, .work 0 .done, .work 0 .empty, .work 0 (.created "u"),
    .work 0 .done, .work 0 .done]

/-- The row for three components is trained with the two of the configuration before. -/
theorem empty_answer_shifts_parameters :
    ¬ (∀ schedule, Steps Ledger.step OwnParams .init schedule) ∧
    (exec Ledger.step .init firstEmpty).any (fun l =>
      (l.step (.work 0 (.thread true))).isSome &&
        (handsOver l.world (.work 0 (.thread true))).any fun (_, _, call) =>
          decide (call.modelRunId = "u" ∧ call.config.params = (2, 99) ∧
            l.trialParams.lookup call.modelRunId = some (3, 99))) = true := by
  have shifted : (exec Ledger.step .init firstEmpty).any (fun l =>
      (l.step (.work 0 (.thread true))).isSome &&
        (handsOver l.world (.work 0 (.thread true))).any fun (_, _, call) =>
          decide (call.modelRunId = "u" ∧ call.config.params = (2, 99) ∧
            l.trialParams.lookup call.modelRunId = some (3, 99))) = true := by decide +kernel
  refine ⟨fun all => ?_, shifted⟩
  obtain ⟨l, reached, goes⟩ := (Option.any_eq_true _ _).mp shifted
  obtain ⟨moves, hands⟩ := Bool.and_eq_true_iff.mp goes
  obtain ⟨next, taken⟩ := Option.isSome_iff_exists.mp moves
  obtain ⟨⟨k, task, call⟩, here, wrong⟩ := (Option.any_eq_true _ _).mp hands
  obtain ⟨-, given, stored⟩ := of_decide_eq_true wrong
  obtain ⟨-, last⟩ := (steps_append [.work 0 (.thread true)] reached).mp (all (firstEmpty ++ [.work 0 (.thread true)]))
  have own := (last next taken).1 k task call here
  rw [stored, given] at own
  exact absurd own (by decide +kernel)

/-- Both rows are created, and both are handed over. -/
def bothHandedOver : List Label :=
  [.post "p" twoTrials fun _ => (0, 0), .postStart 0 true, .work 0 .done, .work 0 (.created "t"),
    .work 0 (.created "u"), .work 0 .done, .work 0 .done, .work 0 (.thread true), .work 0 (.thread true)]

theorem trained_with_own_params_bothHandedOver :
    (exec Ledger.step .init bothHandedOver).any (fun l => decide (l.handed 0 = ["t", "u"])) = true ∧
      Steps Ledger.step HandedOnce .init bothHandedOver ∧ Steps Ledger.step OwnParams .init bothHandedOver := by
  obtain ⟨once, -, own⟩ := trained_with_own_params bothHandedOver
  exact ⟨by decide +kernel, once, own (by simp [bothHandedOver])⟩

end TelemetryLab.Training
