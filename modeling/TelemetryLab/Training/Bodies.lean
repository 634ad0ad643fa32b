import TelemetryLab.Training.Worker

/-! The branches of the two job bodies.

`trainStep` and `tuneStep` are taken apart here once. What holds of every step of
a body is then a case analysis of these relations.
-/

set_option autoImplicit false
namespace TelemetryLab.Training
open Jobs

/-- What a write of the client has issued when it comes back. -/
inductive Tried (intended : Statement) : Event → Statement → Prop
  | stored : Tried intended .done intended
  | lost (what : String) : Tried intended (.error what) .nothing

theorem tried_of_guarded {A : Type} {event : Event} {intended : Statement} {f : Statement → A} {result : A}
    (guarded : (event.guarded intended).map f = some result) : ∃ issued, Tried intended event issued ∧ f issued = result := by
  cases event with
  | done =>
    cases guarded
    exact ⟨intended, .stored, rfl⟩
  | error what =>
    cases guarded
    exact ⟨.nothing, .lost what, rfl⟩
  | heartbeat stored | created id | unconfirmed id what | empty | thread starts => cases guarded

section training
variable (runs : Runs) (flagged : Bool) (call : TrainCall)

inductive Trains : TrainPc → Event → Statement → Progress TrainPc → Prop
  | takes (passes : passesTransition runs call.modelRunId = true) :
      Trains .transition .done (.transitionStatus call.modelRunId .pending .running) (.goto .training)
  | late (blocked : passesTransition runs call.modelRunId = false) :
      Trains .transition .done (.transitionStatus call.modelRunId .pending .running) (.goto .readBack)
  | unwritten (what : String) : Trains .transition (.error what) .nothing (.goto .readBack)
  | joins (row : ModelRun) (found : runs.lookup call.modelRunId = some row) (running : row.status = .running) :
      Trains .readBack .done .nothing (.goto .training)
  | leaves (row : ModelRun) (found : runs.lookup call.modelRunId = some row) (other : row.status ≠ .running) :
      Trains .readBack .done .nothing .returns
  | missing (absent : runs.lookup call.modelRunId = none) : Trains .readBack .done .nothing (.throws valueOfNull)
  | unread (what : String) : Trains .readBack (.error what) .nothing (.throws valueOfNull)
  | beats : Trains .training (.heartbeat true) (.heartbeat call.modelRunId) (.goto .training)
  | skips : Trains .training (.heartbeat false) .nothing (.goto .training)
  | stops (set : flagged = true) : Trains .training .done .nothing (.goto .cancelling)
  | trained (unset : flagged = false) : Trains .training .done .nothing (.goto .saving)
  | untrained (what : String) : Trains .training (.error what) .nothing (.goto (.failing what))
  | cancels (event : Event) (statement : Statement)
      (tried : Tried (.updateStatus call.modelRunId .cancelled "" "") event statement) :
      Trains .cancelling event statement .returns
  | saves : Trains .saving .done .nothing (.goto .completing)
  | unsaved (what : String) : Trains .saving (.error what) .nothing (.goto (.failing what))
  | completes (event : Event) (statement : Statement)
      (tried : Tried (.updateStatus call.modelRunId .completed (artifactPath call.modelRunId) "") event statement) :
      Trains .completing event statement (.goto .marking)
  | marks (event : Event) (statement : Statement)
      (tried : Tried (.trialEligibility call.modelRunId true "") event statement) :
      Trains .marking event statement .returns
  | fails (what : String) (event : Event) (statement : Statement)
      (tried : Tried (.updateStatus call.modelRunId .failed "" what) event statement) :
      Trains (.failing what) event statement (.goto (.markingFailed what))
  | marksFailed (what : String) (event : Event) (statement : Statement)
      (tried : Tried (.trialEligibility call.modelRunId false "FAILED") event statement) :
      Trains (.markingFailed what) event statement (.throws what)

end training

theorem trainStep_trains {runs : Runs} {flagged : Bool} {call : TrainCall} {pc : TrainPc} {event : Event}
    {statement : Statement} {progress : Progress TrainPc}
    (acted : trainStep runs flagged call pc event = some (statement, progress)) :
    Trains runs flagged call pc event statement progress := by
  cases pc with
  | transition =>
    cases event with
    | done =>
      cases acted
      cases passes : passesTransition runs call.modelRunId
      · exact .late passes
      · exact .takes passes
    | error what =>
      cases acted
      exact .unwritten what
    | heartbeat stored | created id | unconfirmed id what | empty | thread starts => cases acted
  | readBack =>
    cases event with
    | done =>
      simp only [trainStep] at acted
      split at acted
      next row found =>
        cases acted
        split
        next running => exact .joins row found running
        next other => exact .leaves row found other
      next absent =>
        cases acted
        exact .missing absent
    | error what =>
      cases acted
      exact .unread what
    | heartbeat stored | created id | unconfirmed id what | empty | thread starts => cases acted
  | training =>
    cases event with
    | done =>
      cases acted
      cases flagged
      · exact .trained rfl
      · exact .stops rfl
    | error what =>
      cases acted
      exact .untrained what
    | heartbeat stored =>
      cases acted
      cases stored
      · exact .skips
      · exact .beats
    | created id | unconfirmed id what | empty | thread starts => cases acted
  | saving =>
    cases event with
    | done =>
      cases acted
      exact .saves
    | error what =>
      cases acted
      exact .unsaved what
    | heartbeat stored | created id | unconfirmed id what | empty | thread starts => cases acted
  | cancelling =>
    obtain ⟨issued, tried, same⟩ := tried_of_guarded acted
    cases same
    exact .cancels event statement tried
  | completing =>
    obtain ⟨issued, tried, same⟩ := tried_of_guarded acted
    cases same
    exact .completes event statement tried
  | marking =>
    obtain ⟨issued, tried, same⟩ := tried_of_guarded acted
    cases same
    exact .marks event statement tried
  | failing what =>
    obtain ⟨issued, tried, same⟩ := tried_of_guarded acted
    cases same
    exact .fails what event statement tried
  | markingFailed what =>
    obtain ⟨issued, tried, same⟩ := tried_of_guarded acted
    cases same
    exact .marksFailed what event statement tried

section tuning
variable (now : Nat) (runs : Runs) (flagged : Bool) (task : TuningTask)

inductive Tunes : TunePc → Event → TuneAction → Prop
  | takes (passes : passesTransition runs task.parentRunId = true) :
      Tunes .transition .done
        (.statement (.transitionStatus task.parentRunId .pending .running) (.goto (.creating 0 [])))
  | late (blocked : passesTransition runs task.parentRunId = false) :
      Tunes .transition .done (.statement (.transitionStatus task.parentRunId .pending .running) (.goto .readBack))
  | unwritten (what : String) : Tunes .transition (.error what) (.statement .nothing (.goto .readBack))
  | joins (row : ModelRun) (found : runs.lookup task.parentRunId = some row) (running : row.status = .running) :
      Tunes .readBack .done (.statement .nothing (.goto (.creating 0 [])))
  | leaves (row : ModelRun) (found : runs.lookup task.parentRunId = some row) (other : row.status ≠ .running) :
      Tunes .readBack .done (.statement .nothing .returns)
  | missing (absent : runs.lookup task.parentRunId = none) :
      Tunes .readBack .done (.statement .nothing (.throws valueOfNull))
  | unread (what : String) : Tunes .readBack (.error what) (.statement .nothing (.throws valueOfNull))
  | creates (idx : Nat) (trialIds : List String) (modelRunId : String) (left : idx < task.trials.length)
      (fresh : modelRunId ∉ runs) :
      Tunes (.creating idx trialIds) (.created modelRunId) (.statement (.insert modelRunId (trialRow task idx now))
        (.goto (.creating (idx + 1) (trialIds ++ [modelRunId]))))
  | skips (idx : Nat) (trialIds : List String) (left : idx < task.trials.length) :
      Tunes (.creating idx trialIds) .empty (.statement .nothing (.goto (.creating (idx + 1) trialIds)))
  | uncreated (idx : Nat) (trialIds : List String) (what : String) (left : idx < task.trials.length) :
      Tunes (.creating idx trialIds) (.error what) (.statement .nothing (.throws what))
  | unconfirmed (idx : Nat) (trialIds : List String) (modelRunId what : String) (left : idx < task.trials.length)
      (fresh : modelRunId ∉ runs) :
      Tunes (.creating idx trialIds) (.unconfirmed modelRunId what)
        (.statement (.insert modelRunId (trialRow task idx now)) (.throws what))
  | created (idx : Nat) (trialIds : List String) (all : ¬ idx < task.trials.length) :
      Tunes (.creating idx trialIds) .done (.statement .nothing (.goto (.head ⟨trialIds, 0, []⟩)))
  | stops (d : Dispatching) (more : d.nextTrial < d.trialIds.length ∨ d.activeTrials ≠ []) (set : flagged = true) :
      Tunes (.head d) .done (.statement .nothing (.goto (.cancelling d)))
  | goesOn (d : Dispatching) (more : d.nextTrial < d.trialIds.length ∨ d.activeTrials ≠ []) (unset : flagged = false) :
      Tunes (.head d) .done (.statement .nothing (.goto (.dispatch d)))
  | finishes (d : Dispatching) (dispatched : d.trialIds.length ≤ d.nextTrial) (ended : d.activeTrials = []) :
      Tunes (.head d) .done (.statement .nothing .returns)
  | cancels (d : Dispatching) (event : Event) (statement : Statement)
      (tried : Tried (.updateStatus task.parentRunId .cancelled "" "") event statement) :
      Tunes (.cancelling d) event (.statement statement .returns)
  | dispatches (d : Dispatching) (trialId : String) (config : TrainingConfig) (starts : Bool)
      (room : (d.activeTrials.length : Int) < task.maxConcurrency) (listed : d.trialIds[d.nextTrial]? = some trialId)
      (configured : task.trials[d.nextTrial]? = some config) :
      Tunes (.dispatch d) (.thread starts)
        (.runPcaTraining ⟨trialId, { config with datasetId := task.datasetId }, task.requestId⟩ starts
          (.dispatch { d with
            nextTrial := d.nextTrial + 1
            activeTrials := activate trialId d.activeTrials }))
  | waits (d : Dispatching)
      (full : ¬ (d.activeTrials.length : Int) < task.maxConcurrency ∨ d.trialIds[d.nextTrial]? = none) :
      Tunes (.dispatch d) .done (.statement .nothing (.goto (.heartbeat d)))
  | beats (d : Dispatching) (event : Event) (statement : Statement)
      (tried : Tried (.heartbeat task.parentRunId) event statement) :
      Tunes (.heartbeat d) event (.statement statement (.goto (.poll d d.activeTrials)))
  | polled (d : Dispatching) : Tunes (.poll d []) .done (.statement .nothing (.goto (.head d)))
  | polls (d : Dispatching) (trialId : String) (rest : List String) (row : ModelRun)
      (found : runs.lookup trialId = some row) :
      Tunes (.poll d (trialId :: rest)) .done (.statement .nothing (.goto (.poll { d with
        activeTrials := if row.status.isTerminal then d.activeTrials.erase trialId else d.activeTrials } rest)))
  | lost (d : Dispatching) (trialId : String) (rest : List String) (absent : runs.lookup trialId = none) :
      Tunes (.poll d (trialId :: rest)) .done (.statement .nothing (.throws stringOfNull))
  | unpolled (d : Dispatching) (trialId : String) (rest : List String) (what : String) :
      Tunes (.poll d (trialId :: rest)) (.error what) (.statement .nothing (.throws stringOfNull))

end tuning

theorem tuneStep_tunes {now : Nat} {runs : Runs} {flagged : Bool} {task : TuningTask} {pc : TunePc} {event : Event}
    {action : TuneAction} (acted : tuneStep now runs flagged task pc event = some action) :
    Tunes now runs flagged task pc event action := by
  cases pc with
  | transition =>
    cases event with
    | done =>
      cases acted
      cases passes : passesTransition runs task.parentRunId
      · exact .late passes
      · exact .takes passes
    | error what =>
      cases acted
      exact .unwritten what
    | heartbeat stored | created id | unconfirmed id what | empty | thread starts => cases acted
  | readBack =>
    cases event with
    | done =>
      simp only [tuneStep] at acted
      split at acted
      next row found =>
        cases acted
        split
        next running => exact .joins row found running
        next other => exact .leaves row found other
      next absent =>
        cases acted
        exact .missing absent
    | error what =>
      cases acted
      exact .unread what
    | heartbeat stored | created id | unconfirmed id what | empty | thread starts => cases acted
  | creating idx trialIds =>
    simp only [tuneStep] at acted
    split at acted
    next left =>
      cases event with
      | created modelRunId =>
        simp only at acted
        split at acted <;> cases acted
        next fresh => exact .creates idx trialIds modelRunId left fresh
      | empty =>
        cases acted
        exact .skips idx trialIds left
      | error what =>
        cases acted
        exact .uncreated idx trialIds what left
      | unconfirmed modelRunId what =>
        simp only at acted
        split at acted <;> cases acted
        next fresh => exact .unconfirmed idx trialIds modelRunId what left fresh
      | done | heartbeat stored | thread starts => cases acted
    next all =>
      cases event <;> cases acted
      exact .created idx trialIds all
  | head d =>
    cases event <;> simp only [tuneStep, reduceCtorEq] at acted
    split at acted
    next more =>
      cases acted
      cases flagged
      · exact .goesOn d more rfl
      · exact .stops d more rfl
    next none =>
      -- no trial is left and none is in flight
      cases acted
      rw [not_or, not_lt, not_not] at none
      exact .finishes d none.1 none.2
  | cancelling d =>
    obtain ⟨issued, tried, same⟩ := tried_of_guarded acted
    cases same
    exact .cancels d event issued tried
  | dispatch d =>
    simp only [tuneStep] at acted
    split at acted
    next room =>
      split at acted
      next trialId config listed configured =>
        split at acted <;> cases acted
        exact .dispatches d trialId config _ room listed configured
      next none =>
        split at acted <;> cases acted
        next done =>
          subst done
          exact .waits d (.inr none)
      next => cases acted
    next full =>
      split at acted <;> cases acted
      next done =>
        subst done
        exact .waits d (.inl full)
  | heartbeat d =>
    obtain ⟨issued, tried, same⟩ := tried_of_guarded acted
    cases same
    exact .beats d event issued tried
  | poll d rest =>
    cases rest with
    | nil =>
      cases event <;> cases acted
      exact .polled d
    | cons trialId rest =>
      cases event with
      | done =>
        simp only [tuneStep] at acted
        split at acted
        next row found =>
          cases acted
          exact .polls d trialId rest row found
        next absent =>
          cases acted
          exact .lost d trialId rest absent
      | error what =>
        cases acted
        exact .unpolled d trialId rest what
      | heartbeat stored | created id | unconfirmed id what | empty | thread starts => cases acted

end TelemetryLab.Training
