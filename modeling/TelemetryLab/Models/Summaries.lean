import TelemetryLab.Lib.References
import TelemetryLab.Lib.Tally
import TelemetryLab.Models.Handlers

/-! The list and the detail of tuning runs agree.

The list folds a grouped query into counters, the detail scans the trials. A
group whose status has no counter ends the loop over the whole page.
-/

set_option autoImplicit false
namespace TelemetryLab.Models
open Jobs Tally

theorem stateToString_injective : Function.Injective JobState.stateToString := by
  intro a b same
  have read := JobState.stringToState_stateToString a
  rw [same, JobState.stringToState_stateToString] at read
  exact (Option.some.inj read).symm

/-! ## The loop over the groups -/

/-- The trials of a parent in a status, over some groups. -/
def tallied (groups : List Group) (parentRunId : String) (status : JobState) : Nat :=
  tally (fun group => if group.parentRunId = parentRunId ∧ group.status = status then group.count else 0) groups

section Loop

variable {done : List Group} {parentRunId : String} {summary : Summary} {group : Group} {summaries : Summaries}

/-- A summary counts the groups of its parent. -/
structure Correct (done : List Group) (parentRunId : String) (summary : Summary) : Prop where
  total : summary.trialCount = tallied done parentRunId .pending + tallied done parentRunId .running +
    tallied done parentRunId .completed + tallied done parentRunId .failed
  completed : summary.completedCount = tallied done parentRunId .completed
  counts : ∀ status, status ≠ .cancelled →
    summary.statusCounts.lookup status.stateToString = some (some (tallied done parentRunId status))

structure Reports (done : List Group) (summaries : Summaries) : Prop where
  known : ∀ group ∈ done, group.parentRunId ∈ summaries
  correct : ∀ parentRunId summary, summaries.lookup parentRunId = some summary → Correct done parentRunId summary

theorem tallied_append_other (other : group.parentRunId ≠ parentRunId) (status : JobState) :
    tallied (done ++ [group]) parentRunId status = tallied done parentRunId status := by
  simp [tallied, other]

theorem tallied_append_own (own : group.parentRunId = parentRunId) (status : JobState) :
    tallied (done ++ [group]) parentRunId status =
      tallied done parentRunId status + if group.status = status then group.count else 0 := by
  simp [tallied, own]

theorem initial_correct (none : ∀ group ∈ done, group.parentRunId ≠ parentRunId) :
    Correct done parentRunId .initial := by
  have zero : ∀ status, tallied done parentRunId status = 0 := by
    intro status
    apply tally_eq_zero
    intro group member
    simp [none group member]
  refine ⟨by simp [zero, Summary.initial], by simp [zero, Summary.initial], ?_⟩
  intro status counted
  rw [zero]
  cases status with
  | cancelled => exact absurd rfl counted
  | pending | running | completed | failed => rfl

theorem Correct.other (now : Correct done parentRunId summary) (other : group.parentRunId ≠ parentRunId) :
    Correct (done ++ [group]) parentRunId summary := by
  obtain ⟨total, completed, counts⟩ := now
  refine ⟨?_, ?_, ?_⟩
  · simpa only [tallied_append_other other] using total
  · simpa only [tallied_append_other other] using completed
  · simpa only [tallied_append_other other] using counts

theorem Correct.add (now : Correct done parentRunId summary) (own : group.parentRunId = parentRunId)
    (counted : group.status ≠ .cancelled) :
    (summary.add group).2 = false ∧ Correct (done ++ [group]) parentRunId (summary.add group).1 := by
  have found := now.counts group.status counted
  have added : summary.add group = ({
      trialCount := summary.trialCount + group.count
      completedCount := summary.completedCount + if group.status = .completed then group.count else 0
      statusCounts := summary.statusCounts.insert group.status.stateToString
        (some (tallied done parentRunId group.status + group.count)) }, false) := by
    simp only [Summary.add, found]
    split <;> simp_all
  rw [added]
  refine ⟨rfl, ?_, ?_, ?_⟩
  · simp only [now.total, tallied_append_own own]
    revert counted
    cases group.status with
    | cancelled => simp
    | pending | running | completed | failed =>
      intro _
      simp
      omega
  · simp only [now.completed, tallied_append_own own]
  · intro status other
    rw [tallied_append_own own]
    by_cases same : group.status = status
    · subst same
      simp
    · have apart : status.stateToString ≠ group.status.stateToString := fun equal =>
        same (stateToString_injective equal).symm
      simp [AList.lookup_insert_ne apart, now.counts status other, same]

theorem reports_nil : Reports [] ∅ where
  known := by simp
  correct := by simp

/-- A group with a counter is added and the loop goes on. -/
theorem addGroup_reports (now : Reports done summaries) (counted : group.status ≠ .cancelled) :
    (addGroup summaries group).2 = false ∧ Reports (done ++ [group]) (addGroup summaries group).1 := by
  have before : Correct done group.parentRunId ((summaries.lookup group.parentRunId).getD .initial) := by
    cases found : summaries.lookup group.parentRunId with
    | some summary => exact now.correct group.parentRunId summary found
    | none =>
      refine initial_correct fun other member same => ?_
      exact AList.lookup_eq_none.mp found (same ▸ now.known other member)
  obtain ⟨quiet, after⟩ := before.add rfl counted
  refine ⟨quiet, ?_, ?_⟩
  · intro other member
    rw [addGroup, AList.mem_insert]
    rcases List.mem_append.mp member with old | last
    · exact .inr (now.known other old)
    · exact .inl (congrArg Group.parentRunId (List.mem_singleton.mp last))
  · intro parentRunId summary found
    by_cases same : parentRunId = group.parentRunId
    · subst same
      rw [addGroup, AList.lookup_insert] at found
      exact Option.some.inj found ▸ after
    · rw [addGroup, AList.lookup_insert_ne same] at found
      exact (now.correct parentRunId summary found).other (Ne.symm same)

theorem addGroups_reports {rest : List Group} (counted : ∀ group ∈ rest, group.status ≠ .cancelled)
    (now : Reports done summaries) : Reports (done ++ rest) (addGroups rest summaries) := by
  induction rest generalizing done summaries with
  | nil => simpa [addGroups] using now
  | cons group rest ih =>
    obtain ⟨quiet, next⟩ := addGroup_reports now (counted group List.mem_cons_self)
    have later := ih (fun other member => counted other (List.mem_cons_of_mem group member)) next
    simpa [addGroups, quiet] using later

/-- The field of cancelled trials never is a number. -/
def Uncounted (summary : Summary) : Prop :=
  ∀ n, summary.statusCounts.lookup JobState.cancelled.stateToString ≠ some (some n)

theorem Uncounted.value (never : Uncounted summary) : summary.value .cancelled = 0 := by
  rw [Summary.value]
  cases found : summary.statusCounts.lookup JobState.cancelled.stateToString with
  | none => rfl
  | some field =>
    cases field with
    | none => rfl
    | some n => exact absurd found (never n)

theorem Uncounted.add (never : Uncounted summary) (group : Group) : Uncounted (summary.add group).1 := by
  intro n
  by_cases same : group.status = .cancelled
  · have missing : ∀ n, summary.statusCounts.lookup group.status.stateToString ≠ some (some n) := same ▸ never
    simp only [Summary.add]
    simp [same]
  · have apart : JobState.cancelled.stateToString ≠ group.status.stateToString := fun equal =>
      same (stateToString_injective equal).symm
    have kept : (summary.add group).1.statusCounts.lookup JobState.cancelled.stateToString =
        summary.statusCounts.lookup JobState.cancelled.stateToString := by
      simp only [Summary.add]
      split
      · split <;> rw [AList.lookup_insert_ne apart]
      · rw [AList.lookup_insert_ne apart]
    rw [kept]
    exact never n

theorem addGroups_uncounted (rest : List Group)
    (now : ∀ parentRunId summary, summaries.lookup parentRunId = some summary → Uncounted summary) :
    ∀ parentRunId summary, (addGroups rest summaries).lookup parentRunId = some summary → Uncounted summary := by
  induction rest generalizing summaries with
  | nil => exact now
  | cons group rest ih =>
    have next : ∀ parentRunId summary, (addGroup summaries group).1.lookup parentRunId = some summary →
        Uncounted summary := by
      intro parentRunId summary found
      by_cases same : parentRunId = group.parentRunId
      · subst same
        rw [addGroup, AList.lookup_insert] at found
        rw [← Option.some.inj found]
        refine Uncounted.add ?_ group
        cases before : summaries.lookup group.parentRunId with
        | some earlier => exact now _ earlier before
        | none =>
          rw [Option.getD_none]
          intro n
          simp [Summary.initial, AList.lookup, JobState.stateToString]
      · rw [addGroup, AList.lookup_insert_ne same] at found
        exact now parentRunId summary found
    simp only [addGroups]
    split
    · exact next
    · exact ih next

end Loop

/-! ## The grouped query -/

section Query

variable {R : Type} {table : ModelRuns R} {requested : List String} {result : List Group} {parentRunId : String}

/-- What the grouped query may answer, its rows in any order. -/
structure Grouped (table : ModelRuns R) (requested : List String) (result : List Group) : Prop where
  distinct : result.Nodup
  rows : ∀ group, group ∈ result ↔ group.parentRunId ∈ requested ∧
    group.count = countStatus (table.trialsOf group.parentRunId) group.status ∧ 0 < group.count

theorem Grouped.tallied_eq (grouped : Grouped table requested result) (asked : parentRunId ∈ requested)
    (status : JobState) : tallied result parentRunId status = countStatus (table.trialsOf parentRunId) status := by
  rcases Nat.eq_zero_or_pos (countStatus (table.trialsOf parentRunId) status) with zero | positive
  · rw [zero]
    apply tally_eq_zero
    intro group member
    obtain ⟨-, counted, some⟩ := (grouped.rows group).mp member
    split
    case isTrue own =>
      obtain ⟨rfl, rfl⟩ := own
      omega
    case isFalse => rfl
  · have member := (grouped.rows ⟨parentRunId, status, countStatus (table.trialsOf parentRunId) status⟩).mpr
      ⟨asked, rfl, positive⟩
    rw [tallied, tally_eq_single grouped.distinct member]
    · simp
    · intro group other different
      rw [if_neg]
      rintro ⟨rfl, rfl⟩
      exact different (by rw [← ((grouped.rows group).mp other).2.1])

theorem length_eq_counts (trials : List (Trial R)) :
    trials.length = countStatus trials .pending + countStatus trials .running + countStatus trials .completed +
      countStatus trials .failed + countStatus trials .cancelled := by
  induction trials with
  | nil => rfl
  | cons trial rest ih =>
    simp only [List.length_cons, ih, countStatus, List.countP_cons]
    cases trial.status <;> simp <;> omega

theorem countStatus_eq_zero {trials : List (Trial R)} {status : JobState} :
    countStatus trials status = 0 ↔ ∀ trial ∈ trials, trial.status ≠ status := by
  simp [countStatus, List.countP_eq_zero]

theorem trialsOf_perm (table : ModelRuns R) (parentRunId : String) :
    (table.getHpoTrials parentRunId).Perm (table.trialsOf parentRunId) := by
  have sorted := List.perm_insertionSort (fun a b : Trial R => a.trialIndex ≤ b.trialIndex) (table.trialsOf parentRunId)
  rw [ModelRuns.getHpoTrials, List.take_of_length_le]
  · exact sorted
  · rw [sorted.length_eq]
    exact table.few parentRunId

variable [Arith R]

/-- The scan for the best trial goes through exactly if it never reads a null. -/
theorem consider_all (trials : List (Trial R)) (best : Best R) :
    (∃ final, trials.foldlM Best.consider best = .ok final) ↔
      ∀ trial ∈ trials, trial.status = .completed → trial.isEligible → trial.selectionMetricValue.isSome := by
  induction trials generalizing best with
  | nil => simp [pure, Except.pure]
  | cons trial rest ih =>
    rw [List.foldlM_cons, List.forall_mem_cons]
    by_cases candidate : trial.status = .completed ∧ trial.isEligible
    · cases metric : trial.selectionMetricValue with
      | none => simp [Best.consider, candidate, metric, bind, Except.bind]
      | some threshold => simp [Best.consider, candidate, metric, bind, Except.bind, ih]
    · have skipped : trial.status = .completed → trial.isEligible → trial.selectionMetricValue.isSome := fun one two =>
        absurd ⟨one, two⟩ candidate
      simp only [Best.consider, candidate, if_false, bind, Except.bind, ih]
      exact (and_iff_right skipped).symm

theorem aggregated_ok_iff {run : ModelRun R} {trials : List (Trial R)} :
    (∃ detail, run.aggregated trials = .ok detail) ↔
      ∀ trial ∈ trials, trial.status = .completed → trial.isEligible → trial.selectionMetricValue.isSome := by
  rw [← consider_all trials .none, ModelRun.aggregated, ← selectBest]
  cases selectBest trials with
  | error answer => simp [bind, Except.bind]
  | ok best => simp [bind, Except.bind, pure, Except.pure]

theorem aggregated_status {run : ModelRun R} {trials : List (Trial R)} {detail : Detail R}
    (answered : run.aggregated trials = .ok detail) :
    detail.status = aggregateStatus (countStatus trials .pending) (countStatus trials .running)
      (countStatus trials .completed) (countStatus trials .failed) run.status := by
  rw [ModelRun.aggregated] at answered
  cases chosen : selectBest trials with
  | error answer => simp [chosen, bind, Except.bind] at answered
  | ok best =>
    simp only [chosen, bind, Except.bind, pure, Except.pure, Except.ok.injEq] at answered
    rw [← answered]

end Query

/-! ## List and detail -/

section Agreement

variable {R : Type} {table : ModelRuns R} {result : List Group} {run : ModelRun R}

/-- A page of `ListModelRuns`. -/
structure Page (table : ModelRuns R) where
  models : List (Listed R)
  runs : ∀ run, .run run ∈ models → run ∈ table.runs
  trials : ∀ trial, .trial trial ∈ models → trial ∈ table.trials

variable {page : Page table}

/-- The summaries of a page count all trials, and the list shows what the details show. -/
structure Agrees [Arith R] (page : Page table) (result : List Group) : Prop where
  counted : ∀ parentRunId ∈ requestedParents page.models, table.trialsOf parentRunId ≠ [] →
    ∃ summary, (getBulkHpoTrialSummaries result).lookup parentRunId = some summary ∧
      summary.trialCount = (table.trialsOf parentRunId).length ∧
      summary.completedCount = countStatus (table.trialsOf parentRunId) .completed ∧
      ∀ status, summary.value status = countStatus (table.trialsOf parentRunId) status
  shown : ∀ item ∈ handleListModels page.models result, ∃ detail,
    handleGetModelDetail table item.modelRunId = .ok detail ∧ detail.status = item.status

/-- No run of the page has a cancelled trial, or a completed and eligible one without a metric. -/
structure Clear (page : Page table) : Prop where
  uncancelled : ∀ parentRunId ∈ requestedParents page.models, ∀ trial ∈ table.trialsOf parentRunId,
    trial.status ≠ .cancelled
  measured : ∀ parentRunId ∈ requestedParents page.models, ∀ trial ∈ table.trialsOf parentRunId,
    trial.status = .completed → trial.isEligible → trial.selectionMetricValue.isSome

/-- The status of a run by its trials. -/
def ModelRuns.statusOf (table : ModelRuns R) (run : ModelRun R) : JobState :=
  aggregateStatus (countStatus (table.trialsOf run.modelRunId) .pending)
    (countStatus (table.trialsOf run.modelRunId) .running) (countStatus (table.trialsOf run.modelRunId) .completed)
    (countStatus (table.trialsOf run.modelRunId) .failed) run.status

theorem statusOf_eq (none : ∀ status, status ≠ .cancelled → countStatus (table.trialsOf run.modelRunId) status = 0) :
    table.statusOf run = run.status := by
  simp [ModelRuns.statusOf, aggregateStatus, none]

theorem mem_requestedParents {models : List (Listed R)} {parentRunId : String} :
    parentRunId ∈ requestedParents models ↔ ∃ run, .run run ∈ models ∧ run.modelRunId = parentRunId := by
  simp only [requestedParents, List.mem_filterMap]
  constructor
  · rintro ⟨row, member, kept⟩
    cases row with
    | run run => exact ⟨run, member, Option.some.inj kept⟩
    | trial trial => cases kept
  · rintro ⟨run, member, rfl⟩
    exact ⟨.run run, member, rfl⟩

/-- Nothing ends the loop, so every parent with trials is there. -/
theorem Grouped.reports {requested : List String} (grouped : Grouped table requested result)
    (uncancelled : ∀ parentRunId ∈ requested, ∀ trial ∈ table.trialsOf parentRunId, trial.status ≠ .cancelled) :
    Reports result (getBulkHpoTrialSummaries result) := by
  have counted : ∀ group ∈ result, group.status ≠ .cancelled := by
    intro group member cancelled
    obtain ⟨asked, count, some⟩ := (grouped.rows group).mp member
    rw [cancelled, countStatus_eq_zero.mpr (uncancelled _ asked)] at count
    omega
  exact addGroups_reports counted reports_nil

theorem Grouped.mem_summaries {requested : List String} {summaries : Summaries} {parentRunId : String}
    (grouped : Grouped table requested result) (reports : Reports result summaries) (asked : parentRunId ∈ requested)
    {status : JobState} (some : 0 < countStatus (table.trialsOf parentRunId) status) : parentRunId ∈ summaries :=
  reports.known ⟨parentRunId, status, _⟩ ((grouped.rows ⟨parentRunId, status, _⟩).mpr ⟨asked, rfl, some⟩)

theorem Correct.value {parentRunId : String} {summary : Summary} (correct : Correct result parentRunId summary)
    {status : JobState} (counted : status ≠ .cancelled) :
    summary.value status = tallied result parentRunId status := by
  rw [Summary.value, correct.counts status counted]
  rfl

theorem listItem_status {requested : List String} {summaries : Summaries} (grouped : Grouped table requested result)
    (reports : Reports result summaries) (asked : run.modelRunId ∈ requested) :
    (run.listItem summaries).status = table.statusOf run := by
  cases found : summaries.lookup run.modelRunId with
  | none =>
    rw [statusOf_eq, ModelRun.listItem, found]
    intro status _
    by_contra some
    exact AList.lookup_eq_none.mp found (grouped.mem_summaries reports asked (Nat.pos_of_ne_zero some))
  | some summary =>
    have correct := reports.correct run.modelRunId summary found
    have total := correct.total
    simp only [grouped.tallied_eq asked] at total
    by_cases many : summary.trialCount > 0
    · have values : ∀ status, status ≠ .cancelled →
          summary.value status = countStatus (table.trialsOf run.modelRunId) status := by
        intro status counted
        rw [correct.value counted, grouped.tallied_eq asked]
      simp [ModelRun.listItem, found, many, ModelRuns.statusOf, values]
    · rw [statusOf_eq, ModelRun.listItem, found]
      · simp [many]
      · intro status counted
        cases status with
        | cancelled => exact absurd rfl counted
        | pending | running | completed | failed => omega

theorem trialsOf_eq_nil (member : run ∈ table.runs) (plain : run.hpoConfig = false) :
    table.trialsOf run.modelRunId = [] := by
  rw [ModelRuns.trialsOf, List.filter_eq_nil_iff]
  intro trial there own
  obtain ⟨parent, stored, same, tuned⟩ := table.tuned trial there
  have equal : parent.modelRunId = run.modelRunId := same.trans (of_decide_eq_true own)
  rw [List.inj_on_of_nodup_map (List.nodup_append.mp table.distinct).1 stored member equal, plain] at tuned
  cases tuned

theorem mem_handleListModels {item : ListItem R} {models : List (Listed R)}
    (member : item ∈ handleListModels models result) :
    (∃ run, .run run ∈ models ∧ item = run.listItem (getBulkHpoTrialSummaries result)) ∨
      ∃ trial, .trial trial ∈ models ∧ item = ⟨trial.modelRunId, trial.status, none⟩ := by
  obtain ⟨row, there, rfl⟩ := List.mem_map.mp member
  cases row with
  | run run => exact .inl ⟨run, there, rfl⟩
  | trial trial => exact .inr ⟨trial, there, rfl⟩

theorem listItem_modelRunId (summaries : Summaries) : (run.listItem summaries).modelRunId = run.modelRunId := by
  simp only [ModelRun.listItem]
  split
  · split <;> rfl
  · rfl

variable [Arith R]

theorem detail_of_run (member : run ∈ table.runs) :
    handleGetModelDetail table run.modelRunId =
      if run.hpoConfig then run.aggregated (table.getHpoTrials run.modelRunId)
      else .ok ⟨run.modelRunId, run.status, none⟩ := by
  rw [handleGetModelDetail, find?_key (List.nodup_append.mp table.distinct).1 member]

theorem detail_of_trial {trial : Trial R} (member : trial ∈ table.trials) :
    handleGetModelDetail table trial.modelRunId = .ok ⟨trial.modelRunId, trial.status, none⟩ := by
  obtain ⟨-, distinct, apart⟩ := List.nodup_append.mp table.distinct
  have noRun : table.runs.find? (fun run => decide (run.modelRunId = trial.modelRunId)) = none := by
    rw [List.find?_eq_none]
    intro run stored same
    exact apart _ (List.mem_map_of_mem stored) _ (List.mem_map_of_mem member) (of_decide_eq_true same)
  rw [handleGetModelDetail, noRun, find?_key distinct member]

theorem detail_status {detail : Detail R} (member : run ∈ table.runs)
    (answered : handleGetModelDetail table run.modelRunId = .ok detail) : detail.status = table.statusOf run := by
  rw [detail_of_run member] at answered
  cases tuned : run.hpoConfig with
  | true =>
    rw [tuned, if_pos rfl] at answered
    have same : ∀ status, countStatus (table.getHpoTrials run.modelRunId) status =
        countStatus (table.trialsOf run.modelRunId) status := fun status =>
      (trialsOf_perm table run.modelRunId).countP_eq _
    rw [aggregated_status answered, ModelRuns.statusOf, same, same, same, same]
  | false =>
    rw [tuned] at answered
    rw [statusOf_eq, ← Except.ok.inj answered]
    intro status _
    rw [trialsOf_eq_nil member tuned]
    rfl

/-- The detail is shown exactly if its scan for the best trial goes through. -/
theorem detail_ok_iff (member : run ∈ table.runs) :
    (∃ detail, handleGetModelDetail table run.modelRunId = .ok detail) ↔
      ∀ trial ∈ table.trialsOf run.modelRunId, trial.status = .completed → trial.isEligible →
        trial.selectionMetricValue.isSome := by
  rw [detail_of_run member]
  cases tuned : run.hpoConfig with
  | true =>
    rw [if_pos rfl, aggregated_ok_iff]
    constructor
    · exact fun all trial there => all trial ((trialsOf_perm table run.modelRunId).mem_iff.mpr there)
    · exact fun all trial there => all trial ((trialsOf_perm table run.modelRunId).mem_iff.mp there)
  | false => simp [trialsOf_eq_nil member tuned]

/-- A cancelled trial is never counted. -/
theorem uncancelled_of_agrees (agrees : Agrees page result) : ∀ parentRunId ∈ requestedParents page.models,
    ∀ trial ∈ table.trialsOf parentRunId, trial.status ≠ .cancelled := by
  intro parentRunId asked
  rw [← countStatus_eq_zero]
  by_cases some : table.trialsOf parentRunId = []
  · rw [some]
    rfl
  · obtain ⟨summary, found, -, -, values⟩ := agrees.counted parentRunId asked some
    have never : Uncounted summary := addGroups_uncounted result (by simp) parentRunId summary found
    rw [← values, never.value]

theorem measured_of_agrees (agrees : Agrees page result) : ∀ parentRunId ∈ requestedParents page.models,
    ∀ trial ∈ table.trialsOf parentRunId, trial.status = .completed → trial.isEligible →
      trial.selectionMetricValue.isSome := by
  intro parentRunId asked
  obtain ⟨run, listed, rfl⟩ := mem_requestedParents.mp asked
  have item : run.listItem (getBulkHpoTrialSummaries result) ∈ handleListModels page.models result :=
    List.mem_map.mpr ⟨.run run, listed, rfl⟩
  obtain ⟨detail, answered, -⟩ := agrees.shown _ item
  rw [listItem_modelRunId] at answered
  exact (detail_ok_iff (page.runs run listed)).mp ⟨detail, answered⟩

omit [Arith R] in
theorem Clear.counted (clear : Clear page) (grouped : Grouped table (requestedParents page.models) result)
    {parentRunId : String} (asked : parentRunId ∈ requestedParents page.models)
    (nonempty : table.trialsOf parentRunId ≠ []) :
    ∃ summary, (getBulkHpoTrialSummaries result).lookup parentRunId = some summary ∧
      summary.trialCount = (table.trialsOf parentRunId).length ∧
      summary.completedCount = countStatus (table.trialsOf parentRunId) .completed ∧
      ∀ status, summary.value status = countStatus (table.trialsOf parentRunId) status := by
  have reports := grouped.reports clear.uncancelled
  obtain ⟨trial, there⟩ := List.exists_mem_of_ne_nil _ nonempty
  have positive : 0 < countStatus (table.trialsOf parentRunId) trial.status := by
    rw [Nat.pos_iff_ne_zero, Ne, countStatus_eq_zero]
    exact fun all => all trial there rfl
  obtain ⟨summary, found⟩ := Table.exists_lookup (grouped.mem_summaries reports asked positive)
  have correct := reports.correct parentRunId summary found
  have noneCancelled := countStatus_eq_zero.mpr (clear.uncancelled parentRunId asked)
  refine ⟨summary, found, ?_, ?_, ?_⟩
  · rw [correct.total, length_eq_counts, noneCancelled]
    simp only [grouped.tallied_eq asked, Nat.add_zero]
  · rw [correct.completed, grouped.tallied_eq asked]
  · intro status
    by_cases counted : status = .cancelled
    · subst counted
      have never : Uncounted summary := addGroups_uncounted result (by simp) parentRunId summary found
      rw [noneCancelled, never.value]
    · rw [correct.value counted, grouped.tallied_eq asked]

theorem Clear.shown (clear : Clear page) (grouped : Grouped table (requestedParents page.models) result)
    {item : ListItem R} (member : item ∈ handleListModels page.models result) :
    ∃ detail, handleGetModelDetail table item.modelRunId = .ok detail ∧ detail.status = item.status := by
  have reports := grouped.reports clear.uncancelled
  rcases mem_handleListModels member with ⟨run, listed, rfl⟩ | ⟨trial, listed, rfl⟩
  · have asked := mem_requestedParents.mpr ⟨run, listed, rfl⟩
    have stored := page.runs run listed
    obtain ⟨detail, answered⟩ := (detail_ok_iff stored).mpr (clear.measured run.modelRunId asked)
    rw [listItem_modelRunId, listItem_status grouped reports asked]
    exact ⟨detail, answered, detail_status stored answered⟩
  · exact ⟨_, detail_of_trial (page.trials trial listed), rfl⟩

/-- List and detail agree on a page exactly if no run of it has a cancelled trial,
or a completed and eligible trial whose metric is missing. -/
theorem agrees_iff_clear (page : Page table) (grouped : Grouped table (requestedParents page.models) result) :
    Agrees page result ↔ Clear page := by
  constructor
  · intro agrees
    exact ⟨uncancelled_of_agrees agrees, measured_of_agrees agrees⟩
  · intro clear
    constructor
    case counted => exact fun parentRunId asked nonempty => clear.counted grouped asked nonempty
    case shown => exact fun item member => clear.shown grouped member

end Agreement

/-- A run with a completed and a running trial. -/
def halfDone : ModelRuns ℝ where
  runs := [⟨"p", .running, true, none, none⟩]
  trials := [⟨"t", "p", .completed, 0, "10:00", "", true, some 1, none⟩,
    ⟨"u", "p", .running, 1, "", "", true, none, none⟩]
  distinct := by decide
  tuned := by simp
  named := by simp
  few _ := (List.length_filter_le _ _).trans (by simp [maxTrials])

theorem agrees_iff_clear_halfDone : ∃ page : Page halfDone, ∃ result,
    Grouped halfDone (requestedParents page.models) result ∧ Clear page ∧ Agrees page result := by
  let page : Page halfDone := ⟨[.run ⟨"p", .running, true, none, none⟩], by simp [halfDone], by simp⟩
  have grouped : Grouped halfDone (requestedParents page.models) [⟨"p", .completed, 1⟩, ⟨"p", .running, 1⟩] := by
    refine ⟨by decide, ?_⟩
    rintro ⟨parentRunId, status, count⟩
    constructor
    · intro member
      rcases List.mem_pair.mp member with row | row <;> cases row <;> simp [page, requestedParents, halfDone,
        ModelRuns.trialsOf, countStatus]
    · rintro ⟨asked, same, positive⟩
      obtain rfl : parentRunId = "p" := by simpa [page, requestedParents] using asked
      cases status <;> simp_all [halfDone, ModelRuns.trialsOf, countStatus]
  have clear : Clear page := by
    constructor <;> simp [page, requestedParents, halfDone, ModelRuns.trialsOf]
  exact ⟨page, _, grouped, clear, (agrees_iff_clear page grouped).mpr clear⟩

/-- Two tuning runs: the trial of the first is cancelled, that of the second waits. -/
def cancelledFirst : ModelRuns ℝ where
  runs := [⟨"p", .running, true, none, none⟩, ⟨"q", .pending, true, none, none⟩]
  trials := [⟨"t", "p", .cancelled, 0, "", "", true, none, none⟩, ⟨"u", "q", .pending, 0, "", "", true, none, none⟩]
  distinct := by decide
  tuned := by simp
  named := by simp
  few _ := (List.length_filter_le _ _).trans (by simp [maxTrials])

/-- The cancelled trial ends the loop, and the other run is listed as pending while its detail says running. -/
theorem cancelled_trial_hides_others : ∃ page : Page cancelledFirst, ∃ result,
    Grouped cancelledFirst (requestedParents page.models) result ∧ ¬ Agrees page result := by
  let waiting : ModelRun ℝ := ⟨"q", .pending, true, none, none⟩
  let page : Page cancelledFirst :=
    ⟨[.run ⟨"p", .running, true, none, none⟩, .run waiting], by simp [cancelledFirst, waiting], by simp⟩
  refine ⟨page, [⟨"p", .cancelled, 1⟩, ⟨"q", .pending, 1⟩], ⟨by decide, ?_⟩, ?_⟩
  · rintro ⟨parentRunId, status, count⟩
    constructor
    · intro member
      rcases List.mem_pair.mp member with row | row <;> cases row <;> simp [page, waiting, requestedParents,
        cancelledFirst, ModelRuns.trialsOf, countStatus]
    · rintro ⟨asked, same, positive⟩
      have either : parentRunId = "p" ∨ parentRunId = "q" := by
        simpa [page, waiting, requestedParents] using asked
      rcases either with rfl | rfl <;> cases status <;>
        simp_all [cancelledFirst, ModelRuns.trialsOf, countStatus]
  · intro agrees
    have unread : (getBulkHpoTrialSummaries [⟨"p", .cancelled, 1⟩, ⟨"q", .pending, 1⟩]).lookup "q" = none := by rfl
    have listed : (⟨"q", .pending, none⟩ : ListItem ℝ) ∈ handleListModels page.models
        [⟨"p", .cancelled, 1⟩, ⟨"q", .pending, 1⟩] := by
      refine List.mem_map.mpr ⟨.run waiting, by simp [page], ?_⟩
      simp only [waiting, ModelRun.listItem, unread]
    have stored : waiting ∈ cancelledFirst.runs := by simp [cancelledFirst, waiting]
    obtain ⟨detail, answered, pending⟩ := agrees.shown _ listed
    have running : cancelledFirst.statusOf waiting = .running := by rfl
    rw [← detail_status stored answered, pending] at running
    cases running

end TelemetryLab.Models
