import Mathlib.Data.Prod.Lex
import TelemetryLab.Models.Summaries
import TelemetryLab.Models.Timestamps

/-! The scan of `HandleGetModelDetail` for the best trial.

It takes the first candidate and then each that is lower in threshold, completion
time and index, compared in this order.
-/

set_option autoImplicit false
namespace TelemetryLab.Models
open Jobs

/-- A trial the scan considers. -/
def Trial.candidate (trial : Trial ℝ) : Prop := trial.status = .completed ∧ trial.isEligible = true

/-- What the scan compares. -/
abbrev Key : Type := ℝ ×ₗ String ×ₗ Int

def Trial.key (trial : Trial ℝ) : Option Key :=
  trial.selectionMetricValue.map fun value => toLex (value, toLex (trial.completedAt, trial.trialIndex))

def Best.key (best : Best ℝ) : Key := toLex (best.minThreshold, toLex (best.bestCompletedAt, best.bestTrialIndex))

/-- The choice is a least candidate, if there is one. -/
structure Best.Chosen (best : Best ℝ) (seen : List (Trial ℝ)) : Prop where
  nothing : best.bestId = "" ↔ ∀ trial ∈ seen, ¬ trial.candidate
  untouched : best.bestId = "" → best = .none
  attained : best.bestId ≠ "" → ∃ trial ∈ seen, trial.candidate ∧ trial.modelRunId = best.bestId ∧
    trial.key = some best.key
  least : ∀ trial ∈ seen, trial.candidate → ∀ key, trial.key = some key → best.key ≤ key

section Scan

variable {best next : Best ℝ} {threshold : ℝ} {completedAt : String} {trialIndex : Int} {seen : List (Trial ℝ)}
  {trial : Trial ℝ}

theorem Best.improvedBy_iff : best.improvedBy threshold completedAt trialIndex = true ↔
    best.bestId = "" ∨ toLex (threshold, toLex (completedAt, trialIndex)) < best.key := by
  have equal : (threshold == best.minThreshold) = true ↔ threshold = best.minThreshold := by
    change decide (threshold = best.minThreshold) = true ↔ _
    exact decide_eq_true_iff
  rw [Best.key, Prod.Lex.toLex_lt_toLex, Prod.Lex.toLex_lt_toLex]
  simp only [Best.improvedBy, equal, String.isEmpty_iff]
  split
  next first => exact iff_of_true rfl (first.imp_right .inl)
  next later =>
    push Not at later
    simp only [later.1, later.2.not_gt, false_or]
    split
    next same =>
      split
      next earlier => simp [same, earlier]
      next notEarlier =>
        split
        next tied => simp [same, tied]
        next => simp_all
    next other => simp [other]

theorem Best.chosen_none : (Best.none : Best ℝ).Chosen [] where
  nothing := by simp [Best.none]
  untouched := fun _ => rfl
  attained := by simp [Best.none]
  least := by simp

/-- A trial that is passed over changes nothing. -/
theorem Best.Chosen.skip (now : best.Chosen seen) (passed : ¬ trial.candidate) : best.Chosen (seen ++ [trial]) where
  nothing := by
    rw [now.nothing, List.forall_mem_append]
    simp [passed]
  untouched := now.untouched
  attained := by
    intro found
    obtain ⟨other, member, holds⟩ := now.attained found
    exact ⟨other, List.mem_append_left _ member, holds⟩
  least := by
    rw [List.forall_mem_append]
    exact ⟨now.least, by simp [passed]⟩

theorem Best.Chosen.keep (now : best.Chosen seen) (found : best.bestId ≠ "")
    (above : ∀ key, trial.key = some key → best.key ≤ key) : best.Chosen (seen ++ [trial]) where
  nothing := by
    obtain ⟨other, member, candidate, -⟩ := now.attained found
    exact iff_of_false found fun none => none other (List.mem_append_left _ member) candidate
  untouched := fun empty => absurd empty found
  attained := by
    intro _
    obtain ⟨other, member, holds⟩ := now.attained found
    exact ⟨other, List.mem_append_left _ member, holds⟩
  least := by
    rw [List.forall_mem_append]
    exact ⟨now.least, by simpa using fun _ => above⟩

theorem Best.Chosen.take (now : best.Chosen seen) (candidate : trial.candidate) (named : trial.modelRunId ≠ "")
    (same : trial.modelRunId = next.bestId) (metric : trial.key = some next.key)
    (below : best.bestId = "" ∨ next.key ≤ best.key) : next.Chosen (seen ++ [trial]) where
  nothing := iff_of_false (same ▸ named) fun none => none trial (by simp) candidate
  untouched := fun empty => absurd empty (same ▸ named)
  attained := by
    intro _
    exact ⟨trial, by simp, candidate, same, metric⟩
  least := by
    rw [List.forall_mem_append]
    constructor
    · intro other member good key read
      rcases below with empty | lower
      · exact absurd good (now.nothing.mp empty other member)
      · exact lower.trans (now.least other member good key read)
    · intro other member _ key read
      rw [List.mem_singleton.mp member, metric] at read
      exact (Option.some.inj read).le

theorem Best.Chosen.consider (now : best.Chosen seen) (named : trial.candidate → trial.modelRunId ≠ "")
    (considered : best.consider trial = .ok next) : next.Chosen (seen ++ [trial]) := by
  by_cases candidate : trial.candidate
  case neg =>
    have passed : ¬ (trial.status = .completed ∧ trial.isEligible = true) := candidate
    rw [Best.consider, if_neg passed] at considered
    exact Except.ok.inj considered ▸ now.skip candidate
  case pos =>
    have eligible : trial.status = .completed ∧ trial.isEligible = true := candidate
    rw [Best.consider, if_pos eligible] at considered
    cases metric : trial.selectionMetricValue with
    | none => simp [metric] at considered
    | some threshold =>
      have key : trial.key = some (toLex (threshold, toLex (trial.completedAt, trial.trialIndex))) := by
        rw [Trial.key, metric, Option.map_some]
      simp only [metric, Except.ok.injEq] at considered
      split at considered
      next improved =>
        subst considered
        refine now.take candidate (named candidate) rfl key ?_
        exact (Best.improvedBy_iff.mp improved).imp_right le_of_lt
      next kept =>
        subst considered
        rw [Best.improvedBy_iff, not_or, not_lt] at kept
        refine now.keep kept.1 fun other read => ?_
        exact Option.some.inj (key.symm.trans read) ▸ kept.2

theorem foldlM_chosen {trials : List (Trial ℝ)} (named : ∀ trial ∈ trials, trial.candidate → trial.modelRunId ≠ "")
    (now : best.Chosen seen) (scanned : trials.foldlM Best.consider best = .ok next) : next.Chosen (seen ++ trials) := by
  induction trials generalizing best seen with
  | nil =>
    cases scanned
    simpa using now
  | cons trial rest ih =>
    rw [List.foldlM_cons] at scanned
    cases considered : best.consider trial with
    | error answer => simp [considered, bind, Except.bind] at scanned
    | ok middle =>
      rw [considered] at scanned
      have later := ih (fun other member => named other (List.mem_cons_of_mem trial member))
        (now.consider (named trial List.mem_cons_self) considered) scanned
      simpa using later

/-- The scan finds a least candidate. -/
theorem selectBest_chosen {trials : List (Trial ℝ)}
    (named : ∀ trial ∈ trials, trial.candidate → trial.modelRunId ≠ "") (selected : selectBest trials = .ok best) :
    best.Chosen trials :=
  foldlM_chosen named Best.chosen_none selected

theorem Best.key_injective {one two : Best ℝ} (same : one.bestId = two.bestId) (keys : one.key = two.key) :
    one = two := by
  cases one
  cases two
  simp_all [Best.key, Prod.ext_iff]

/-- The order of the trials does not matter if no two candidates are equal in the key. -/
theorem Best.Chosen.unique {one two : Best ℝ} {trials shuffled : List (Trial ℝ)} (first : one.Chosen trials)
    (second : two.Chosen shuffled) (perm : shuffled.Perm trials)
    (distinct : Set.InjOn Trial.key {trial | trial ∈ trials ∧ trial.candidate}) : two = one := by
  have members : ∀ trial, trial ∈ shuffled ↔ trial ∈ trials := fun trial => perm.mem_iff
  by_cases nothing : one.bestId = ""
  · have none : two.bestId = "" := by
      rw [second.nothing]
      simpa [members] using first.nothing.mp nothing
    rw [first.untouched nothing, second.untouched none]
  · have found : two.bestId ≠ "" := by
      intro none
      apply nothing
      rw [first.nothing]
      simpa [members] using second.nothing.mp none
    obtain ⟨trial, member, candidate, named, key⟩ := first.attained nothing
    obtain ⟨rival, inside, good, called, read⟩ := second.attained found
    have keys : two.key = one.key := by
      apply le_antisymm
      · exact second.least trial ((members trial).mpr member) candidate _ key
      · exact first.least rival ((members rival).mp inside) good _ read
    have same : rival = trial := distinct ⟨(members rival).mp inside, good⟩ ⟨member, candidate⟩ (by rw [key, read, keys])
    exact Best.key_injective (by rw [← called, ← named, same]) keys

theorem aggregated_best {run : ModelRun ℝ} {trials : List (Trial ℝ)} (selected : selectBest trials = .ok best) :
    ∃ detail aggregates, run.aggregated trials = .ok detail ∧ detail.aggregates = some aggregates ∧
      aggregates.best = best := by
  simp [ModelRun.aggregated, selected, bind, Except.bind, pure, Except.pure]

/-- The detail of a run shows the choice among its trials. -/
theorem aggregated_chosen (run : ModelRun ℝ) {trials : List (Trial ℝ)}
    (usable : ∀ trial ∈ trials, trial.candidate → trial.selectionMetricValue.isSome ∧ trial.modelRunId ≠ "") :
    ∃ detail aggregates, run.aggregated trials = .ok detail ∧ detail.aggregates = some aggregates ∧
      aggregates.best.Chosen trials := by
  have measured : ∀ trial ∈ trials, trial.status = .completed → trial.isEligible →
      trial.selectionMetricValue.isSome := fun trial member completed eligible =>
    (usable trial member ⟨completed, eligible⟩).1
  obtain ⟨best, selected⟩ := (consider_all trials .none).mpr measured
  obtain ⟨detail, aggregates, answered, shown, rfl⟩ := aggregated_best selected
  exact ⟨detail, aggregates, answered, shown,
    selectBest_chosen (fun trial member candidate => (usable trial member candidate).2) selected⟩

end Scan

/-- The choice is a least candidate in threshold, completion text and index, in
every order of the trials; and in the years of four digits the completion texts
of one offset are in the order of time. -/
theorem best_trial_lexicographic :
    (∀ (run : ModelRun ℝ) (trials : List (Trial ℝ)),
      (∀ trial ∈ trials, trial.candidate → trial.selectionMetricValue.isSome ∧ trial.modelRunId ≠ "") →
      ∃ detail aggregates, run.aggregated trials = .ok detail ∧ detail.aggregates = some aggregates ∧
        aggregates.best.Chosen trials ∧
        (Set.InjOn Trial.key {trial | trial ∈ trials ∧ trial.candidate} → ∀ shuffled, shuffled.Perm trials →
          ∃ other others, run.aggregated shuffled = .ok other ∧ other.aggregates = some others ∧
            others.best = aggregates.best)) ∧
    ∀ (offset : Int) (a b : Timestamp), 1 ≤ a.year ∧ a.year ≤ 9999 → 1 ≤ b.year ∧ b.year ≤ 9999 →
      (a.text offset < b.text offset ↔ a.instant offset < b.instant offset) := by
  constructor
  · intro run trials usable
    obtain ⟨detail, aggregates, answered, shown, chosen⟩ := aggregated_chosen run usable
    refine ⟨detail, aggregates, answered, shown, chosen, ?_⟩
    intro distinct shuffled perm
    obtain ⟨other, others, again, listed, second⟩ :=
      aggregated_chosen run fun trial member => usable trial (perm.subset member)
    exact ⟨other, others, again, listed, chosen.unique second perm distinct⟩
  · intro offset a b first second
    exact Timestamp.text_lt_iff offset first second

/-- The last second of a year of four digits. -/
def lastSecond : Timestamp where
  year := 9999
  month := 12
  day := 31
  hour := 23
  minute := 59
  second := 59
  microsecond := 0
  monthBounds := by decide
  dayBounds := by decide
  hourBound := by decide
  minuteBound := by decide
  secondBound := by decide
  microsecondBound := by decide

/-- Midnight of a first of January. -/
def newYear (year : Int) : Timestamp where
  year := year
  month := 1
  day := 1
  hour := 0
  minute := 0
  second := 0
  microsecond := 0
  monthBounds := by decide
  dayBounds := ⟨le_rfl, by simp [daysIn]⟩
  hourBound := by decide
  minuteBound := by decide
  secondBound := by decide
  microsecondBound := by decide

/-- The text of the year 10000 is below that of the year before, and a text of the
year 2 BC above that of the year after. -/
theorem long_years_out_of_order :
    ¬ (∀ (offset : Int) (a b : Timestamp), a.text offset < b.text offset ↔ a.instant offset < b.instant offset) ∧
    lastSecond.text 0 = "9999-12-31 23:59:59+00" ∧ (newYear 10000).text 0 = "10000-01-01 00:00:00+00" ∧
    (newYear (-1)).text 0 = "0002-01-01 00:00:00+00 BC" ∧ (newYear 0).text 0 = "0001-01-01 00:00:00+00 BC" ∧
    ¬ (lastSecond.text 0 < (newYear 10000).text 0) ∧ lastSecond.instant 0 < (newYear 10000).instant 0 ∧
    ¬ ((newYear (-1)).text 0 < (newYear 0).text 0) ∧ (newYear (-1)).instant 0 < (newYear 0).instant 0 := by
  have long : ¬ (lastSecond.text 0 < (newYear 10000).text 0) ∧ lastSecond.instant 0 < (newYear 10000).instant 0 := by
    decide
  refine ⟨fun all => long.1 ((all 0 lastSecond (newYear 10000)).mpr long.2), by decide, by decide, by decide,
    by decide, long.1, long.2, by decide, by decide⟩

/-- Two trials of equal threshold and completion text. -/
def tiedTrials : List (Trial ℝ) :=
  [⟨"t", "p", .completed, 1, "2024-05-01 10:00:00.5+00", "", true, some 1, none⟩,
    ⟨"u", "p", .completed, 0, "2024-05-01 10:00:00.5+00", "", true, some 1, none⟩]

theorem best_trial_lexicographic_tied : ∃ detail aggregates other others,
    (⟨"p", .running, true, none, none⟩ : ModelRun ℝ).aggregated tiedTrials = .ok detail ∧
      detail.aggregates = some aggregates ∧ aggregates.best.Chosen tiedTrials ∧
      (⟨"p", .running, true, none, none⟩ : ModelRun ℝ).aggregated tiedTrials.reverse = .ok other ∧
      other.aggregates = some others ∧ others.best = aggregates.best ∧
      ((newYear 1999).text 0 < (newYear 2000).text 0 ↔ (newYear 1999).instant 0 < (newYear 2000).instant 0) := by
  have usable : ∀ trial ∈ tiedTrials, trial.candidate → trial.selectionMetricValue.isSome ∧ trial.modelRunId ≠ "" := by
    simp [tiedTrials]
  have distinct : Set.InjOn Trial.key {trial | trial ∈ tiedTrials ∧ trial.candidate} := by
    rintro one ⟨first, -⟩ two ⟨second, -⟩ same
    simp only [tiedTrials, List.mem_cons, List.not_mem_nil, or_false] at first second
    rcases first with rfl | rfl <;> rcases second with rfl | rfl <;> simp_all [Trial.key]
  obtain ⟨detail, aggregates, answered, shown, chosen, anyOrder⟩ := best_trial_lexicographic.1
    ⟨"p", .running, true, none, none⟩ tiedTrials usable
  obtain ⟨other, others, again, listed, same⟩ := anyOrder distinct tiedTrials.reverse (List.reverse_perm tiedTrials)
  exact ⟨detail, aggregates, other, others, answered, shown, chosen, again, listed, same,
    best_trial_lexicographic.2 0 (newYear 1999) (newYear 2000) (by decide) (by decide)⟩

end TelemetryLab.Models
