import TelemetryLab.Analytics.TimeSeries

/-! The comparison of a chart with the period before it: `PreviousPeriodWindow` in
`time_resolution.h` and the second query of `HandleDatasetTimeSeries`.

The window ends where the chart starts, and the time filter of both queries is
closed at both ends.
-/

set_option autoImplicit false
namespace TelemetryLab.Analytics
open Server (Raised)
open Models

variable {R : Type}

/-- `ParseIsoTime` with the conversion to a point of time. -/
def parseIsoTimePoint (iso : String) : Except Overflow (Option Int) :=
  match parseIsoTime iso with
  | none => .ok none
  | some seconds => (fromTimeT seconds).map some

/-- `FormatIsoTime`, which drops the fraction of a second. -/
def formatTimePoint (nanoseconds : Int) : String := formatIsoTime (nanoseconds.tdiv 1000000000)

def previousPeriodWindow (startTime endTime : String) : Except Overflow (Option (String × String)) := do
  let start ← parseIsoTimePoint startTime
  let end_ ← parseIsoTimePoint endTime
  match start, end_ with
  | some start, some end_ =>
    if end_ ≤ start then .ok none
    else do
      let duration ← timePoint (end_ - start)
      let baselineStart ← timePoint (start - duration)
      .ok (some (formatTimePoint baselineStart, formatTimePoint start))
  | _, _ => .ok none

theorem parseIsoTimePoint_eq_some {iso : String} {t : Int} : parseIsoTimePoint iso = .ok (some t) ↔
    ∃ seconds, parseIsoTime iso = some seconds ∧ Representable (seconds * 1000000000) ∧ t = seconds * 1000000000 := by
  rw [parseIsoTimePoint]
  cases parseIsoTime iso with
  | none => simp
  | some seconds =>
    by_cases represented : Representable (seconds * 1000000000)
    · simp [fromTimeT, timePoint, represented, Except.map, eq_comm]
    · simp [fromTimeT, timePoint, represented, Except.map]

theorem parseIsoTimePoint_of_parsed {iso : String} {seconds : Int} (parsed : parseIsoTime iso = some seconds) :
    parseIsoTimePoint iso =
      if Representable (seconds * 1000000000) then .ok (some (seconds * 1000000000)) else .error .overflow := by
  rw [parseIsoTimePoint, parsed]
  simp only [fromTimeT, timePoint]
  split <;> rfl

theorem formatTimePoint_eq (seconds : Int) : formatTimePoint (seconds * 1000000000) = formatIsoTime seconds :=
  congrArg formatIsoTime (Int.mul_tdiv_cancel _ (by decide))

/-- What is answered for two times that are read: the clock decides which of them there are. -/
theorem previousPeriodWindow_of_parsed {startTime endTime : String} {start end_ : Int}
    (parsedStart : parseIsoTime startTime = some start) (parsedEnd : parseIsoTime endTime = some end_) :
    previousPeriodWindow startTime endTime =
      if Representable (start * 1000000000) ∧ Representable (end_ * 1000000000) then
        if end_ ≤ start then .ok none
        else if Representable ((start - (end_ - start)) * 1000000000) then
          .ok (some (formatIsoTime (start - (end_ - start)), formatIsoTime start))
        else .error .overflow
      else .error .overflow := by
  rw [previousPeriodWindow, parseIsoTimePoint_of_parsed parsedStart, parseIsoTimePoint_of_parsed parsedEnd]
  by_cases first : Representable (start * 1000000000)
  · by_cases last : Representable (end_ * 1000000000)
    · rw [if_pos first, if_pos last, if_pos ⟨first, last⟩]
      simp only [bind, Except.bind]
      by_cases early : end_ ≤ start
      · rw [if_pos early, if_pos (by omega)]
      · rw [if_neg early, if_neg (by omega)]
        have scaled : start * 1000000000 - (end_ * 1000000000 - start * 1000000000) =
            (start - (end_ - start)) * 1000000000 := by omega
        by_cases baseline : Representable ((start - (end_ - start)) * 1000000000)
        · -- a duration that reaches from one point to the next one fits as well
          have duration : Representable (end_ * 1000000000 - start * 1000000000) := by
            unfold Representable at *
            omega
          rw [if_pos baseline, timePoint, if_pos duration]
          dsimp only
          rw [scaled, timePoint, if_pos baseline]
          dsimp only
          rw [formatTimePoint_eq, formatTimePoint_eq]
        · rw [if_neg baseline, timePoint]
          by_cases duration : Representable (end_ * 1000000000 - start * 1000000000)
          · rw [if_pos duration]
            dsimp only
            rw [scaled, timePoint, if_neg baseline]
          · rw [if_neg duration]
    · have neither : ¬ (Representable (start * 1000000000) ∧ Representable (end_ * 1000000000)) := fun both => last both.2
      rw [if_neg neither, if_neg last, if_pos first]
      rfl
  · have neither : ¬ (Representable (start * 1000000000) ∧ Representable (end_ * 1000000000)) := fun both => first both.1
    rw [if_neg neither, if_neg first]
    rfl

theorem previousPeriodWindow_of_none {startTime endTime : String}
    (unread : parseIsoTime startTime = none ∨ parseIsoTime endTime = none)
    (first : ∀ t, parseIsoTime startTime = some t → Representable (t * 1000000000))
    (last : ∀ t, parseIsoTime endTime = some t → Representable (t * 1000000000)) :
    previousPeriodWindow startTime endTime = .ok none := by
  cases parsedStart : parseIsoTime startTime with
  | none =>
    cases parsedEnd : parseIsoTime endTime with
    | none => simp [previousPeriodWindow, parseIsoTimePoint, parsedStart, parsedEnd, bind, Except.bind]
    | some end_ =>
      rw [previousPeriodWindow, parseIsoTimePoint_of_parsed parsedEnd, if_pos (last end_ parsedEnd), parseIsoTimePoint,
        parsedStart]
      rfl
  | some start =>
    have parsedEnd : parseIsoTime endTime = none := by simpa [parsedStart] using unread
    rw [previousPeriodWindow, parseIsoTimePoint_of_parsed parsedStart, if_pos (first start parsedStart),
      parseIsoTimePoint, parsedEnd]
    rfl

/-- The window has the length of the chart and ends at its start. -/
theorem previousPeriodWindow_eq_some {startTime endTime baselineStart baselineEnd : String}
    (accepted : previousPeriodWindow startTime endTime = .ok (some (baselineStart, baselineEnd))) :
    ∃ start end_, parseIsoTime startTime = some start ∧ parseIsoTime endTime = some end_ ∧ start < end_ ∧
      Representable (start * 1000000000) ∧ Representable ((start - (end_ - start)) * 1000000000) ∧
      baselineStart = formatIsoTime (start - (end_ - start)) ∧ baselineEnd = formatIsoTime start := by
  obtain ⟨start, readStart, read⟩ := Pca.bind_eq_ok accepted
  obtain ⟨end_, readEnd, read⟩ := Pca.bind_eq_ok read
  cases start with
  | none => cases read
  | some start =>
    cases end_ with
    | none => cases read
    | some end_ =>
      obtain ⟨startSeconds, parsedStart, first, rfl⟩ := parseIsoTimePoint_eq_some.mp readStart
      obtain ⟨endSeconds, parsedEnd, last, rfl⟩ := parseIsoTimePoint_eq_some.mp readEnd
      rw [previousPeriodWindow_of_parsed parsedStart parsedEnd, if_pos ⟨first, last⟩] at accepted
      split at accepted
      next => cases accepted
      next later =>
        split at accepted
        next inside =>
          cases accepted
          exact ⟨startSeconds, endSeconds, parsedStart, parsedEnd, by omega, first, inside, rfl, rfl⟩
        next => cases accepted

/-! ## The arithmetic of the window -/

/-- The window ends where the chart starts, and is as long as the chart. -/
def Precedes (startTime endTime : String) (window : String × String) : Prop :=
  window.2 = startTime ∧ ∃ baseline start end_, parseIsoTimePoint window.1 = .ok (some baseline) ∧
    parseIsoTimePoint startTime = .ok (some start) ∧ parseIsoTimePoint endTime = .ok (some end_) ∧
    baseline < start ∧ start - baseline = end_ - start

/-- A point of time in years that are written with four digits. -/
def YearWithin (first : Int) (seconds : Int) : Prop := first ≤ (gmtime seconds).year ∧ (gmtime seconds).year ≤ 9999

instance (first seconds : Int) : Decidable (YearWithin first seconds) := inferInstanceAs (Decidable (_ ∧ _))

theorem parseIsoTimePoint_formatTimePoint {seconds : Int} (represented : Representable (seconds * 1000000000)) :
    parseIsoTimePoint (formatTimePoint (seconds * 1000000000)) = .ok (some (seconds * 1000000000)) := by
  have read := parseIsoTime_formatIsoTime (year_of_representable represented)
  rw [formatTimePoint_eq, parseIsoTimePoint_of_parsed read, if_pos represented]

/-- The window of two times in canonical form is the period before them if and only if the clock
has the two times and the start of the window. -/
theorem exists_precedes_iff {start end_ : Int} (startYear : YearWithin 0 start) (endYear : YearWithin 0 end_)
    (before : start < end_) :
    (∃ window, previousPeriodWindow (formatIsoTime start) (formatIsoTime end_) = .ok (some window) ∧
        Precedes (formatIsoTime start) (formatIsoTime end_) window) ↔
      Representable (start * 1000000000) ∧ Representable (end_ * 1000000000) ∧
        Representable ((start - (end_ - start)) * 1000000000) := by
  have readStart := parseIsoTime_formatIsoTime startYear
  have readEnd := parseIsoTime_formatIsoTime endYear
  rw [previousPeriodWindow_of_parsed readStart readEnd, if_neg (not_le.mpr before)]
  constructor
  · rintro ⟨window, accepted, -⟩
    split at accepted
    next both =>
      split at accepted
      next inside => exact ⟨both.1, both.2, inside⟩
      next => cases accepted
    next => cases accepted
  · rintro ⟨first, last, inside⟩
    rw [if_pos ⟨first, last⟩, if_pos inside]
    have readBaseline := parseIsoTimePoint_formatTimePoint inside
    rw [formatTimePoint_eq] at readBaseline
    refine ⟨_, rfl, rfl, (start - (end_ - start)) * 1000000000, start * 1000000000, end_ * 1000000000, readBaseline,
      ?_, ?_, ?_, ?_⟩
    · rw [parseIsoTimePoint_of_parsed readStart, if_pos first]
    · rw [parseIsoTimePoint_of_parsed readEnd, if_pos last]
    · omega
    · omega

/-- There is no window if and only if one of the two is not read or the end is not later. -/
theorem previousPeriodWindow_none_iff {startTime endTime : String}
    (first : ∀ t, parseIsoTime startTime = some t → Representable (t * 1000000000))
    (last : ∀ t, parseIsoTime endTime = some t → Representable (t * 1000000000)) :
    previousPeriodWindow startTime endTime = .ok none ↔ parseIsoTime startTime = none ∨ parseIsoTime endTime = none ∨
      ∃ start end_, parseIsoTime startTime = some start ∧ parseIsoTime endTime = some end_ ∧ end_ ≤ start := by
  cases readStart : parseIsoTime startTime with
  | none => simpa using previousPeriodWindow_of_none (.inl readStart) first last
  | some start =>
    cases readEnd : parseIsoTime endTime with
    | none => simpa using previousPeriodWindow_of_none (.inr readEnd) first last
    | some end_ =>
      rw [previousPeriodWindow_of_parsed readStart readEnd, if_pos ⟨first start readStart, last end_ readEnd⟩]
      by_cases early : end_ ≤ start
      · simp [early]
      · rw [if_neg early]
        split <;> simp [early]

/-- Whole seconds are read back as they are written, and the window before two times is as long as
the time between them, as far as the nanoseconds of the clock reach. -/
theorem previous_period_arithmetic :
    (∀ seconds, YearWithin 1000 seconds → parseIsoTime (formatIsoTime seconds) = some seconds) ∧
    (∀ seconds, Representable (seconds * 1000000000) →
      parseIsoTimePoint (formatTimePoint (seconds * 1000000000)) = .ok (some (seconds * 1000000000))) ∧
    (∀ start end_, YearWithin 0 start → YearWithin 0 end_ → start < end_ →
      ((∃ window, previousPeriodWindow (formatIsoTime start) (formatIsoTime end_) = .ok (some window) ∧
          Precedes (formatIsoTime start) (formatIsoTime end_) window) ↔
        Representable (start * 1000000000) ∧ Representable (end_ * 1000000000) ∧
          Representable ((start - (end_ - start)) * 1000000000))) ∧
    ∀ startTime endTime, (∀ t, parseIsoTime startTime = some t → Representable (t * 1000000000)) →
      (∀ t, parseIsoTime endTime = some t → Representable (t * 1000000000)) →
      (previousPeriodWindow startTime endTime = .ok none ↔
        parseIsoTime startTime = none ∨ parseIsoTime endTime = none ∨
          ∃ start end_, parseIsoTime startTime = some start ∧ parseIsoTime endTime = some end_ ∧ end_ ≤ start) := by
  refine ⟨fun seconds years => ?_, fun seconds => parseIsoTimePoint_formatTimePoint,
    fun start end_ => exists_precedes_iff, fun startTime endTime => previousPeriodWindow_none_iff⟩
  have low := years.1
  exact parseIsoTime_formatIsoTime ⟨by omega, years.2⟩

/-- The day before a day in February. -/
theorem previous_period_february :
    ∃ window, previousPeriodWindow (formatIsoTime 1770076800) (formatIsoTime 1770163200) = .ok (some window) ∧
      Precedes (formatIsoTime 1770076800) (formatIsoTime 1770163200) window :=
  (previous_period_arithmetic.2.2.1 1770076800 1770163200 (by decide +kernel) (by decide +kernel) (by decide)).mpr
    (by decide +kernel)

/-- In the year 1500 the conversion of a time leaves the clock. -/
theorem no_window_in_1500 : ¬ ∀ start end_, YearWithin 1000 start → YearWithin 1000 end_ →
    YearWithin 1000 (start - (end_ - start)) → start < end_ →
    ∃ window, previousPeriodWindow (formatIsoTime start) (formatIsoTime end_) = .ok (some window) ∧
      Precedes (formatIsoTime start) (formatIsoTime end_) window := by
  intro all
  obtain ⟨window, accepted, -⟩ := all (-14831683200) (-14831596800) (by decide +kernel) (by decide +kernel)
    (by decide +kernel) (by decide)
  have overflown : previousPeriodWindow (formatIsoTime (-14831683200)) (formatIsoTime (-14831596800)) =
      .error .overflow := by decide +kernel
  rw [overflown] at accepted
  cases accepted

/-! ## Records in both windows -/

/-- The records that a query selects; none when it fails. -/
def selected (text : TimestampText) (rows : List (ArchivedRow R)) (runId : String) (filters : Filters) :
    List (ArchivedRow R) :=
  match selectRows text rows runId filters with
  | .ok matched => matched
  | .error _ => []

/-- The chart and the window before it share no record. -/
def PeriodsDisjoint (text : TimestampText) (rows : List (ArchivedRow R)) (runId : String) (filters : Filters)
    (baseline : String × String) : Prop :=
  (selected text rows runId filters).Disjoint
    (selected text rows runId { filters with startTime := baseline.1, endTime := baseline.2 })

/-- A time in both windows, with the bounds of the chart as the server reads them and
those of the window before it as `PreviousPeriodWindow` computes them. -/
def Shared (text : TimestampText) (filters : Filters) (start end_ t : Int) : Prop :=
  ∃ lower upper, text.parse filters.startTime = some lower ∧ text.parse filters.endTime = some upper ∧
    (lower ≤ t ∧ t ≤ upper) ∧ (start - (end_ - start)) * 1000000 ≤ t ∧ t ≤ start * 1000000

section
variable {text : TimestampText} {rows : List (ArchivedRow R)} {runId : String} {filters : Filters}

theorem mem_selected_of_parse {row : ArchivedRow R} {start end_ : Int}
    (started : text.parse filters.startTime = some start) (ended : text.parse filters.endTime = some end_) :
    row ∈ selected text rows runId filters ↔
      row ∈ rows ∧ filters.selects runId row = true ∧ start ≤ row.metricTimestamp ∧ row.metricTimestamp ≤ end_ := by
  rw [selected, selectRows_bounded started ended]
  simp [within]

theorem mem_selected_iff {row : ArchivedRow R} (started : filters.startTime ≠ "") (ended : filters.endTime ≠ "") :
    row ∈ selected text rows runId filters ↔ row ∈ rows ∧ filters.selects runId row = true ∧
      ∃ lower upper, text.parse filters.startTime = some lower ∧ text.parse filters.endTime = some upper ∧
        lower ≤ row.metricTimestamp ∧ row.metricTimestamp ≤ upper := by
  cases lower : text.parse filters.startTime with
  | none => simp [selected, selectRows, timeBound, started, lower, bind, Except.bind]
  | some start =>
    cases upper : text.parse filters.endTime with
    | none => simp [selected, selectRows, timeBound, started, ended, lower, upper, bind, Except.bind]
    | some end_ =>
      rw [mem_selected_of_parse lower upper]
      simp

/-- Where the server reads the times as `ParseIsoTime` does, the windows share the start only. -/
theorem shared_iff {start end_ t : Int} (later : start < end_)
    (readStart : text.parse filters.startTime = some (start * 1000000))
    (readEnd : text.parse filters.endTime = some (end_ * 1000000)) :
    Shared text filters start end_ t ↔ t = start * 1000000 := by
  constructor
  · rintro ⟨lower, upper, readLower, -, ⟨inside, -⟩, -, before⟩
    cases readStart.symm.trans readLower
    exact le_antisymm before inside
  · rintro rfl
    exact ⟨_, _, readStart, readEnd, ⟨le_rfl, by omega⟩, by omega, le_rfl⟩

/-- The chart and the window before it are disjoint if and only if no record lies in both;
where the server reads the times as `ParseIsoTime` does, only the start itself does. -/
theorem periods_disjoint_iff (rows : List (ArchivedRow R)) (runId : String) {baseline : String × String}
    {start end_ : Int}
    (accepted : previousPeriodWindow filters.startTime filters.endTime = .ok (some baseline))
    (parsedStart : parseIsoTime filters.startTime = some start) (parsedEnd : parseIsoTime filters.endTime = some end_)
    (written : ∀ seconds, Representable (seconds * 1000000000) →
      text.parse (formatIsoTime seconds) = some (seconds * 1000000)) :
    (PeriodsDisjoint text rows runId filters baseline ↔
      ∀ row ∈ rows, filters.selects runId row = true → ¬ Shared text filters start end_ row.metricTimestamp) ∧
    (text.parse filters.startTime = some (start * 1000000) → text.parse filters.endTime = some (end_ * 1000000) →
      ∀ t, Shared text filters start end_ t ↔ t = start * 1000000) := by
  obtain ⟨baselineStart, baselineEnd⟩ := baseline
  obtain ⟨start', end', parsedStart', parsedEnd', later, first, last, rfl, rfl⟩ := previousPeriodWindow_eq_some accepted
  cases parsedStart.symm.trans parsedStart'
  cases parsedEnd.symm.trans parsedEnd'
  have notEmpty : ∀ {value : String} {seconds : Int}, parseIsoTime value = some seconds → value ≠ "" := by
    rintro _ seconds parsed rfl
    cases parsed
  constructor
  · have chart := @mem_selected_iff _ text rows runId filters
    have window := @mem_selected_of_parse _ text rows runId
      { filters with
        startTime := formatIsoTime (start - (end_ - start)), endTime := formatIsoTime start }
    constructor
    · intro disjoint row stored chosen ⟨lower, upper, readLower, readUpper, inside, after, before⟩
      have charted := (chart (notEmpty parsedStart) (notEmpty parsedEnd)).mpr
        ⟨stored, chosen, lower, upper, readLower, readUpper, inside⟩
      exact disjoint charted ((window (written _ last) (written _ first)).mpr ⟨stored, chosen, after, before⟩)
    · intro apart row charted compared
      obtain ⟨stored, chosen, lower, upper, readLower, readUpper, inside⟩ :=
        (chart (notEmpty parsedStart) (notEmpty parsedEnd)).mp charted
      obtain ⟨-, -, after, before⟩ := (window (written _ last) (written _ first)).mp compared
      exact apart row stored chosen ⟨lower, upper, readLower, readUpper, inside, after, before⟩
  · intro readStart readEnd t
    exact shared_iff later readStart readEnd

end

/-! ## A record at the start -/

theorem isoText_written (seconds : Int) (represented : Representable (seconds * 1000000000)) :
    isoText.parse (formatIsoTime seconds) = some (seconds * 1000000) := by
  change (parseIsoTime (formatIsoTime seconds)).map _ = _
  rw [parseIsoTime_formatIsoTime (year_of_representable represented), Option.map_some]

/-- The first hour of 2026. -/
def firstHour : Filters := { startTime := "2026-01-01T00:00:00Z", endTime := "2026-01-01T01:00:00Z" }

theorem firstHour_accepted : previousPeriodWindow firstHour.startTime firstHour.endTime =
    .ok (some ("2025-12-31T23:00:00Z", "2026-01-01T00:00:00Z")) := by
  decide +kernel

/-- Three records after the start of 2026, and one before it. -/
def aroundMidnight : List (ArchivedRow Int) := [recordAt 2 30, recordAt 3 45, recordAt 4 1200, recordAt 5 (-1800)]

theorem periods_disjoint_after_start :
    PeriodsDisjoint isoText aroundMidnight "d" firstHour ("2025-12-31T23:00:00Z", "2026-01-01T00:00:00Z") := by
  have parsedStart : parseIsoTime firstHour.startTime = some 1767225600 := by decide +kernel
  have parsedEnd : parseIsoTime firstHour.endTime = some 1767229200 := by decide +kernel
  obtain ⟨disjoint, shared⟩ := periods_disjoint_iff aroundMidnight "d" firstHour_accepted
    parsedStart parsedEnd isoText_written
  have readStart : isoText.parse firstHour.startTime = some (1767225600 * 1000000) := by decide +kernel
  have readEnd : isoText.parse firstHour.endTime = some (1767229200 * 1000000) := by decide +kernel
  refine disjoint.mpr fun row stored _ both => ?_
  rw [shared readStart readEnd] at both
  revert row
  decide

theorem record_in_both_periods : ¬ ∀ (text : TimestampText) (rows : List (ArchivedRow Int)) (runId : String)
    (filters : Filters) (baseline : String × String),
    previousPeriodWindow filters.startTime filters.endTime = .ok (some baseline) →
    (∀ seconds, Representable (seconds * 1000000000) →
      text.parse (formatIsoTime seconds) = some (seconds * 1000000)) →
    PeriodsDisjoint text rows runId filters baseline := by
  intro disjoint
  have apart := disjoint isoText [recordAt 1 0] "d" firstHour _ firstHour_accepted isoText_written
  have started : isoText.parse "2026-01-01T00:00:00Z" = some 1767225600000000 := by decide +kernel
  have ended : isoText.parse "2026-01-01T01:00:00Z" = some 1767229200000000 := by decide +kernel
  have earlier : isoText.parse "2025-12-31T23:00:00Z" = some 1767222000000000 := by decide +kernel
  have charted : recordAt 1 0 ∈ selected isoText [recordAt 1 0] "d" firstHour :=
    (mem_selected_of_parse started ended).mpr ⟨List.mem_singleton_self _, by decide, by decide, by decide⟩
  have compared : recordAt 1 0 ∈ selected isoText [recordAt 1 0] "d"
      { firstHour with startTime := "2025-12-31T23:00:00Z", endTime := "2026-01-01T00:00:00Z" } :=
    (mem_selected_of_parse earlier started).mpr ⟨List.mem_singleton_self _, by decide, by decide, by decide⟩
  exact apart charted compared

end TelemetryLab.Analytics
