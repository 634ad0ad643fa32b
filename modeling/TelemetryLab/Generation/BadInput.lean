import TelemetryLab.Generation.Conservation
import TelemetryLab.Models.CalendarTime

/-! What a run reports when the times of its request cannot be read or its row
could not be created.

`ParseTime` answers some time for every text and `CreateRun` keeps its failure to
itself, so the loop over time is the only thing that the texts decide.
-/

set_option autoImplicit false
namespace TelemetryLab.Generation
open Transition Models

/-- The request with its times as texts. -/
structure TextRequest where
  hostCount : Int
  startTimeIso : String
  endTimeIso : String
  intervalSeconds : Int
  requestId : String
  deriving DecidableEq, Repr

def TextRequest.parsed (request : TextRequest) : GenerateRequest :=
  ⟨request.hostCount, parseTime request.startTimeIso, parseTime request.endTimeIso, request.intervalSeconds,
    request.requestId⟩

/-- A text of the form that `ParseTime` expects. -/
def MatchesIso (iso : String) : Prop :=
  ∃ time : Timestamp, (0 ≤ time.year ∧ time.year ≤ 9999) ∧ iso = .ofList (putTime time ++ ['Z'])

/-- A computation on points of time that comes next leaves the range of the clock. -/
def Overflows (request : GenerateRequest) (g : Generator) : Prop :=
  match g.pc with
  | .tick => ¬ (Representable (request.startTime * 1000000000) ∧ Representable (request.endTime * 1000000000))
  | .hosts i => i = request.hosts ∧ ¬ Representable ((g.t + request.duration) * 1000000000)
  | _ => False

/-- A run with this outcome of `CreateRun` never asks for the status `SUCCEEDED`. A run whose
times leave the 64-bit clock counts as one that fails this, since it promises nothing. -/
def NeverSucceeds (request : GenerateRequest) (maxQueueSize : Nat) (created : Bool) : Prop :=
  ∀ schedule g, exec (step request maxQueueSize) .init (.produce created :: schedule) = some g →
    ¬ Overflows request g ∧ ∀ label insertedRows error next,
      act request maxQueueSize g label ≠ some (.updateRunStatus .succeeded insertedRows error, next)

/-- No cancellation is asked for and the writer waits for work. -/
structure Idle (g : Generator) : Prop where
  unflagged : g.flagged = false
  running : g.writerRunning = true
  head : g.writer = .head

section
variable {request : GenerateRequest} {maxQueueSize : Nat} {g : Generator}

theorem step_produce {ok : Bool} {statement : RunStatement} {next : Generator}
    (ran : g.produce request maxQueueSize ok = some (statement, next)) :
    step request maxQueueSize g (.produce ok) = some next := by
  rw [step, act, ran]
  rfl

theorem Idle.enqueueBatch (maxQueueSize : Nat) (idle : Idle g) : Idle (g.enqueueBatch maxQueueSize) := by
  unfold Generator.enqueueBatch
  split
  · exact idle
  · exact ⟨idle.unflagged, idle.running, idle.head⟩

theorem enqueueBatch_fields : (g.enqueueBatch maxQueueSize).pc = g.pc ∧ (g.enqueueBatch maxQueueSize).t = g.t := by
  unfold Generator.enqueueBatch
  split
  · exact ⟨rfl, rfl⟩
  · exact ⟨rfl, rfl⟩

variable (request maxQueueSize)

/-- The next record of a tick, and the batch that may be full with it. -/
theorem reaches_nextHost {i : Nat} (at_ : g.pc = .hosts i) (below : i < request.hosts) (idle : Idle g) :
    ∃ next, Reaches (step request maxQueueSize) g next ∧ next.pc = .hosts (i + 1) ∧ next.t = g.t ∧ Idle next := by
  by_cases full : batchSize ≤ g.batch.length + 1
  · let filled : Generator := { g with batch := g.batch ++ [⟨i, g.t⟩], pc := .enqueue (i + 1) }
    have generated : g.produce request maxQueueSize true = some (.nothing, filled) := by
      simp [Generator.produce, at_, below, full, filled]
    let handed : Generator := { filled.enqueueBatch maxQueueSize with
      pc := .progress (i + 1), batch := [], totalRows := g.totalRows + batchSize }
    have enqueued : filled.produce request maxQueueSize true = some (.nothing, handed) := rfl
    have reported : handed.produce request maxQueueSize true =
        some (.updateRunStatus .running handed.totalRows "", { handed with pc := .check (i + 1) }) := rfl
    have idle' : Idle handed := by
      have kept : Idle (filled.enqueueBatch maxQueueSize) :=
        Idle.enqueueBatch maxQueueSize ⟨idle.unflagged, idle.running, idle.head⟩
      exact ⟨kept.unflagged, kept.running, kept.head⟩
    have checked : ({ handed with pc := .check (i + 1) } : Generator).produce request maxQueueSize true =
        some (.nothing, { handed with pc := .hosts (i + 1) }) := by
      simp [Generator.produce, idle'.unflagged]
    refine ⟨{ handed with pc := .hosts (i + 1) }, ?_, rfl, enqueueBatch_fields.2,
      ⟨idle'.unflagged, idle'.running, idle'.head⟩⟩
    exact .head (step_produce generated) (.head (step_produce enqueued) (.head (step_produce reported)
      (.head (step_produce checked) (.refl _))))
  · have generated : g.produce request maxQueueSize true =
        some (.nothing, { g with batch := g.batch ++ [⟨i, g.t⟩], pc := .hosts (i + 1) }) := by
      simp [Generator.produce, at_, below, full]
    exact ⟨_, .head (step_produce generated) (.refl _), rfl, rfl, ⟨idle.unflagged, idle.running, idle.head⟩⟩

/-- All the records that are left of a tick. -/
theorem reaches_lastHost {i : Nat} (at_ : g.pc = .hosts i) (below : i ≤ request.hosts) (idle : Idle g) :
    ∃ next, Reaches (step request maxQueueSize) g next ∧
      next.pc = .hosts request.hosts ∧ next.t = g.t ∧ Idle next := by
  induction left : request.hosts - i generalizing g i with
  | zero =>
    have last : i = request.hosts := by omega
    exact ⟨g, .refl g, last ▸ at_, rfl, idle⟩
  | succ left ih =>
    obtain ⟨middle, reached, atNext, same, idle⟩ := reaches_nextHost request maxQueueSize at_ (by omega) idle
    obtain ⟨next, later, atLast, time, idle⟩ := ih atNext (by omega) idle (by omega)
    exact ⟨next, reached.trans later, atLast, time.trans same, idle⟩

/-- A whole tick. -/
theorem reaches_tick (at_ : g.pc = .tick) (before : g.t < request.endTime) (idle : Idle g) :
    ∃ last next, Reaches (step request maxQueueSize) g last ∧ last.pc = .hosts request.hosts ∧ last.t = g.t ∧
      step request maxQueueSize last (.produce true) = some next ∧ next.pc = .tick ∧
      next.t = g.t + request.duration ∧ Idle next := by
  have entered : g.produce request maxQueueSize true = some (.heartbeat, { g with pc := .flag }) := by
    simp [Generator.produce, at_, before]
  have unflagged : ({ g with pc := .flag } : Generator).produce request maxQueueSize true =
      some (.nothing, { g with pc := .hosts 0 }) := by
    simp [Generator.produce, idle.unflagged]
  obtain ⟨last, reached, atLast, same, idle⟩ := reaches_lastHost request maxQueueSize
    (g := { g with pc := .hosts 0 }) rfl (Nat.zero_le request.hosts) ⟨idle.unflagged, idle.running, idle.head⟩
  have ticked : last.produce request maxQueueSize true =
      some (.nothing, { last with pc := .tick, t := last.t + request.duration }) := by
    simp [Generator.produce, atLast]
  exact ⟨last, _, .head (step_produce entered) (.head (step_produce unflagged) reached), atLast, same,
    step_produce ticked, rfl, by rw [← same], ⟨idle.unflagged, idle.running, idle.head⟩⟩

/-- A bound on the ticks that are left, before the end or before the clock overflows. -/
def remaining (t : Int) : Nat :=
  if 0 < request.duration then (request.endTime - t).toNat else (t + 9223372037).toNat

theorem remaining_decreases {t : Int} (before : t < request.endTime)
    (represented : Representable ((t + request.duration) * 1000000000)) :
    remaining request (t + request.duration) < remaining request t := by
  have moving := request.duration_ne_zero
  obtain ⟨low, -⟩ := represented
  unfold remaining
  split
  next => omega
  next => omega

/-- At the end of the loop the last batch is handed over. -/
theorem reaches_afterLoop (at_ : g.pc = .tick) (past : ¬ g.t < request.endTime) (idle : Idle g) :
    ∃ next, Reaches (step request maxQueueSize) g next ∧ next.pc = .wait ∧ Idle next := by
  have left : g.produce request maxQueueSize true = some (.nothing, { g with pc := .final }) := by
    simp [Generator.produce, at_, past]
  have kept : Idle (({ g with pc := .final } : Generator).enqueueBatch maxQueueSize) :=
    Idle.enqueueBatch maxQueueSize ⟨idle.unflagged, idle.running, idle.head⟩
  by_cases empty : g.batch = []
  · have ended : ({ g with pc := .final } : Generator).produce request maxQueueSize true =
        some (.nothing, { g with pc := .wait }) := by
      simp [Generator.produce, empty]
    exact ⟨_, .head (step_produce left) (.head (step_produce ended) (.refl _)), rfl,
      ⟨idle.unflagged, idle.running, idle.head⟩⟩
  · have ended : ({ g with pc := .final } : Generator).produce request maxQueueSize true =
        some (.nothing, { ({ g with pc := .final } : Generator).enqueueBatch maxQueueSize with
          pc := .wait, batch := [], totalRows := g.totalRows + g.batch.length }) := by
      simp [Generator.produce, empty]
    exact ⟨_, .head (step_produce left) (.head (step_produce ended) (.refl _)), rfl,
      ⟨kept.unflagged, kept.running, kept.head⟩⟩

/-- The loop over time comes to its end unless the clock overflows. -/
theorem reaches_wait (safe : ∀ next, Reaches (step request maxQueueSize) g next → ¬ Overflows request next)
    (at_ : g.pc = .tick) (idle : Idle g) :
    ∃ next, Reaches (step request maxQueueSize) g next ∧ next.pc = .wait ∧ Idle next := by
  induction bound : remaining request g.t using Nat.strong_induction_on generalizing g with
  | h n ih =>
    by_cases before : g.t < request.endTime
    · obtain ⟨last, next, reached, atLast, same, ticked, atNext, time, idle⟩ :=
        reaches_tick request maxQueueSize at_ before idle
      have represented : Representable ((g.t + request.duration) * 1000000000) := by
        by_contra outside
        apply safe last reached
        rw [Overflows, atLast, same]
        exact ⟨rfl, outside⟩
      have fewer := remaining_decreases request before represented
      rw [bound, ← time] at fewer
      have onward : Reaches (step request maxQueueSize) g next := reached.trans (.head ticked (.refl next))
      obtain ⟨final, later, waiting, idle⟩ :=
        ih _ fewer (fun other more => safe other (onward.trans more)) atNext idle rfl
      exact ⟨final, onward.trans later, waiting, idle⟩
    · exact reaches_afterLoop request maxQueueSize at_ before idle

/-- The writer empties the queue. -/
theorem reaches_drained (at_ : g.pc = .wait) (idle : Idle g) :
    ∃ next, Reaches (step request maxQueueSize) g next ∧ next.pc = .wait ∧ next.writeQueue = [] := by
  induction queue : g.writeQueue generalizing g with
  | nil => exact ⟨g, .refl g, at_, queue⟩
  | cons batch rest ih =>
    let popped : Generator := { g with writer := .inserting batch, writeQueue := rest }
    have woken : step request maxQueueSize g (.write true) = some { g with writer := .waiting } := by
      simp [step, act, Generator.write, idle.head, idle.running]
    have taken : step request maxQueueSize { g with writer := .waiting } (.write true) = some popped := by
      simp [step, act, Generator.write, queue, popped]
    have stored : step request maxQueueSize popped (.write true) =
        some { popped with writer := .head, committed := g.committed ++ batch } := rfl
    obtain ⟨next, later, waiting, drained⟩ :=
      ih (g := { popped with writer := .head, committed := g.committed ++ batch }) at_
        ⟨idle.unflagged, idle.running, rfl⟩ rfl
    exact ⟨next, .head woken (.head taken (.head stored later)), waiting, drained⟩

end

/-- Whatever its texts are and whether or not its row was created, some run of a request
reports success or leaves the range of the 64-bit clock, which counts as a failure too. -/
theorem not_neverSucceeds (request : TextRequest) (maxQueueSize : Nat) (created : Bool) :
    ¬ NeverSucceeds request.parsed maxQueueSize created := by
  intro never
  let started : Generator := { Generator.init with
    pc := .tick, t := request.parsed.startTime, writerRunning := true, writer := .head }
  have begun : ∀ schedule g, exec (step request.parsed maxQueueSize) started schedule = some g →
      exec (step request.parsed maxQueueSize) .init (.produce created :: .produce true :: schedule) = some g := by
    intro schedule g run
    exact run
  have safe : ∀ next, Reaches (step request.parsed maxQueueSize) started next → ¬ Overflows request.parsed next := by
    rintro next ⟨schedule, run⟩
    exact (never _ next (begun schedule next run)).1
  obtain ⟨waiting, first, atWait, idle⟩ := reaches_wait request.parsed maxQueueSize safe rfl ⟨rfl, rfl, rfl⟩
  obtain ⟨drained, second, atDrained, empty⟩ := reaches_drained request.parsed maxQueueSize atWait idle
  have seen : drained.produce request.parsed maxQueueSize true = some (.nothing, { drained with pc := .succeed }) := by
    simp [Generator.produce, atDrained, empty]
  obtain ⟨schedule, run⟩ := first.trans (second.trans (.head (step_produce seen) (.refl _)))
  exact (never _ _ (begun schedule _ run)).2 (.produce true) drained.totalRows "" _ rfl

/-! ## A request without times -/

/-- What the HTTP server asks for: it sets neither of the times. -/
def withoutTimes : TextRequest := ⟨5, "", "", 0, "r"⟩

theorem not_matchesIso_empty : ¬ MatchesIso "" := by
  rintro ⟨time, -, written⟩
  have characters := congrArg String.toList written.symm
  rw [String.toList_ofList] at characters
  exact List.append_ne_nil_of_right_ne_nil _ (List.cons_ne_nil 'Z' []) characters

/-- Both times are read as the same time, and no tick is in between. -/
theorem withoutTimes_succeeds : ¬ ∀ (request : TextRequest) (maxQueueSize : Nat) (created : Bool),
    ¬ MatchesIso request.startTimeIso ∨ ¬ MatchesIso request.endTimeIso ∨ created = false →
    NeverSucceeds request.parsed maxQueueSize created := by
  intro never
  have run : exec (step withoutTimes.parsed 100) .init (.produce false :: List.replicate 4 (.produce true)) =
      some { Generator.init with pc := .succeed, t := -2209075200, writerRunning := true, writer := .head } := by
    decide +kernel
  exact (never withoutTimes 100 false (.inl not_matchesIso_empty) _ _ run).2 (.produce true) 0 "" _ rfl

end TelemetryLab.Generation
