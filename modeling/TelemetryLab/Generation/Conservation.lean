import Mathlib.Algebra.Order.Ring.Int
import Mathlib.Tactic.Positivity
import Mathlib.Tactic.Ring
import TelemetryLab.Generation.Generator

/-! When the row count that a successful run records is right.

The producer counts the rows of every batch it hands to `EnqueueBatch`. They are
committed, queued or in the hands of the writer, unless the queue was full or
the insert failed; these are the rows that are missing.
-/

set_option autoImplicit false
namespace TelemetryLab.Generation
open Transition

/-! ## The loop over time -/

section
variable {request : GenerateRequest}

theorem GenerateRequest.duration_ne_zero (request : GenerateRequest) : request.duration ≠ 0 := by
  unfold duration
  split
  next => decide
  next given => exact given

/-- The start of tick `k`. -/
def GenerateRequest.tickTime (request : GenerateRequest) (k : Nat) : Int :=
  request.startTime + k * request.duration

theorem GenerateRequest.tickTime_succ (k : Nat) :
    request.tickTime (k + 1) = request.tickTime k + request.duration := by
  simp only [tickTime, Nat.cast_add, Nat.cast_one]
  ring

/-- The offset of tick `j` from the start. -/
def GenerateRequest.tickOffset (request : GenerateRequest) (j : Nat) : Nat := ((j : Int) * request.duration).toNat

theorem GenerateRequest.tickOffset_cast (positive : 0 < request.duration) (j : Nat) :
    (request.tickOffset j : Int) = j * request.duration :=
  Int.toNat_of_nonneg (by positivity)

theorem GenerateRequest.tickOffset_injective (positive : 0 < request.duration) :
    Function.Injective request.tickOffset := by
  intro i j same
  have equal : (i : Int) * request.duration = j * request.duration := by
    rw [← tickOffset_cast positive, ← tickOffset_cast positive, same]
  exact_mod_cast mul_right_cancel₀ positive.ne' equal

theorem GenerateRequest.tickOffset_of_dvd (positive : 0 < request.duration) {offset : Nat}
    (divides : request.duration ∣ (offset : Int)) : ∃ j, request.tickOffset j = offset := by
  obtain ⟨c, multiple⟩ := divides
  have nonneg : 0 ≤ c := by
    by_contra negative
    have below : request.duration * c < 0 := mul_neg_of_pos_of_neg positive (by omega)
    omega
  obtain ⟨j, rfl⟩ := Int.eq_ofNat_of_zero_le nonneg
  refine ⟨j, ?_⟩
  have cast := tickOffset_cast positive j
  rw [mul_comm] at multiple
  omega

/-- A loop that has started `k` ticks and finds the end reached has seen them all. -/
theorem GenerateRequest.ticks_eq (positive : 0 < request.duration) {k : Nat}
    (started : ∀ j < k, request.tickTime j < request.endTime) (reached : request.endTime ≤ request.tickTime k) :
    request.ticks = k := by
  have visited : (Finset.range (request.endTime - request.startTime).toNat).filter
      (fun offset : Nat => request.duration ∣ (offset : Int)) = (Finset.range k).image request.tickOffset := by
    ext offset
    simp only [Finset.mem_filter, Finset.mem_image, Finset.mem_range]
    constructor
    · rintro ⟨inside, divides⟩
      obtain ⟨j, rfl⟩ := tickOffset_of_dvd positive divides
      refine ⟨j, ?_, rfl⟩
      -- a tick from `k` on would start after the end
      by_contra late
      have ordered : (k : Int) * request.duration ≤ j * request.duration := by
        apply mul_le_mul_of_nonneg_right _ positive.le
        exact_mod_cast not_lt.mp late
      have cast := tickOffset_cast positive j
      rw [tickTime] at reached
      omega
    · rintro ⟨j, early, rfl⟩
      have before := started j early
      have cast := tickOffset_cast positive j
      rw [tickTime] at before
      exact ⟨by omega, ⟨j, by rw [cast, mul_comm]⟩⟩
  rw [ticks, visited, Finset.card_image_of_injective _ (tickOffset_injective positive), Finset.card_range]

end

/-- Within tick `k`, with `i` hosts of it done. -/
structure Position (request : GenerateRequest) (g : Generator) (k i : Nat) : Prop where
  time : g.t = request.tickTime k
  started : ∀ j < k, request.tickTime j < request.endTime
  rows : g.totalRows + g.batch.length = request.hosts * k + i

/-- What the producer has counted, by its control point. -/
def Progressed (request : GenerateRequest) (g : Generator) : Prop :=
  match g.pc with
  | .create | .spawn => g.totalRows = 0 ∧ g.batch = []
  | .tick => g.batch.length < batchSize ∧ ∃ k, Position request g k 0
  | .flag => g.batch.length < batchSize ∧ g.t < request.endTime ∧ ∃ k, Position request g k 0
  | .hosts i | .progress i | .check i =>
    i ≤ request.hosts ∧ g.batch.length < batchSize ∧ g.t < request.endTime ∧ ∃ k, Position request g k i
  | .enqueue i => i ≤ request.hosts ∧ g.batch.length = batchSize ∧ g.t < request.endTime ∧ ∃ k, Position request g k i
  | .final => g.totalRows + g.batch.length = request.hosts * request.ticks
  | .wait => g.totalRows = request.hosts * request.ticks
  | .succeed => g.totalRows = request.hosts * request.ticks ∧ g.writeQueue = []
  | .cancelling | .failing _ | .returned => True

section
variable {request : GenerateRequest} {maxQueueSize : Nat} {g next : Generator}

theorem Position.nextTick {k : Nat} (here : Position request g k request.hosts) (before : g.t < request.endTime) :
    Position request { g with pc := .tick, t := g.t + request.duration } (k + 1) 0 where
  time := by rw [GenerateRequest.tickTime_succ, here.time]
  started := by
    intro j early
    rcases Nat.lt_succ_iff_lt_or_eq.mp early with earlier | rfl
    · exact here.started j earlier
    · exact here.time ▸ before
  rows := by
    have rows := here.rows
    simp only [Nat.mul_succ]
    omega

theorem Position.nextHost {k i : Nat} (here : Position request g k i) :
    Position request { g with pc := .hosts (i + 1), batch := g.batch ++ [⟨i, g.t⟩] } k (i + 1) where
  time := here.time
  started := here.started
  rows := by
    have rows := here.rows
    simp only [List.length_append, List.length_singleton]
    omega

@[simp] theorem Generator.enqueueBatch_t (g : Generator) : (g.enqueueBatch maxQueueSize).t = g.t := by
  unfold enqueueBatch
  split <;> rfl

theorem produce_progressed (positive : 0 < request.duration) {ok : Bool} {statement : RunStatement}
    (progressed : Progressed request g) (ran : g.produce request maxQueueSize ok = some (statement, next)) :
    Progressed request next := by
  obtain ⟨pc, t, batch, totalRows, writeQueue, writerRunning, writer, flagged, committed⟩ := g
  cases pc with
  | create =>
    cases ran
    exact progressed
  | spawn =>
    obtain ⟨rows, empty⟩ := progressed
    simp only [Generator.produce] at ran
    split at ran <;> cases ran
    · refine ⟨by simp_all [batchSize], 0, by simp [GenerateRequest.tickTime], by simp, by simp_all⟩
    · trivial
  | tick =>
    obtain ⟨small, k, here⟩ := progressed
    simp only [Generator.produce] at ran
    split at ran <;> cases ran
    · exact ⟨small, ‹_›, k, here.time, here.started, here.rows⟩
    next reached =>
      -- the loop ends, so the ticks started are all ticks of the request
      have all := GenerateRequest.ticks_eq positive here.started (here.time ▸ not_lt.mp reached)
      simpa only [Progressed, all, Nat.add_zero] using here.rows
  | flag =>
    obtain ⟨small, before, k, here⟩ := progressed
    cases ran
    cases flagged
    · exact ⟨Nat.zero_le _, small, before, k, here.time, here.started, here.rows⟩
    · trivial
  | hosts i =>
    obtain ⟨bound, small, before, k, here⟩ := progressed
    simp only [Generator.produce] at ran
    split at ran <;> cases ran
    next more =>
      have position := here.nextHost
      by_cases full : batchSize ≤ (batch ++ [(⟨i, t⟩ : Record)]).length
      · simp only [full, if_true]
        refine ⟨more, ?_, before, k, position.time, position.started, position.rows⟩
        simp only [List.length_append, List.length_singleton] at full small ⊢
        omega
      · simp only [full, if_false]
        exact ⟨more, not_le.mp full, before, k, position⟩
    next last =>
      -- every host has its record of this tick
      obtain rfl : i = request.hosts := Nat.le_antisymm bound (not_lt.mp last)
      exact ⟨small, k + 1, here.nextTick before⟩
  | enqueue i =>
    -- the counter advances by the batch size whether or not the queue took the batch
    obtain ⟨bound, full, before, k, here⟩ := progressed
    cases ran
    refine ⟨bound, by simp [batchSize], ?_, k, ?_, here.started, ?_⟩
    · simpa using before
    · simpa using here.time
    · have rows := here.rows
      simp only [List.length_nil] at full rows ⊢
      omega
  | progress i =>
    cases ran
    obtain ⟨bound, small, before, k, here⟩ := progressed
    exact ⟨bound, small, before, k, here.time, here.started, here.rows⟩
  | check i =>
    obtain ⟨bound, small, before, k, here⟩ := progressed
    cases ran
    cases flagged
    · exact ⟨bound, small, before, k, here.time, here.started, here.rows⟩
    · trivial
  | final =>
    simp only [Generator.produce] at ran
    split at ran <;> cases ran
    next empty => simpa [Progressed, empty] using progressed
    · exact progressed
  | wait =>
    cases ran
    by_cases drained : writeQueue = []
    · simp only [drained, if_true]
      exact ⟨progressed, rfl⟩
    · simp only [drained, if_false]
      exact progressed
  | succeed =>
    cases ran
    trivial
  | cancelling =>
    cases ran
    trivial
  | failing what =>
    cases ran
    trivial
  | returned => cases ran

/-- The writer, the stop flag and a shorter queue do not matter to the producer. -/
theorem Progressed.congr (progressed : Progressed request g) (pc : next.pc = g.pc) (t : next.t = g.t)
    (batch : next.batch = g.batch) (totalRows : next.totalRows = g.totalRows)
    (drained : g.writeQueue = [] → next.writeQueue = []) : Progressed request next := by
  have position {k i : Nat} (here : Position request g k i) : Position request next k i :=
    ⟨t.trans here.time, here.started, by rw [totalRows, batch, here.rows]⟩
  unfold Progressed at progressed ⊢
  rw [pc, t, batch, totalRows]
  cases at_ : g.pc with
  | tick =>
    rw [at_] at progressed
    exact ⟨progressed.1, progressed.2.imp fun _ => position⟩
  | flag =>
    rw [at_] at progressed
    exact ⟨progressed.1, progressed.2.1, progressed.2.2.imp fun _ => position⟩
  | hosts i | progress i | check i | enqueue i =>
    rw [at_] at progressed
    exact ⟨progressed.1, progressed.2.1, progressed.2.2.1, progressed.2.2.2.imp fun _ => position⟩
  | succeed =>
    rw [at_] at progressed
    exact ⟨progressed.1, drained progressed.2⟩
  | create | spawn | final | wait | cancelling | failing what | returned =>
    rw [at_] at progressed
    exact progressed

/-! ## The balance of rows -/

def WriterPc.inFlight : WriterPc → Nat
  | .inserting batch => batch.length
  | _ => 0

def Generator.held (g : Generator) : Nat :=
  g.committed.length + (g.writeQueue.map List.length).sum + g.writer.inFlight

/-- Rows that were counted and are neither stored nor on their way. -/
def Generator.missing (g : Generator) : Int := (g.totalRows : Int) - g.held

/-- The producer is about to call `EnqueueBatch`. -/
def Generator.handsOver (g : Generator) : Bool :=
  match g.pc with
  | .enqueue _ => true
  | .final => decide (g.batch ≠ [])
  | _ => false

/-- No batch is dropped at a full queue and no insert fails. -/
def NoLoss (maxQueueSize : Nat) (g : Generator) : Label → Prop
  | .produce _ => g.handsOver = true → g.writeQueue.length < maxQueueSize
  | .write ok => g.writer.inFlight ≠ 0 → ok = true
  | .cancel | .destroy => True

instance (maxQueueSize : Nat) (g : Generator) : (label : Label) → Decidable (NoLoss maxQueueSize g label)
  | .produce _ => inferInstanceAs (Decidable (_ → _))
  | .write _ => inferInstanceAs (Decidable (_ → _))
  | .cancel | .destroy => .isTrue trivial

structure Sound (request : GenerateRequest) (g : Generator) : Prop where
  progressed : Progressed request g
  queued : ∀ batch ∈ g.writeQueue, batch ≠ []
  unborn : g.pc = .create ∨ g.pc = .spawn → g.writer = .absent

/-- Every step of the producer but a call of `EnqueueBatch` leaves the rows alone. -/
theorem produce_cases (sound : Sound request g) {ok : Bool} {statement : RunStatement}
    (ran : g.produce request maxQueueSize ok = some (statement, next)) :
    (next.pc ≠ .create ∧ (next.pc = .spawn → next.writer = .absent)) ∧ next.committed = g.committed ∧
      next.writer.inFlight = g.writer.inFlight ∧
      if g.handsOver then g.batch ≠ [] ∧ next.totalRows = g.totalRows + g.batch.length ∧
        next.writeQueue = (g.enqueueBatch maxQueueSize).writeQueue
      else next.totalRows = g.totalRows ∧ next.writeQueue = g.writeQueue := by
  obtain ⟨pc, t, batch, totalRows, writeQueue, writerRunning, writer, flagged, committed⟩ := g
  cases pc with
  | create =>
    cases ran
    exact ⟨⟨by simp, fun _ => sound.unborn (.inl rfl)⟩, rfl, rfl, rfl, rfl⟩
  | spawn =>
    have unborn : writer = .absent := sound.unborn (.inr rfl)
    simp only [Generator.produce] at ran
    split at ran <;> cases ran
    · exact ⟨by simp, rfl, by simp [WriterPc.inFlight, unborn], rfl, rfl⟩
    · exact ⟨by simp, rfl, rfl, rfl, rfl⟩
  | tick =>
    simp only [Generator.produce] at ran
    split at ran <;> cases ran <;> exact ⟨by simp, rfl, rfl, rfl, rfl⟩
  | flag =>
    cases ran
    exact ⟨by cases flagged <;> simp, rfl, rfl, rfl, rfl⟩
  | hosts i =>
    simp only [Generator.produce] at ran
    split at ran <;> cases ran
    · exact ⟨by constructor <;> split <;> simp, rfl, rfl, rfl, rfl⟩
    · exact ⟨by simp, rfl, rfl, rfl, rfl⟩
  | enqueue i =>
    obtain ⟨_, full, _⟩ := sound.progressed
    have nonempty : batch ≠ [] := by
      rintro rfl
      cases full
    cases ran
    refine ⟨by simp, ?_, ?_, nonempty, ?_, rfl⟩
    · simp only [Generator.enqueueBatch]
      split <;> rfl
    · simp only [Generator.enqueueBatch]
      split <;> rfl
    · exact congrArg (totalRows + ·) full.symm
  | progress i =>
    cases ran
    exact ⟨by simp, rfl, rfl, rfl, rfl⟩
  | check i =>
    cases ran
    exact ⟨by cases flagged <;> simp, rfl, rfl, rfl, rfl⟩
  | final =>
    simp only [Generator.produce] at ran
    split at ran <;> cases ran
    next empty => exact ⟨by simp, rfl, rfl, by simp [Generator.handsOver, empty]⟩
    next nonempty =>
      refine ⟨by simp, ?_, ?_, by simp [Generator.handsOver, nonempty]⟩
      · simp only [Generator.enqueueBatch]
        split <;> rfl
      · simp only [Generator.enqueueBatch]
        split <;> rfl
  | wait =>
    cases ran
    exact ⟨by constructor <;> split <;> simp, rfl, rfl, rfl, rfl⟩
  | succeed | cancelling | failing what =>
    cases ran
    exact ⟨by simp, rfl, rfl, rfl, rfl⟩
  | returned => cases ran

theorem produce_sound (positive : 0 < request.duration) (sound : Sound request g) {ok : Bool}
    {statement : RunStatement} (ran : g.produce request maxQueueSize ok = some (statement, next)) :
    Sound request next := by
  obtain ⟨⟨created, spawned⟩, _, _, rows⟩ := produce_cases sound ran
  refine ⟨produce_progressed positive sound.progressed ran, ?_, fun early => spawned (early.resolve_left created)⟩
  intro batch member
  split at rows
  · obtain ⟨nonempty, _, queue⟩ := rows
    rw [queue, Generator.enqueueBatch] at member
    split at member
    · exact sound.queued batch member
    · rcases List.mem_append.mp member with old | new
      · exact sound.queued batch old
      · exact List.mem_singleton.mp new ▸ nonempty
  · exact sound.queued batch (rows.2 ▸ member)

theorem write_sound (sound : Sound request g) {ok : Bool} (ran : g.write ok = some next) : Sound request next := by
  unfold Generator.write at ran
  split at ran
  · cases ran
  · cases ran
  next at_ =>
    cases ran
    refine ⟨sound.progressed.congr rfl rfl rfl rfl id, sound.queued, fun early => ?_⟩
    rw [sound.unborn early] at at_
    cases at_
  next at_ =>
    have born : ¬ (g.pc = .create ∨ g.pc = .spawn) := by
      intro early
      rw [sound.unborn early] at at_
      cases at_
    split at ran
    next batch rest queue =>
      cases ran
      refine ⟨sound.progressed.congr rfl rfl rfl rfl ?_, ?_, fun early => absurd early born⟩
      · simp [queue]
      · exact fun other member => sound.queued other (queue ▸ List.mem_cons_of_mem _ member)
    · split at ran <;> cases ran
      exact ⟨sound.progressed.congr rfl rfl rfl rfl id, sound.queued, fun early => absurd early born⟩
  next at_ =>
    cases ran
    refine ⟨sound.progressed.congr rfl rfl rfl rfl id, sound.queued, fun early => ?_⟩
    rw [sound.unborn early] at at_
    cases at_

theorem step_sound (positive : 0 < request.duration) {label : Label} (sound : Sound request g)
    (taken : step request maxQueueSize g label = some next) : Sound request next := by
  obtain ⟨⟨statement, after⟩, acted, rfl⟩ := Option.map_eq_some_iff.mp taken
  cases label with
  | produce ok => exact produce_sound positive sound acted
  | write ok =>
    obtain ⟨written, ran, same⟩ := Option.map_eq_some_iff.mp acted
    cases same
    exact write_sound sound ran
  | cancel =>
    cases acted
    exact ⟨sound.progressed.congr rfl rfl rfl rfl id, sound.queued, sound.unborn⟩
  | destroy =>
    simp only [act] at acted
    split at acted <;> cases acted
    exact ⟨sound.progressed.congr rfl rfl rfl rfl id, sound.queued, sound.unborn⟩

theorem produce_missing (sound : Sound request g) {ok : Bool} {statement : RunStatement}
    (ran : g.produce request maxQueueSize ok = some (statement, next)) :
    (NoLoss maxQueueSize g (.produce ok) → next.missing = g.missing) ∧
      (¬ NoLoss maxQueueSize g (.produce ok) → g.missing < next.missing) := by
  obtain ⟨_, committed, inFlight, rows⟩ := produce_cases sound ran
  simp only [Generator.missing, Generator.held, committed, inFlight, NoLoss]
  cases handsOver : g.handsOver with
  | false =>
    simp only [handsOver, Bool.false_eq_true, if_false] at rows
    rw [rows.1, rows.2]
    simp
  | true =>
    simp only [handsOver, if_true] at rows
    obtain ⟨nonempty, total, queue⟩ := rows
    have some_rows : 0 < g.batch.length := List.length_pos_iff.mpr nonempty
    rw [total, queue, Generator.enqueueBatch]
    by_cases full : maxQueueSize ≤ g.writeQueue.length
    · -- the batch is dropped and counted all the same
      simp only [full, if_true, true_implies, not_lt.mpr full]
      refine ⟨False.elim, fun _ => ?_⟩
      push_cast
      omega
    · simp only [full, if_false, List.map_append, List.sum_append, List.map_singleton, List.sum_singleton]
      refine ⟨fun _ => ?_, fun lossy => absurd (fun _ => not_le.mp full) lossy⟩
      push_cast
      omega

theorem write_missing {ok : Bool} (ran : g.write ok = some next) :
    (NoLoss maxQueueSize g (.write ok) → next.missing = g.missing) ∧
      (¬ NoLoss maxQueueSize g (.write ok) → g.missing < next.missing) := by
  -- only the end of an insert can lose rows
  have idle (empty : g.writer.inFlight = 0) (same : next.missing = g.missing) :
      (NoLoss maxQueueSize g (.write ok) → next.missing = g.missing) ∧
        (¬ NoLoss maxQueueSize g (.write ok) → g.missing < next.missing) :=
    ⟨fun _ => same, fun lossy => absurd (fun busy => absurd empty busy) lossy⟩
  unfold Generator.write at ran
  split at ran
  · cases ran
  · cases ran
  next at_ =>
    cases ran
    apply idle
    · simp [at_, WriterPc.inFlight]
    · cases g.writerRunning <;> simp [Generator.missing, Generator.held, at_, WriterPc.inFlight]
  next at_ =>
    apply idle
    · simp [at_, WriterPc.inFlight]
    · split at ran
      next batch rest queue =>
        cases ran
        simp only [Generator.missing, Generator.held, at_, WriterPc.inFlight, queue, List.map_cons, List.sum_cons]
        omega
      · split at ran <;> cases ran
        simp [Generator.missing, Generator.held, at_, WriterPc.inFlight]
  next batch at_ =>
    cases ran
    simp only [NoLoss, Generator.missing, Generator.held, at_, WriterPc.inFlight]
    cases ok with
    | true => simp [Nat.add_right_comm]
    | false =>
      simp only [Bool.false_eq_true, if_false]
      constructor
      · intro kept
        have empty : batch.length = 0 := not_not.mp kept
        omega
      · intro lossy
        have rows : batch.length ≠ 0 := fun empty => lossy fun busy => absurd empty busy
        omega

theorem step_missing {label : Label} (sound : Sound request g)
    (taken : step request maxQueueSize g label = some next) :
    (NoLoss maxQueueSize g label → next.missing = g.missing) ∧
      (¬ NoLoss maxQueueSize g label → g.missing < next.missing) := by
  obtain ⟨⟨statement, after⟩, acted, rfl⟩ := Option.map_eq_some_iff.mp taken
  cases label with
  | produce ok => exact produce_missing sound acted
  | write ok =>
    obtain ⟨written, ran, same⟩ := Option.map_eq_some_iff.mp acted
    cases same
    exact write_missing ran
  | cancel =>
    cases acted
    exact ⟨fun _ => rfl, fun lossy => absurd trivial lossy⟩
  | destroy =>
    simp only [act] at acted
    split at acted <;> cases acted
    exact ⟨fun _ => rfl, fun lossy => absurd trivial lossy⟩

end

theorem init_sound (request : GenerateRequest) : Sound request .init where
  progressed := ⟨rfl, rfl⟩
  queued := by simp [Generator.init]
  unborn := fun _ => rfl

/-- No row comes from nowhere, and a run loses none exactly if no step of it does. -/
theorem run_balance {request : GenerateRequest} {maxQueueSize : Nat} (positive : 0 < request.duration)
    {schedule : List Label} {g : Generator} (run : exec (step request maxQueueSize) .init schedule = some g) :
    g.held ≤ g.totalRows ∧
      (Steps (step request maxQueueSize) (NoLoss maxQueueSize) .init schedule ↔ g.totalRows = g.held) := by
  obtain ⟨grows, balanced⟩ := steps_iff_of_measure (I := Sound request) (m := Generator.missing)
    (fun _ _ _ sound taken => step_sound positive sound taken)
    (fun _ _ _ sound taken => (step_missing sound taken).1) (fun _ _ _ sound taken => (step_missing sound taken).2)
    (init_sound request) run
  have zero : Generator.init.missing = 0 := rfl
  rw [zero, Generator.missing] at grows
  rw [balanced, zero, Generator.missing]
  constructor <;> omega

/-- Recording success is the last statement of the producer, over a drained queue. -/
theorem recorded_success {request : GenerateRequest} {maxQueueSize : Nat} {g after : Generator} {label : Label}
    {n : Int} {error : String} (sound : Sound request g)
    (recorded : act request maxQueueSize g label = some (.updateRunStatus .succeeded n error, after)) :
    n = g.totalRows ∧ g.totalRows = request.hosts * request.ticks ∧ g.writeQueue = [] := by
  cases label with
  | produce ok =>
    have succeeding : g.pc = .succeed ∧ n = g.totalRows := by
      unfold act Generator.produce at recorded
      cases pc : g.pc <;> cases ok <;> simp only [pc] at recorded <;> grind
    obtain ⟨at_, rfl⟩ := succeeding
    have progressed := sound.progressed
    simp only [Progressed, at_] at progressed
    exact ⟨rfl, progressed⟩
  | write ok =>
    obtain ⟨written, _, same⟩ := Option.map_eq_some_iff.mp recorded
    cases same
  | cancel => cases recorded
  | destroy =>
    simp only [act] at recorded
    split at recorded <;> cases recorded

/-- The producer up to the wait for the queue, in so many steps after its first two. -/
def generated (steps : Nat) : List Label :=
  [.produce true, .produce true, .write true] ++ List.replicate steps (.produce true)

/-- Two hosts and two ticks. -/
def fourRows : GenerateRequest := ⟨2, 0, 120, 60, "r"⟩

/-- The writer stores the batch before the producer looks at the queue again. -/
def storedInTime : List Label := generated 12 ++ [.write true, .write true, .produce true]

def storedRows : Generator :=
  ⟨.succeed, 120, [], 4, [], true, .head, false, [⟨0, 0⟩, ⟨1, 0⟩, ⟨0, 60⟩, ⟨1, 60⟩]⟩

def singleRow : GenerateRequest := ⟨1, 0, 60, 60, "r"⟩

/-- The writer has popped the batch, so the queue is empty, but has not stored it. -/
def poppedInTime : List Label := generated 7 ++ [.write true, .produce true]

def poppedRow : Generator := ⟨.succeed, 60, [], 1, [], true, .inserting [⟨0, 0⟩], false, []⟩

end TelemetryLab.Generation
