import TelemetryLab.Lib.Paging
import TelemetryLab.Scoring.World

/-! When no record is scored twice for one dataset and model.

The schema does not forbid it, so it rests on the cursor of the worker: between
its guard and the end of its loop it inserts records above the cursor only. That
protects a pair exactly as long as one worker at a time is in that section and
none enters it with a cursor below a score that is already stored.
-/

set_option autoImplicit false
namespace TelemetryLab.Scoring
open Jobs Transition

def Worker.active (worker : Worker) : Bool := !worker.ended && worker.pc.scoring.isSome

def ScoreCall.SamePair (first second : ScoreCall) : Prop :=
  first.datasetId = second.datasetId ∧ first.modelRunId = second.modelRunId

instance (first second : ScoreCall) : Decidable (first.SamePair second) := inferInstanceAs (Decidable (_ ∧ _))

def Score.IsOf (score : Score) (call : ScoreCall) : Prop :=
  score.datasetId = call.datasetId ∧ score.modelRunId = call.modelRunId

instance (score : Score) (call : ScoreCall) : Decidable (score.IsOf call) := inferInstanceAs (Decidable (_ ∧ _))

def ScoresUnique (w : World) : Prop := w.db.scores.Nodup

/-- No stored score of the pair lies above the cursor, and no other worker of
the pair is scoring. -/
def EntryClear (w : World) (i : Nat) (call : ScoreCall) (v : Cursor) : Prop :=
  (∀ score ∈ w.db.scores, score.IsOf call → score.recordId ≤ v.lastRecord) ∧
    ∀ j < w.workers.length, j ≠ i → ∀ other ∈ w.workers[j]?, other.active = true → ¬ other.call.SamePair call

instance (w : World) (i : Nat) (call : ScoreCall) (v : Cursor) : Decidable (EntryClear w i call v) :=
  inferInstanceAs (Decidable (_ ∧ _))

/-- The cursor with which a worker gets past its guard. -/
def entry : Progress ScorePc → Option Cursor
  | .goto (.announce v) => some v
  | _ => none

/-- A worker gets past its guard only over a clear pair. -/
def EntersClear (w : World) : Label → Prop
  | .work i event => ∀ worker ∈ w.workers[i]?, worker.ended = false →
      ∀ v ∈ entry (scoreStep w.db worker.flagged worker.call worker.pc event).2, EntryClear w i worker.call v
  | _ => True

instance (w : World) : (label : Label) → Decidable (EntersClear w label)
  | .work i event => inferInstanceAs (Decidable (∀ worker ∈ w.workers[i]?, worker.ended = false →
      ∀ v ∈ entry (scoreStep w.db worker.flagged worker.call worker.pc event).2, EntryClear w i worker.call v))
  | .tick | .ingest _ _ | .reconcile _ | .request _ _ _ | .requestStep _ _ | .cancel _ => .isTrue trivial

/-! ## The fetched batch -/

theorem fetch_sorted (db : Db) (datasetId : String) (lastRecordId : Int) (limit : Nat) :
    (db.fetchScoringRowsAfterRecord datasetId lastRecordId limit).Pairwise (· < ·) := by
  apply List.Pairwise.sublist (List.take_sublist _ _)
  have distinct : ((db.telemetry.entries.filter fun entry =>
      decide (entry.2 = datasetId) && decide (lastRecordId < entry.1)).map Sigma.fst).Nodup :=
    (List.filter_sublist.map Sigma.fst).nodup db.telemetry.nodupKeys
  have sorted := List.pairwise_insertionSort (· ≤ ·) ((db.telemetry.entries.filter fun entry =>
      decide (entry.2 = datasetId) && decide (lastRecordId < entry.1)).map Sigma.fst)
  have apart := ((List.perm_insertionSort (· ≤ ·) _).nodup_iff.mpr distinct)
  exact (sorted.and apart).imp fun both => lt_of_le_of_ne both.1 both.2

theorem fetch_above {db : Db} {datasetId : String} {lastRecordId : Int} {limit : Nat} {recordId : Int}
    (member : recordId ∈ db.fetchScoringRowsAfterRecord datasetId lastRecordId limit) : lastRecordId < recordId := by
  have member := List.mem_of_mem_take member
  rw [List.mem_insertionSort] at member
  obtain ⟨entry, kept, rfl⟩ := List.mem_map.mp member
  obtain ⟨_, above⟩ := List.mem_filter.mp kept
  simp only [Bool.and_eq_true, decide_eq_true_eq] at above
  exact above.2

theorem lt_getLastD {records : List Int} {bound : Int} (above : ∀ recordId ∈ records, bound < recordId) :
    bound ≤ records.getLastD bound := by
  rcases List.eq_nil_or_concat records with rfl | ⟨init, last, rfl⟩
  · simp
  · simpa using le_of_lt (above last (by simp))

/-! ## The invariant -/

structure Sound (w : World) : Prop where
  unique : ScoresUnique w
  behind : ∀ (i : Nat) (worker : Worker), w.workers[i]? = some worker → worker.ended = false →
    ∀ v, worker.pc.scoring = some v → ∀ score ∈ w.db.scores, score.IsOf worker.call → score.recordId ≤ v.lastRecord
  batch : ∀ (i : Nat) (worker : Worker), w.workers[i]? = some worker → ∀ v records, worker.pc = .insert v records →
    records.Pairwise (· < ·) ∧ ∀ recordId ∈ records, v.lastRecord < recordId
  alone : ∀ (i j : Nat) (first second : Worker), w.workers[i]? = some first → w.workers[j]? = some second →
    first.active = true → second.active = true → first.call.SamePair second.call → i = j

theorem init_sound : Sound .init where
  unique := List.nodup_nil
  behind := by
    intro i worker found
    simp [World.init] at found
  batch := by
    intro i worker found
    simp [World.init] at found
  alone := by
    intro i j first second found
    simp [World.init] at found

/-- Only the insert of a worker stores scores. -/
theorem scoreStep_scores (db : Db) (flagged : Bool) (call : ScoreCall) (pc : ScorePc) (event : Event) :
    (∀ other : Db, (other.run (scoreStep db flagged call pc event).1).scores = other.scores) ∨
      ∃ v records, pc = .insert v records ∧ event = .done := by
  cases pc with
  | insert v records =>
    cases event with
    | done => exact .inr ⟨v, records, rfl, rfl⟩
    | error what => exact .inl fun _ => rfl
  | readJob | readBack v | failing what =>
    refine .inl fun _ => ?_
    cases event <;> simp only [scoreStep]
    · split <;> rfl
    · rfl
  | count v | transition v | announce v | loadModel v | loop v | fetch v | progress v | finish v | cancelling v
  | completing v | recordFailure v what =>
    refine .inl fun _ => ?_
    cases event <;> rfl

theorem act_scores {w : World} {label : Label} {statement : Statement} {workers : List Worker}
    {requests : List Request} (acted : act w label = some (statement, workers, requests)) :
    (w.db.run statement).scores = w.db.scores ∨ ∃ i worker v records, label = .work i .done ∧
      w.workers[i]? = some worker ∧ worker.ended = false ∧ worker.pc = .insert v records ∧
      (w.db.run statement).scores = w.db.scores ++
        records.map fun recordId => ⟨worker.call.datasetId, worker.call.modelRunId, recordId⟩ := by
  cases act_issued acted with
  | other _ _ scores => exact .inl (scores w.db)
  | created jobId row _ _ => exact .inl rfl
  | reconciled staleTtl _ => exact .inl rfl
  | worked i event worker here found alive =>
    rcases scoreStep_scores w.db worker.flagged worker.call worker.pc event with scores | ⟨v, records, pc, rfl⟩
    · exact .inl (scores w.db)
    · refine .inr ⟨i, worker, v, records, here, found, alive, pc, ?_⟩
      rw [pc]
      rfl

/-- How a worker comes to be in the scoring section: by its guard, from within
with the same cursor, or from its insert with the cursor moved past the batch. -/
theorem scoreStep_scoring {db : Db} {flagged : Bool} {call : ScoreCall} {pc next : ScorePc} {event : Event} {v : Cursor}
    (moved : (scoreStep db flagged call pc event).2 = .goto next) (scoring : next.scoring = some v) :
    next = .announce v ∨ (pc.scoring = some v ∧ ∀ records, pc = .insert v records → event ≠ .done) ∨
      ∃ u records, pc = .insert u records ∧ event = .done ∧ v.lastRecord = records.getLastD u.lastRecord := by
  cases pc <;> cases event <;> grind [scoreStep, ScorePc.scoring]

/-- The batch a worker is about to insert comes from the fetch at its cursor. -/
theorem scoreStep_batch {db : Db} {flagged : Bool} {call : ScoreCall} {pc : ScorePc} {event : Event} {v : Cursor}
    {records : List Int} (moved : (scoreStep db flagged call pc event).2 = .goto (.insert v records)) :
    records = db.fetchScoringRowsAfterRecord call.datasetId v.lastRecord batchSize := by
  cases pc <;> cases event <;> grind [scoreStep]

/-- Where a scoring worker comes from in a step of the world. -/
inductive ScoringOrigin (w : World) (label : Label) (j : Nat) (call : ScoreCall) (v : Cursor) : Prop
  | entered (before : Worker) (event : Event) (here : label = .work j event) (found : w.workers[j]? = some before)
      (alive : before.ended = false) (same : before.call = call)
      (moved : (scoreStep w.db before.flagged before.call before.pc event).2 = .goto (.announce v))
  | stayed (before : Worker) (found : w.workers[j]? = some before) (alive : before.ended = false)
      (same : before.call = call) (scoring : before.pc.scoring = some v)
      (still : ∀ records, before.pc = .insert v records → label ≠ .work j .done)
  | inserted (before : Worker) (u : Cursor) (records : List Int) (here : label = .work j .done)
      (found : w.workers[j]? = some before) (alive : before.ended = false) (same : before.call = call)
      (pc : before.pc = .insert u records) (past : v.lastRecord = records.getLastD u.lastRecord)

theorem act_scoring {w : World} {label : Label} {statement : Statement} {workers : List Worker}
    {requests : List Request} (acted : act w label = some (statement, workers, requests)) {j : Nat} {after : Worker}
    (found : workers[j]? = some after) (alive : after.ended = false) {v : Cursor}
    (scoring : after.pc.scoring = some v) : ScoringOrigin w label j after.call v := by
  cases act_origin acted found with
  | kept before present call pc ended idle =>
    exact .stayed before present (ended ▸ alive) call.symm (pc ▸ scoring) fun _ _ => idle .done
  | started pc _ =>
    rw [pc] at scoring
    cases scoring
  | moved before event here present living issued now =>
    obtain ⟨pc, progress⟩ := Worker.advance_alive (now ▸ alive)
    rw [progress] at now
    subst now
    rcases scoreStep_scoring progress scoring with rfl | ⟨inside, still⟩ | ⟨u, records, at_, done, past⟩
    · exact .entered before event here present living rfl progress
    · refine .stayed before present living rfl inside fun records inserting both => ?_
      rw [here] at both
      cases both
      exact still records inserting rfl
    · exact .inserted before u records (done ▸ here) present living rfl at_ past

/-- Unless it is entered in this very step, a scoring worker was scoring. -/
theorem ScoringOrigin.active {w : World} {label : Label} {j : Nat} {call : ScoreCall} {v : Cursor}
    (origin : ScoringOrigin w label j call v) :
    (∃ before event, label = .work j event ∧ w.workers[j]? = some before ∧ before.ended = false ∧
        before.call = call ∧ (scoreStep w.db before.flagged before.call before.pc event).2 = .goto (.announce v)) ∨
      ∃ before, w.workers[j]? = some before ∧ before.call = call ∧ before.active = true := by
  cases origin with
  | entered before event here found alive same moved => exact .inl ⟨before, event, here, found, alive, same, moved⟩
  | stayed before found alive same scoring _ => exact .inr ⟨before, found, same, by simp [Worker.active, alive, scoring]⟩
  | inserted before u records _ found alive same pc _ =>
    exact .inr ⟨before, found, same, by simp [Worker.active, alive, pc, ScorePc.scoring]⟩

theorem Worker.active_iff {worker : Worker} :
    worker.active = true ↔ worker.ended = false ∧ ∃ v, worker.pc.scoring = some v := by
  simp [Worker.active, Option.isSome_iff_exists]

theorem act_alone {w : World} {label : Label} {statement : Statement} {workers : List Worker}
    {requests : List Request} (sound : Sound w) (clear : EntersClear w label)
    (acted : act w label = some (statement, workers, requests)) {i j : Nat} {first second : Worker}
    (firstAt : workers[i]? = some first) (secondAt : workers[j]? = some second) (firstActive : first.active = true)
    (secondActive : second.active = true) (pair : first.call.SamePair second.call) : i = j := by
  obtain ⟨firstAlive, v, firstScoring⟩ := Worker.active_iff.mp firstActive
  obtain ⟨secondAlive, u, secondScoring⟩ := Worker.active_iff.mp secondActive
  -- at most one of the two enters in this step, and over a clear pair
  rcases (act_scoring acted firstAt firstAlive firstScoring).active with
    ⟨before, event, here, found, alive, same, moved⟩ | ⟨before, found, same, active⟩ <;>
  rcases (act_scoring acted secondAt secondAlive secondScoring).active with
    ⟨other, event', here', found', alive', same', moved'⟩ | ⟨other, found', same', active'⟩
  · rw [here] at here'
    cases here'
    rfl
  · subst here
    by_contra apart
    have lt := (List.getElem?_eq_some_iff.mp found').1
    apply (clear before found alive v (by rw [moved]; rfl)).2 j lt (Ne.symm apart) other found' active'
    rw [same, same']
    exact ⟨pair.1.symm, pair.2.symm⟩
  · subst here'
    by_contra apart
    have lt := (List.getElem?_eq_some_iff.mp found).1
    apply (clear other found' alive' u (by rw [moved']; rfl)).2 i lt apart before found active
    rwa [same, same']
  · apply sound.alone i j before other found found' active active'
    rwa [same, same']

theorem act_behind {w : World} {label : Label} {statement : Statement} {workers : List Worker}
    {requests : List Request} (sound : Sound w) (clear : EntersClear w label)
    (acted : act w label = some (statement, workers, requests)) {j : Nat} {after : Worker}
    (found : workers[j]? = some after) (alive : after.ended = false) {v : Cursor}
    (scoring : after.pc.scoring = some v) {score : Score} (stored : score ∈ (w.db.run statement).scores)
    (pair : score.IsOf after.call) : score.recordId ≤ v.lastRecord := by
  -- a score of this step is of a worker at its insert
  have old_or_new : score ∈ w.db.scores ∨ ∃ i worker u records, label = .work i .done ∧
      w.workers[i]? = some worker ∧ worker.ended = false ∧ worker.pc = .insert u records ∧
      score.IsOf worker.call ∧ score.recordId ∈ records := by
    rcases act_scores acted with same | ⟨i, worker, u, records, here, present, living, pc, same⟩
    · exact .inl (same ▸ stored)
    · rw [same, List.mem_append, List.mem_map] at stored
      rcases stored with old | ⟨recordId, member, rfl⟩
      · exact .inl old
      · exact .inr ⟨i, worker, u, records, here, present, living, pc, ⟨rfl, rfl⟩, member⟩
  cases act_scoring acted found alive scoring with
  | entered before event here present living same moved =>
    subst here
    rcases old_or_new with old | ⟨i, worker, u, records, here, at_, _, pc, _, _⟩
    · exact (clear before present living v (by rw [moved]; rfl)).1 score old (same ▸ pair)
    · cases here
      rw [present] at at_
      cases at_
      rw [pc] at moved
      cases moved
  | stayed before present living same scoring still =>
    rcases old_or_new with old | ⟨i, worker, u, records, here, at_, living', pc, own, _⟩
    · exact sound.behind j before present living v scoring score old (same ▸ pair)
    · -- the insert would be of a second worker of the pair
      have workerActive : worker.active = true := by simp [Worker.active, living', pc, ScorePc.scoring]
      have beforeActive : before.active = true := Worker.active_iff.mpr ⟨living, v, scoring⟩
      have here' : i = j := by
        apply sound.alone i j worker before at_ present workerActive beforeActive
        rw [same]
        exact ⟨own.1.symm.trans pair.1, own.2.symm.trans pair.2⟩
      subst here'
      rw [present] at at_
      cases at_
      rw [pc] at scoring
      cases scoring
      exact absurd here (still records pc)
  | inserted before u records here present living same pc past =>
    -- the cursor is now at the last record of the batch, its greatest
    obtain ⟨sorted, above⟩ := sound.batch j before present u records pc
    rw [past]
    rcases old_or_new with old | ⟨i, worker, u', records', here', at_, _, pc', _, member⟩
    · have reached := sound.behind j before present living u (by simp [pc, ScorePc.scoring]) score old (same ▸ pair)
      exact reached.trans (lt_getLastD above)
    · rw [here] at here'
      cases here'
      rw [present] at at_
      cases at_
      rw [pc] at pc'
      cases pc'
      exact Paging.le_last sorted _ score.recordId member

theorem act_batch {w : World} {label : Label} {statement : Statement} {workers : List Worker}
    {requests : List Request} (sound : Sound w) (acted : act w label = some (statement, workers, requests)) {j : Nat}
    {after : Worker} (found : workers[j]? = some after) {v : Cursor} {records : List Int}
    (pc : after.pc = .insert v records) :
    records.Pairwise (· < ·) ∧ ∀ recordId ∈ records, v.lastRecord < recordId := by
  cases act_origin acted found with
  | kept before present _ same _ _ => exact sound.batch j before present v records (same ▸ pc)
  | started same _ =>
    rw [pc] at same
    cases same
  | moved before event _ present _ _ now =>
    cases progress : (scoreStep w.db before.flagged before.call before.pc event).2 with
    | returns =>
      rw [now, progress] at pc
      exact sound.batch j before present v records pc
    | throws what =>
      rw [now, progress] at pc
      exact sound.batch j before present v records pc
    | goto next =>
      rw [now, progress] at pc
      have fetched := scoreStep_batch (progress.trans (congrArg Progress.goto pc))
      rw [fetched]
      exact ⟨fetch_sorted _ _ _ _, fun recordId member => fetch_above member⟩

theorem act_unique {w : World} {label : Label} {statement : Statement} {workers : List Worker}
    {requests : List Request} (sound : Sound w) (acted : act w label = some (statement, workers, requests)) :
    (w.db.run statement).scores.Nodup := by
  rcases act_scores acted with same | ⟨i, worker, v, records, _, present, alive, pc, same⟩
  · rw [same]
    exact sound.unique
  · rw [same]
    -- the batch lies above the cursor, every stored score of the pair does not
    obtain ⟨sorted, above⟩ := sound.batch i worker present v records pc
    have distinct : records.Nodup := sorted.imp fun lt => lt.ne
    refine List.Nodup.append sound.unique (distinct.map fun a b equal => (Score.mk.inj equal).2.2) ?_
    intro score old new
    obtain ⟨recordId, member, rfl⟩ := List.mem_map.mp new
    have reached := sound.behind i worker present alive v (by simp [pc, ScorePc.scoring]) _ old ⟨rfl, rfl⟩
    exact absurd (above recordId member) (not_lt.mpr reached)

theorem step_sound (w : World) (label : Label) (next : World) (sound : Sound w) (clear : EntersClear w label)
    (taken : step w label = some next) : Sound next := by
  obtain ⟨statement, workers, requests, acted, rfl⟩ := step_eq_some taken
  exact
    { unique := act_unique sound acted
      behind := fun _ _ found alive _ scoring _ stored pair => act_behind sound clear acted found alive scoring stored pair
      batch := fun _ _ found _ _ pc => act_batch sound acted found pc
      alone := fun _ _ _ _ firstAt secondAt firstActive secondActive pair =>
        act_alone sound clear acted firstAt secondAt firstActive secondActive pair }

theorem scores_unique_of_clear_entries (schedule : List Label) (clear : Steps step EntersClear .init schedule) :
    States step ScoresUnique .init schedule :=
  (states_of_steps step_sound init_sound clear).mono fun _ sound => sound.unique

/-- A request for a pair without a live job, up to the end of its worker, over
the records of one batch. -/
def scoredOnce (i : Nat) (modelRunId jobId : String) : List Label :=
  [.request "d" modelRunId "r", .requestStep 0 .done, .requestStep 0 (.created jobId), .requestStep 0 .done,
    .requestStep 0 .done] ++ List.replicate 13 (.work i .done)

/-- Two models score a dataset that grows in between. -/
def twoModelsScored : List Label :=
  [.ingest 1 "d"] ++ scoredOnce 0 "m" "j" ++ [.ingest 2 "d"] ++ scoredOnce 1 "n" "k"

theorem scores_unique_twoModelsScored :
    (exec step World.init twoModelsScored).map (·.db.scores) =
        some [⟨"d", "m", 1⟩, ⟨"d", "n", 1⟩, ⟨"d", "n", 2⟩] ∧
      States step ScoresUnique World.init twoModelsScored :=
  ⟨by decide +kernel, scores_unique_of_clear_entries twoModelsScored (by decide +kernel)⟩

/-- A second request after the first job has completed finds no live job, and
its worker starts over with a cursor of zero. -/
theorem completed_pair_scored_again : ¬ ∀ schedule : List Label, States step ScoresUnique World.init schedule := by
  intro all
  have repeated : (exec step World.init ([.ingest 1 "d"] ++ scoredOnce 0 "m" "j" ++ scoredOnce 1 "m" "k")).any
      (fun w => decide (¬ w.db.scores.Nodup)) = true := by decide +kernel
  obtain ⟨final, run, twice⟩ := (Option.any_eq_true _ _).mp repeated
  exact of_decide_eq_true twice ((all _).exec run)

end TelemetryLab.Scoring
