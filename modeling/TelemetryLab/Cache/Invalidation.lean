import TelemetryLab.Cache.PcaModelCache

/-! Whether an invalidated model stays out of the cache.

`GetOrCreate` loads without the lock and then stores what it has loaded, so a
call that missed before the invalidation can bring the model back.
-/

set_option autoImplicit false
namespace TelemetryLab.Cache
open Transition

variable {Model : Type}

namespace PcaModelCache

theorem erase_absent {c : PcaModelCache Model} {id : String} (absent : id ∉ c.cache) (other : String) :
    id ∉ c.cache.erase other := by
  rw [AList.mem_erase]
  exact fun both => absent both.2

theorem evictLru_absent {c : PcaModelCache Model} {id : String} (absent : id ∉ c.cache) : id ∉ c.evictLru.cache := by
  unfold evictLru
  split
  · exact absent
  · exact erase_absent absent _

theorem lookupLocked_absent {c : PcaModelCache Model} {id : String} (absent : id ∉ c.cache) (other path : String)
    (now : Int) : id ∉ (c.lookupLocked other path now).1.cache := by
  unfold lookupLocked
  split
  · exact absent
  · split
    · exact erase_absent absent _
    · split
      · simpa using absent
      · exact erase_absent absent _

theorem invalidate_absent {c : PcaModelCache Model} {id : String} (absent : id ∉ c.cache) (other : String) :
    id ∉ (c.invalidate other).cache := by
  unfold invalidate
  split
  · exact absent
  · exact erase_absent absent _

theorem invalidate_removes (c : PcaModelCache Model) (id : String) : id ∉ (c.invalidate id).cache := by
  unfold invalidate
  split
  next missing => exact AList.lookup_eq_none.mp missing
  next entry found => simp [dropEntry, AList.mem_erase]

/-- Only the id itself is stored, and only if it fits. -/
theorem mem_insertLocked_iff {c : PcaModelCache Model} {id : String} (absent : id ∉ c.cache) (other path : String)
    (now : Int) (model : Model) (usage : UInt64) :
    id ∈ (c.insertLocked other path now model usage).cache ↔ id = other ∧ usage ≤ c.maxBytes := by
  have room : id ∉ (c.makeRoom usage).cache :=
    makeRoom_induction (P := fun d => id ∉ d.cache) (fun _ => evictLru_absent) absent usage
  unfold insertLocked
  split
  next large => exact iff_of_false absent fun both => absurd large (UInt64.not_lt.mpr both.2)
  next fits => simp [AList.mem_insert, room, UInt64.not_lt.mp fits]

theorem insertLocked_maxBytes (c : PcaModelCache Model) (other path : String) (now : Int) (model : Model)
    (usage : UInt64) : (c.insertLocked other path now model usage).maxBytes = c.maxBytes := by
  unfold insertLocked
  split
  · rfl
  · exact makeRoom_maxBytes c usage

theorem lookupLocked_maxBytes (c : PcaModelCache Model) (other path : String) (now : Int) :
    (c.lookupLocked other path now).1.maxBytes = c.maxBytes := by
  unfold lookupLocked
  repeat' split
  all_goals rfl

theorem invalidate_maxBytes (c : PcaModelCache Model) (other : String) : (c.invalidate other).maxBytes = c.maxBytes := by
  unfold invalidate
  split <;> rfl

end PcaModelCache

section Runs

variable [DecidableEq Model] (estimateMemoryUsage : Model → UInt64) (id : String)

/-- No call for the id that is between its lookup and its insert can still store a model. -/
def NothingToStore (w : World Model) : Prop :=
  ∀ call ∈ w.calls, call.modelRunId = id → ∀ model, call.loaded = none ∨ call.loaded = some model →
    w.cache.maxBytes < estimateMemoryUsage model

/-- A call of `GetOrCreate` for the id begins. -/
def Label.begins : Label Model → Prop
  | .lookup modelRunId _ _ => modelRunId = id
  | _ => False

def Label.removes (label : Label Model) : Prop := label = .invalidate id ∨ label = .clear

/-- Whatever the callers do after the label, the id is absent as long as no call for it begins. -/
def StaysAbsent (w : World Model) (label : Label Model) : Prop :=
  ∀ later, (∀ next ∈ later, ¬ next.begins id) → ∀ after, step estimateMemoryUsage w label = some after →
    States (step estimateMemoryUsage) (fun w => id ∉ w.cache.cache) after later

variable {estimateMemoryUsage id}

omit [DecidableEq Model] in
theorem NothingToStore.mono {w next : World Model} (idle : NothingToStore estimateMemoryUsage id w)
    (calls : ∀ call ∈ next.calls, call ∈ w.calls ∨ call.modelRunId ≠ id)
    (limit : next.cache.maxBytes = w.cache.maxBytes) : NothingToStore estimateMemoryUsage id next := by
  intro call member named model loaded
  rw [limit]
  exact idle call ((calls call member).resolve_right (not_not.mpr named)) named model loaded

theorem step_absent {w next : World Model} {label : Label Model}
    (now : id ∉ w.cache.cache ∧ NothingToStore estimateMemoryUsage id w) (other : ¬ label.begins id)
    (taken : step estimateMemoryUsage w label = some next) :
    id ∉ next.cache.cache ∧ NothingToStore estimateMemoryUsage id next := by
  obtain ⟨absent, idle⟩ := now
  cases label with
  | lookup modelRunId artifactPath time =>
    have kept := PcaModelCache.lookupLocked_absent absent modelRunId artifactPath time
    have limit := PcaModelCache.lookupLocked_maxBytes w.cache modelRunId artifactPath time
    simp only [step] at taken
    split at taken
    next cache model result =>
      cases taken
      rw [result] at kept limit
      exact ⟨kept, idle.mono (fun _ => .inl) limit⟩
    next cache result =>
      cases taken
      rw [result] at kept limit
      refine ⟨kept, idle.mono (fun call member => ?_) limit⟩
      rcases List.mem_append.mp member with old | new
      · exact .inl old
      · rw [List.mem_singleton.mp new]
        exact .inr other
  | load i outcome =>
    simp only [step] at taken
    split at taken
    next modelRunId artifactPath time model found =>
      cases taken
      refine ⟨absent, fun call member named model' loaded => ?_⟩
      rcases List.mem_or_eq_of_mem_set member with old | rfl
      · exact idle call old named model' loaded
      · -- the call had not loaded yet, so it could have loaded this model
        exact idle _ (List.mem_of_getElem? found) named model' (.inl rfl)
    next =>
      cases taken
      exact ⟨absent, idle.mono (fun call member => .inl (List.mem_of_mem_eraseIdx member)) rfl⟩
    next => cases taken
  | insert i =>
    simp only [step] at taken
    split at taken
    next modelRunId artifactPath time model found =>
      cases taken
      refine ⟨?_, idle.mono (fun call member => .inl (List.mem_of_mem_eraseIdx member))
        (PcaModelCache.insertLocked_maxBytes ..)⟩
      rw [PcaModelCache.mem_insertLocked_iff absent]
      rintro ⟨named, fits⟩
      exact absurd (idle _ (List.mem_of_getElem? found) named.symm model (.inr rfl)) (UInt64.not_lt.mpr fits)
    next => cases taken
  | invalidate modelRunId =>
    cases taken
    exact ⟨PcaModelCache.invalidate_absent absent modelRunId,
      idle.mono (fun _ => .inl) (PcaModelCache.invalidate_maxBytes _ _)⟩
  | clear =>
    cases taken
    exact ⟨AList.notMem_empty id, idle.mono (fun _ => .inl) rfl⟩
  | rehash order =>
    simp only [step] at taken
    split at taken
    next same =>
      cases taken
      refine ⟨fun stored => absent ?_, idle.mono (fun _ => .inl) rfl⟩
      exact ((same.map Sigma.fst).mem_iff).mp stored
    next => cases taken

theorem removes_absent {w next : World Model} {label : Label Model} (removes : label.removes id)
    (taken : step estimateMemoryUsage w label = some next) :
    id ∉ next.cache.cache ∧ next.calls = w.calls ∧ next.cache.maxBytes = w.cache.maxBytes := by
  rcases removes with rfl | rfl
  · cases taken
    exact ⟨PcaModelCache.invalidate_removes _ _, rfl, PcaModelCache.invalidate_maxBytes _ _⟩
  · cases taken
    exact ⟨AList.notMem_empty id, rfl, rfl⟩

/-- A call that has loaded a model stores it if it fits. -/
theorem insert_stores {w : World Model} {i : Nat} {artifactPath : String} {time : Int} {model : Model}
    (absent : id ∉ w.cache.cache) (found : w.calls[i]? = some ⟨id, artifactPath, time, some model⟩)
    (fits : estimateMemoryUsage model ≤ w.cache.maxBytes) :
    ∃ next, step estimateMemoryUsage w (.insert i) = some next ∧ id ∈ next.cache.cache := by
  simp only [step, found]
  exact ⟨_, rfl, (PcaModelCache.mem_insertLocked_iff absent ..).mpr ⟨rfl, fits⟩⟩

/-- A call in flight can finish after the removal. -/
theorem stored_again {w : World Model} {i : Nat} {call : PendingCall Model} {model : Model}
    (absent : id ∉ w.cache.cache) (found : w.calls[i]? = some call) (named : call.modelRunId = id)
    (loads : call.loaded = none ∨ call.loaded = some model) (fits : estimateMemoryUsage model ≤ w.cache.maxBytes) :
    ∃ later : List (Label Model), (∀ next ∈ later, ¬ next.begins id) ∧
      ∃ final, exec (step estimateMemoryUsage) w later = some final ∧ id ∈ final.cache.cache := by
  obtain ⟨modelRunId, artifactPath, time, loaded⟩ := call
  cases named
  rcases loads with rfl | rfl
  · refine ⟨[.load i (some model), .insert i], by simp [Label.begins], ?_⟩
    obtain ⟨inside, -⟩ := List.getElem?_eq_some_iff.mp found
    have loadTaken : step estimateMemoryUsage w (.load i (some model)) =
        some { w with calls := w.calls.set i ⟨modelRunId, artifactPath, time, some model⟩ } := by
      simp only [step, found]
    obtain ⟨final, stored, present⟩ := insert_stores
      (w := { w with calls := w.calls.set i ⟨modelRunId, artifactPath, time, some model⟩ }) absent
      (List.getElem?_set_self inside) fits
    refine ⟨final, ?_, present⟩
    simp only [exec, loadTaken, Option.bind_some, stored]
  · refine ⟨[.insert i], by simp [Label.begins], ?_⟩
    obtain ⟨final, stored, present⟩ := insert_stores absent found fits
    refine ⟨final, ?_, present⟩
    rw [exec_singleton, stored]

/-- A removed model stays absent exactly if no call for it was in flight that can
still load a model the cache has room for. -/
theorem stays_absent_iff (estimateMemoryUsage : Model → UInt64) (id : String) (w : World Model) {label : Label Model}
    (removes : label.removes id) :
    StaysAbsent estimateMemoryUsage id w label ↔ NothingToStore estimateMemoryUsage id w := by
  obtain ⟨after, taken⟩ : ∃ after, step estimateMemoryUsage w label = some after := by
    rcases removes with rfl | rfl <;> exact ⟨_, rfl⟩
  obtain ⟨absent, sameCalls, sameLimit⟩ := removes_absent removes taken
  constructor
  · intro stays call member named model loads
    by_contra fits
    rw [← sameCalls] at member
    obtain ⟨i, inside, rfl⟩ := List.getElem_of_mem member
    obtain ⟨later, others, final, run, present⟩ := stored_again absent (List.getElem?_eq_getElem inside) named loads
      (sameLimit ▸ UInt64.not_lt.mp fits)
    exact (stays later others after taken).exec run present
  · intro idle later others next moved
    cases taken.symm.trans moved
    have first : id ∉ after.cache.cache ∧ NothingToStore estimateMemoryUsage id after :=
      ⟨absent, idle.mono (fun call member => .inl (sameCalls ▸ member)) sameLimit⟩
    have quiet : Steps (step estimateMemoryUsage) (fun _ label => ¬ label.begins id) after later :=
      steps_of_labels (fun label member _ => others label member) after
    exact (states_of_steps (fun _ _ _ now other taken => step_absent now other taken) first quiet).mono
      fun _ now => now.1

/-- Another model is being loaded when this one is invalidated. -/
theorem stays_absent_otherLoad :
    ∃ w, exec (step fun _ : Unit => 368) (World.init {}) [.lookup "m2" "artifacts/pca/m2/model.json" 0] = some w ∧
      Label.removes "m1" (.invalidate "m1" : Label Unit) ∧
        StaysAbsent (fun _ : Unit => 368) "m1" w (.invalidate "m1") := by
  refine ⟨_, rfl, .inl rfl, (stays_absent_iff _ "m1" _ (.inl rfl)).mpr ?_⟩
  intro call member named
  cases List.mem_singleton.mp member
  exact absurd named (by decide)

end Runs

/-- A request has loaded the model when another invalidates it, and stores it afterwards. -/
def loadedBefore : List (Label Unit) :=
  [.lookup "m1" "artifacts/pca/m1/model.json" 0, .load 0 (some ())]

theorem invalidation_undone :
    ∃ w, exec (step fun _ : Unit => 368) (World.init {}) loadedBefore = some w ∧
      ¬ StaysAbsent (fun _ : Unit => 368) "m1" w (.invalidate "m1") := by
  refine ⟨_, rfl, fun stays => ?_⟩
  have visited := stays [.insert 0] (by simp [Label.begins]) _ rfl
  have stored := visited.exec (L := Label Unit) rfl
  revert stored
  decide

end TelemetryLab.Cache
