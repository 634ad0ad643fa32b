import TelemetryLab.Cache.EvictionOrder

/-! Byte accounting of the model cache over arbitrary interleavings.

The counter is exact as long as every store lands on a free id: `cache_[id] = …`
replaces a live entry without subtracting its bytes. Two misses of one id that
both load before either stores reach that assignment, unless the entry of the
first one is evicted for the second.
-/

set_option autoImplicit false
namespace TelemetryLab.Cache
open Transition

variable {Model : Type}

namespace PcaModelCache

def bytes (entry : CacheEntry Model) : ℕ := entry.memoryUsage.toNat

/-- Sum of `memory_usage` over the entries of `cache_`. -/
def storedBytes (c : PcaModelCache Model) : ℕ := Table.total bytes c.cache

def Counted (c : PcaModelCache Model) : Prop := c.currentBytes.toNat = c.storedBytes

structure Accounted (c : PcaModelCache Model) : Prop where
  counted : c.Counted
  bounded : c.currentBytes ≤ c.maxBytes

instance (c : PcaModelCache Model) : Decidable c.Accounted :=
  decidable_of_iff (c.currentBytes.toNat = c.storedBytes ∧ c.currentBytes ≤ c.maxBytes)
    ⟨fun h => ⟨h.1, h.2⟩, fun h => ⟨h.counted, h.bounded⟩⟩

/-- Dropping a stored entry subtracts exactly its bytes, without wrapping. -/
theorem dropEntry_toNat {c : PcaModelCache Model} {modelRunId : String} {entry : CacheEntry Model}
    (found : c.cache.lookup modelRunId = some entry) (counted : c.Counted) :
    (c.dropEntry modelRunId entry).Counted ∧
      (c.dropEntry modelRunId entry).currentBytes.toNat + entry.memoryUsage.toNat = c.currentBytes.toNat := by
  have within : entry.memoryUsage.toNat ≤ c.storedBytes := Table.le_total bytes found
  have split := Table.total_erase bytes found
  have below : entry.memoryUsage ≤ c.currentBytes := UInt64.le_iff_toNat_le.mpr (counted ▸ within)
  have exact_sub : (c.currentBytes - entry.memoryUsage).toNat =
      c.currentBytes.toNat - entry.memoryUsage.toNat := UInt64.toNat_sub_of_le _ _ below
  simp only [Counted, storedBytes, dropEntry, bytes] at counted within split ⊢
  omega

theorem dropEntry_accounted {c : PcaModelCache Model} {modelRunId : String} {entry : CacheEntry Model}
    (found : c.cache.lookup modelRunId = some entry) (holds : c.Accounted) :
    (c.dropEntry modelRunId entry).Accounted := by
  obtain ⟨counted, smaller⟩ := dropEntry_toNat found holds.counted
  refine ⟨counted, UInt64.le_iff_toNat_le.mpr ?_⟩
  have bound := UInt64.le_iff_toNat_le.mp holds.bounded
  simp only [dropEntry] at smaller ⊢
  omega

/-- Only the counter, the limit and the stored entries matter for the accounting. -/
theorem Accounted.of_eq {c d : PcaModelCache Model} (holds : c.Accounted) (current : d.currentBytes = c.currentBytes)
    (limit : d.maxBytes = c.maxBytes) (stored : d.storedBytes = c.storedBytes) : d.Accounted := by
  refine ⟨?_, ?_⟩
  · rw [Counted, current, stored]
    exact holds.counted
  · rw [current, limit]
    exact holds.bounded

theorem evictLru_accounted (c : PcaModelCache Model) (holds : c.Accounted) : c.evictLru.Accounted := by
  rcases evictLru_cases c with ⟨_, same⟩ | ⟨modelRunId, entry, found, evicted⟩
  · rw [same]
    exact holds
  · rw [evicted]
    exact (dropEntry_accounted found holds).of_eq rfl rfl rfl

theorem makeRoom_accounted {c : PcaModelCache Model} (holds : c.Accounted) (usage : UInt64) :
    (c.makeRoom usage).Accounted :=
  makeRoom_induction evictLru_accounted holds usage

theorem lookupLocked_accounted {c : PcaModelCache Model} (holds : c.Accounted)
    (modelRunId artifactPath : String) (now : Int) :
    (c.lookupLocked modelRunId artifactPath now).1.Accounted := by
  unfold lookupLocked
  split
  next => exact holds.of_eq rfl rfl rfl
  next entry found =>
    split
    · exact (dropEntry_accounted found holds).of_eq rfl rfl rfl
    · split
      · refine holds.of_eq rfl rfl ?_
        exact Table.total_modify bytes (fun e => { e with lastAccess := now }) (fun _ => rfl) c.cache modelRunId
      · exact (dropEntry_accounted found holds).of_eq rfl rfl rfl

theorem invalidate_accounted {c : PcaModelCache Model} (holds : c.Accounted) (modelRunId : String) :
    (c.invalidate modelRunId).Accounted := by
  unfold invalidate
  split
  · exact holds
  next entry found => exact dropEntry_accounted found holds

theorem clear_accounted (c : PcaModelCache Model) : c.clear.Accounted :=
  ⟨rfl, UInt64.le_iff_toNat_le.mpr (Nat.zero_le _)⟩

/-- The store of one entry is accounted for when it replaces no bytes and the
new total, as a number, stays within the limit. -/
structure StoresCleanly (room : PcaModelCache Model) (modelRunId : String) (usage : UInt64) : Prop where
  replaces_nothing : ∀ old, room.cache.lookup modelRunId = some old → old.memoryUsage = 0
  fits : room.currentBytes.toNat + usage.toNat ≤ room.maxBytes.toNat

/-- Bytes of the entry, if any, that a store on this id overwrites. -/
def overwrittenBytes (room : PcaModelCache Model) (modelRunId : String) : ℕ :=
  (room.cache.lookup modelRunId).elim 0 bytes

theorem overwrittenBytes_eq_zero {room : PcaModelCache Model} {modelRunId : String} :
    room.overwrittenBytes modelRunId = 0 ↔
      ∀ old, room.cache.lookup modelRunId = some old → old.memoryUsage = 0 := by
  unfold overwrittenBytes
  cases found : room.cache.lookup modelRunId with
  | none => simp
  | some old => simp [bytes, ← UInt64.toNat_inj]

theorem storedBytes_insert (room : PcaModelCache Model) (modelRunId : String) (entry : CacheEntry Model) :
    Table.total bytes (room.cache.insert modelRunId entry) + room.overwrittenBytes modelRunId =
      room.storedBytes + bytes entry := by
  rw [Table.total_insert]
  unfold overwrittenBytes storedBytes
  cases found : room.cache.lookup modelRunId with
  | none =>
    rw [Table.total_erase_of_not_mem bytes (AList.lookup_eq_none.mp found)]
    simp only [Option.elim_none]
    omega
  | some old =>
    have split := Table.total_erase bytes found
    simp only [Option.elim_some]
    omega

theorem overwrittenBytes_lt (room : PcaModelCache Model) (modelRunId : String) :
    room.overwrittenBytes modelRunId < 2 ^ 64 := by
  unfold overwrittenBytes
  cases room.cache.lookup modelRunId with
  | none => exact Nat.two_pow_pos 64
  | some old => exact old.memoryUsage.toNat_lt

theorem insertLocked_accounted_iff {c : PcaModelCache Model} (holds : c.Accounted)
    (modelRunId artifactPath : String) (now : Int) (model : Model) (usage : UInt64) :
    (c.insertLocked modelRunId artifactPath now model usage).Accounted ↔
      (usage ≤ c.maxBytes → (c.makeRoom usage).StoresCleanly modelRunId usage) := by
  unfold insertLocked
  split
  next large =>
    have refused : ¬ usage ≤ c.maxBytes := UInt64.not_le.mpr large
    exact ⟨fun _ within => absurd within refused, fun _ => holds⟩
  next small =>
    have room := makeRoom_accounted holds usage
    have stored := storedBytes_insert (c.makeRoom usage) modelRunId ⟨model, now, artifactPath, usage⟩
    have counter : (c.makeRoom usage).currentBytes.toNat = (c.makeRoom usage).storedBytes := room.counted
    have smallOld := overwrittenBytes_lt (c.makeRoom usage) modelRunId
    have smallLimit := (c.makeRoom usage).maxBytes.toNat_lt
    have added := UInt64.toNat_add (c.makeRoom usage).currentBytes usage
    constructor
    · rintro ⟨counted, bounded⟩ _
      have bounded := UInt64.le_iff_toNat_le.mp bounded
      simp only [Counted, storedBytes, bytes] at counted bounded stored counter
      -- The counter wraps by a multiple of 2^64, an overwritten entry is smaller than that.
      refine ⟨overwrittenBytes_eq_zero.mp ?_, ?_⟩ <;> omega
    · intro clean
      obtain ⟨nothing, fits⟩ := clean (UInt64.not_lt.mp small)
      have overwritten := overwrittenBytes_eq_zero.mpr nothing
      refine ⟨?_, UInt64.le_iff_toNat_le.mpr ?_⟩
      · simp only [Counted, storedBytes, bytes] at stored counter ⊢
        omega
      · simp only
        omega

/-! ## The state before a store -/

theorem storedBytes_eq (c : PcaModelCache Model) : c.storedBytes = Lru.bytes c.evictionOrder := by
  have sizes : (c.cache.entries.map abstractEntry).map Lru.Entry.size =
      c.cache.entries.map fun stored => bytes stored.2 := by
    rw [List.map_map]
    rfl
  rw [Lru.bytes, (c.evictionOrder_perm.map Lru.Entry.size).sum_eq, sizes]
  rfl

theorem Accounted.bytes_eq {c : PcaModelCache Model} (holds : c.Accounted) :
    c.currentBytes.toNat = Lru.bytes c.evictionOrder :=
  holds.counted.trans c.storedBytes_eq

/-- The test of `EnsureCapacity` is about numbers as long as the sum does not wrap. -/
theorem exceeds_iff {c : PcaModelCache Model} (holds : c.Accounted) {usage : UInt64}
    (resident : c.currentBytes.toNat + usage.toNat < 2 ^ 64) :
    c.maxBytes < c.currentBytes + usage ↔ c.limits.bytes < Lru.bytes c.evictionOrder + usage.toNat := by
  rw [UInt64.lt_iff_toNat_lt, UInt64.toNat_add, Nat.mod_eq_of_lt resident, holds.bytes_eq]
  rfl

theorem limits_evictLru (c : PcaModelCache Model) : c.evictLru.limits = c.limits := by
  unfold evictLru
  split
  · rfl
  · rfl

theorem ensureCapacityLoop_order {usage : UInt64} (rounds : Nat) {c : PcaModelCache Model} (holds : c.Accounted)
    (resident : c.currentBytes.toNat + usage.toNat < 2 ^ 64) (enough : c.cache.entries.length ≤ rounds) :
    (ensureCapacityLoop usage rounds c).evictionOrder = Lru.shed c.limits.bytes usage.toNat c.evictionOrder := by
  induction rounds generalizing c with
  | zero =>
    have none_ : c.evictionOrder = [] := List.eq_nil_of_length_eq_zero (by rw [c.length_evictionOrder]; omega)
    rw [ensureCapacityLoop, none_, Lru.shed]
  | succ rounds ih =>
    have counted := c.length_evictionOrder
    have evicted := evictionOrder_evictLru c
    have exceeds := exceeds_iff holds resident
    rw [ensureCapacityLoop]
    cases order : c.evictionOrder with
    | nil =>
      rw [order] at counted
      rw [if_neg fun both => both.1 (List.eq_nil_of_length_eq_zero counted.symm), order, Lru.shed]
    | cons oldest rest =>
      rw [order] at counted evicted exceeds
      have nonempty : c.cache.entries ≠ [] := fun empty => by simp [empty] at counted
      have after := evictLru_accounted c holds
      have shorter := c.evictLru.length_evictionOrder
      have before := holds.bytes_eq
      have later := after.bytes_eq
      rw [evicted, List.tail_cons] at shorter later
      rw [order] at before
      have fewer : Lru.bytes rest ≤ Lru.bytes (oldest :: rest) := Lru.bytes_le_of_sublist (List.sublist_cons_self _ _)
      rw [Lru.shed]
      by_cases full : c.limits.bytes < Lru.bytes (oldest :: rest) + usage.toNat
      · rw [if_pos ⟨nonempty, exceeds.mpr full⟩, if_pos full, ih after (by omega), limits_evictLru, evicted,
          List.tail_cons]
        rw [List.length_cons] at counted
        omega
      · rw [if_neg fun both => full (exceeds.mp both.2), if_neg full, order]

theorem limits_ensureCapacity (c : PcaModelCache Model) (usage : UInt64) : (c.ensureCapacity usage).limits = c.limits :=
  ensureCapacity_induction (P := fun d => d.limits = c.limits) (fun d same => (limits_evictLru d).trans same) rfl usage

theorem limits_makeRoom (c : PcaModelCache Model) (usage : UInt64) : (c.makeRoom usage).limits = c.limits :=
  makeRoom_induction (P := fun d => d.limits = c.limits) (fun d same => (limits_evictLru d).trans same) rfl usage

/-- What is left when room has been made: the abstract cache would keep the same entries. -/
theorem makeRoom_order {c : PcaModelCache Model} (holds : c.Accounted) {usage : UInt64}
    (resident : c.currentBytes.toNat + usage.toNat < 2 ^ 64) :
    (c.makeRoom usage).evictionOrder = Lru.kept c.limits usage.toNat c.evictionOrder := by
  have roomy : (c.ensureCapacity usage).evictionOrder = Lru.shed c.limits.bytes usage.toNat c.evictionOrder :=
    ensureCapacityLoop_order _ holds resident le_rfl
  have entries : (c.ensureCapacity usage).maxEntries.toNat = c.limits.entries :=
    congrArg Lru.Limits.entries (limits_ensureCapacity c usage)
  unfold makeRoom Lru.kept
  dsimp only
  rw [entries, ← length_evictionOrder, ← roomy]
  split
  · exact evictionOrder_evictLru _
  · rfl

/-- An entry of this id that has bytes stays when room is made: it and the ones that go after it leave room, and they
are few enough or leave room for the next older one as well. -/
def Outlasts (c : PcaModelCache Model) (modelRunId : String) (need : ℕ) : Prop :=
  ∃ entry after, entry :: after <:+ c.evictionOrder ∧ entry.key = modelRunId ∧ entry.size ≠ 0 ∧
    Lru.bytes (entry :: after) + need ≤ c.limits.bytes ∧ ((entry :: after).length < c.limits.entries ∨
      ∃ older, older :: entry :: after <:+ c.evictionOrder ∧
        Lru.bytes (older :: entry :: after) + need ≤ c.limits.bytes)

/-- The cache in which a model can be stored under an id without a flaw in the accounting. Where the sum wraps nothing
is evicted for its bytes, but one entry may be for the number of entries. -/
def Admits (c : PcaModelCache Model) (modelRunId : String) (usage : UInt64) : Prop :=
  if c.currentBytes.toNat + usage.toNat < 2 ^ 64 then ¬ c.Outlasts modelRunId usage.toNat
  else c.limits.entries ≤ c.evictionOrder.length ∧ Lru.bytes c.evictionOrder.tail + usage.toNat ≤ c.limits.bytes ∧
    ∀ entry ∈ c.evictionOrder.tail, entry.key = modelRunId → entry.size = 0

theorem storesCleanly_iff_order {room : PcaModelCache Model} (holds : room.Accounted) {modelRunId : String}
    {usage : UInt64} : room.StoresCleanly modelRunId usage ↔
      Lru.bytes room.evictionOrder + usage.toNat ≤ room.limits.bytes ∧
        ∀ entry ∈ room.evictionOrder, entry.key = modelRunId → entry.size = 0 := by
  have replaced : (∀ old, room.cache.lookup modelRunId = some old → old.memoryUsage = 0) ↔
      ∀ entry ∈ room.evictionOrder, entry.key = modelRunId → entry.size = 0 := by
    constructor
    · rintro nothing entry member rfl
      obtain ⟨stored, found, same⟩ := mem_evictionOrder.mp member
      have zero := nothing stored found
      rw [← same, abstractEntry, zero]
      rfl
    · intro empty old found
      have zero := empty (abstractEntry ⟨modelRunId, old⟩) (mem_evictionOrder.mpr ⟨old, found, rfl⟩) rfl
      exact UInt64.toNat_inj.mp zero
  rw [← replaced, ← holds.bytes_eq, and_comm]
  exact ⟨fun clean => ⟨clean.replaces_nothing, clean.fits⟩, fun both => ⟨both.1, both.2⟩⟩

/-- A sum that wraps passes the test of the size. -/
theorem ensureCapacityLoop_of_wraps {c : PcaModelCache Model} (bounded : c.currentBytes ≤ c.maxBytes) {usage : UInt64}
    (small : usage ≤ c.maxBytes) (wraps : ¬ c.currentBytes.toNat + usage.toNat < 2 ^ 64) (rounds : Nat) :
    ensureCapacityLoop usage rounds c = c := by
  have fits : ¬ c.maxBytes < c.currentBytes + usage := by
    have added := UInt64.toNat_add c.currentBytes usage
    have held := UInt64.le_iff_toNat_le.mp bounded
    have least := UInt64.le_iff_toNat_le.mp small
    have limit := c.maxBytes.toNat_lt
    rw [UInt64.lt_iff_toNat_lt, added]
    omega
  cases rounds with
  | zero => rfl
  | succ rounds => rw [ensureCapacityLoop, if_neg fun both => fits both.2]

/-- Whether a store is clean can be read off the state before room is made for it. -/
theorem storesCleanly_iff_admits {c : PcaModelCache Model} (holds : c.Accounted) {usage : UInt64}
    (small : usage ≤ c.maxBytes) (modelRunId : String) :
    (c.makeRoom usage).StoresCleanly modelRunId usage ↔ c.Admits modelRunId usage := by
  have within : usage.toNat ≤ c.limits.bytes := UInt64.le_iff_toNat_le.mp small
  rw [storesCleanly_iff_order (makeRoom_accounted holds usage), limits_makeRoom, Admits]
  split
  next resident =>
    -- the loop of `EnsureCapacity` alone keeps the bytes within their limit
    rw [makeRoom_order holds resident, and_iff_right (Lru.kept_fits within c.evictionOrder)]
    constructor
    · rintro empty ⟨entry, after, suffix, keyed, some_, room⟩
      have stays := (Lru.suffix_kept_iff (List.cons_ne_nil entry after) suffix).mpr room
      exact some_ (empty entry (stays.subset List.mem_cons_self) keyed)
    · intro gone entry member keyed
      by_contra some_
      obtain ⟨before, after, split⟩ := List.append_of_mem member
      have stays : entry :: after <:+ Lru.kept c.limits usage.toNat c.evictionOrder := ⟨before, split.symm⟩
      have suffix := stays.trans (Lru.kept_suffix c.limits usage.toNat c.evictionOrder)
      exact gone ⟨entry, after, suffix, keyed, some_,
        (Lru.suffix_kept_iff (List.cons_ne_nil entry after) suffix).mp stays⟩
  next wraps =>
    have entries : c.maxEntries.toNat = c.limits.entries := rfl
    have bytesAll := holds.bytes_eq
    rw [makeRoom, ensureCapacity, ensureCapacityLoop_of_wraps holds.bounded small wraps, entries, ← length_evictionOrder]
    split
    next full => rw [evictionOrder_evictLru, and_iff_right full]
    next free =>
      have tooMuch : ¬ Lru.bytes c.evictionOrder + usage.toNat ≤ c.limits.bytes := by
        have most : c.limits.bytes < 2 ^ 64 := c.maxBytes.toNat_lt
        omega
      exact ⟨fun clean => absurd clean.1 tooMuch, fun admitted => absurd admitted.1 free⟩

end PcaModelCache

/-! ## Whole runs -/

variable [DecidableEq Model] (estimateMemoryUsage : Model → UInt64)

/-- The state before the store of a pending call admits it. Only this step can
break the accounting; every other label is unconstrained. -/
def NoClobber (w : World Model) : Label Model → Prop
  | .insert i => ∀ call model, w.calls[i]? = some call → call.loaded = some model →
      estimateMemoryUsage model ≤ w.cache.maxBytes →
      w.cache.Admits call.modelRunId (estimateMemoryUsage model)
  | _ => True

theorem step_accounted_iff {w next : World Model} {label : Label Model} (holds : w.cache.Accounted)
    (taken : step estimateMemoryUsage w label = some next) :
    next.cache.Accounted ↔ NoClobber estimateMemoryUsage w label := by
  cases label with
  | lookup modelRunId artifactPath now =>
    have kept := PcaModelCache.lookupLocked_accounted holds modelRunId artifactPath now
    simp only [step] at taken
    split at taken <;> cases taken <;> simp_all [NoClobber]
  | load i outcome =>
    simp only [step] at taken
    split at taken <;> cases taken <;> simpa [NoClobber] using holds
  | insert i =>
    simp only [step] at taken
    split at taken
    next modelRunId artifactPath now model found =>
      -- the one step that decides: the store of a pending call
      cases taken
      simp only [PcaModelCache.insertLocked_accounted_iff holds, NoClobber, found, Option.some.injEq]
      constructor
      · rintro clean call loaded rfl same small
        cases same
        exact (PcaModelCache.storesCleanly_iff_admits holds small modelRunId).mp (clean small)
      · intro admitted small
        exact (PcaModelCache.storesCleanly_iff_admits holds small modelRunId).mpr (admitted _ model rfl rfl small)
    next => cases taken
  | invalidate modelRunId =>
    cases taken
    simpa [NoClobber] using PcaModelCache.invalidate_accounted holds modelRunId
  | clear =>
    cases taken
    simpa [NoClobber] using PcaModelCache.clear_accounted w.cache
  | rehash order =>
    simp only [step] at taken
    split at taken
    next same =>
      cases taken
      -- the sum over the entries does not see their order
      have kept : ({ w.cache with cache := order } : PcaModelCache Model).Accounted :=
        holds.of_eq rfl rfl (Table.total_perm PcaModelCache.bytes same)
      simpa [NoClobber] using kept
    next => cases taken

/-- The byte counter is exact and within its limit in every state of a run if
and only if no store of the run replaces a live entry or wraps the counter. -/
theorem accounting_iff_no_clobber (args : PcaModelCacheArgs) (schedule : List (Label Model)) :
    States (step estimateMemoryUsage) (fun w => w.cache.Accounted) (World.init args) schedule ↔
      Steps (step estimateMemoryUsage) (NoClobber estimateMemoryUsage) (World.init args) schedule :=
  states_iff_steps (fun _ holds => holds)
    (fun _ _ _ holds met taken => (step_accounted_iff estimateMemoryUsage holds taken).mpr met)
    (fun _ _ _ holds taken good => (step_accounted_iff estimateMemoryUsage holds taken).mp good)
    schedule (PcaModelCache.clear_accounted (.ofArgs args))

/-- Two requests miss on the same id, both load the artifact, and both store it. -/
def doubleMiss : List (Label Unit) :=
  [.lookup "m1" "artifacts/pca/m1/model.json" 0, .lookup "m1" "artifacts/pca/m1/model.json" 1,
   .load 0 (some ()), .load 1 (some ()), .insert 0, .insert 0]

theorem double_miss_drifts :
    ∃ w, exec (step fun _ : Unit => 368) (World.init { maxEntries := 10, maxBytes := 4096, ttlSeconds := 60 })
        doubleMiss = some w ∧
      w.cache.currentBytes = 736 ∧ w.cache.storedBytes = 368 ∧ ¬ w.cache.Accounted := by
  refine ⟨_, rfl, ?_⟩
  decide

end TelemetryLab.Cache
