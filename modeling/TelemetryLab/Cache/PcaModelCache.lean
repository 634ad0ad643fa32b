import TelemetryLab.Lib.Table
import TelemetryLab.Lib.Transition

/-! The in-memory cache of PCA models (`pca_model_cache.cpp`).

`size_t` is `UInt64`, so the byte counter wraps where the C++ one does. The
iteration order of the `unordered_map` is the order of the entries, and the
`rehash` label changes it at any time: nothing below may depend on it.
`GetOrCreate` drops the lock while it loads the artifact, hence it is three
steps of the system, and a call between two of them is a `PendingCall`.
-/

set_option autoImplicit false
namespace TelemetryLab.Cache

structure CacheEntry (Model : Type) where
  model : Model
  lastAccess : Int
  artifactPath : String
  memoryUsage : UInt64
  deriving DecidableEq

structure PcaModelCacheArgs where
  maxEntries : UInt64 := 100
  maxBytes : UInt64 := 512 * 1024 * 1024
  ttlSeconds : Int := 3600
  deriving DecidableEq

structure PcaModelCache (Model : Type) where
  maxEntries : UInt64
  maxBytes : UInt64
  currentBytes : UInt64
  ttl : Int
  cache : Table String (CacheEntry Model)
  hits : Int
  misses : Int
  evictions : Int

variable {Model : Type}

def PcaModelCache.ofArgs (args : PcaModelCacheArgs) : PcaModelCache Model :=
  ⟨args.maxEntries, args.maxBytes, 0, args.ttlSeconds, ∅, 0, 0, 0⟩

/-- Clock readings count nanoseconds, the time to live counts seconds. -/
def nanosPerSecond : Int := 1000000000

namespace PcaModelCache

/-- `current_bytes_ -= it->second.memory_usage; cache_.erase(it);` -/
def dropEntry (c : PcaModelCache Model) (modelRunId : String) (entry : CacheEntry Model) :
    PcaModelCache Model :=
  { c with currentBytes := c.currentBytes - entry.memoryUsage, cache := c.cache.erase modelRunId }

/-- The scan of `EvictLru`: the first entry of least access time in iteration order. -/
def oldest : Sigma (fun _ : String => CacheEntry Model) → List (Sigma fun _ : String => CacheEntry Model) →
    Sigma (fun _ : String => CacheEntry Model)
  | best, [] => best
  | best, entry :: rest => oldest (if entry.2.lastAccess < best.2.lastAccess then entry else best) rest

def evictLru (c : PcaModelCache Model) : PcaModelCache Model :=
  match c.cache.entries with
  | [] => c
  | first :: rest =>
    let victim := oldest first (first :: rest)
    { c.dropEntry victim.1 victim.2 with evictions := c.evictions + 1 }

/-- The loop of `EnsureCapacity`; every round evicts, so the number of entries
bounds the number of rounds. -/
def ensureCapacityLoop (additionalBytes : UInt64) : Nat → PcaModelCache Model → PcaModelCache Model
  | 0, c => c
  | rounds + 1, c =>
    if c.cache.entries ≠ [] ∧ c.maxBytes < c.currentBytes + additionalBytes then
      ensureCapacityLoop additionalBytes rounds c.evictLru
    else c

def ensureCapacity (c : PcaModelCache Model) (additionalBytes : UInt64) : PcaModelCache Model :=
  ensureCapacityLoop additionalBytes c.cache.entries.length c

/-- What `GetOrCreate` does between taking the lock again and storing the entry. -/
def makeRoom (c : PcaModelCache Model) (usage : UInt64) : PcaModelCache Model :=
  let roomy := c.ensureCapacity usage
  if roomy.maxEntries.toNat ≤ roomy.cache.entries.length then roomy.evictLru else roomy

/-- First locked piece of `GetOrCreate`; `none` is a miss. -/
def lookupLocked (c : PcaModelCache Model) (modelRunId artifactPath : String) (now : Int) :
    PcaModelCache Model × Option Model :=
  match c.cache.lookup modelRunId with
  | none => ({ c with misses := c.misses + 1 }, none)
  | some entry =>
    -- an expired entry is dropped whatever its path
    if c.ttl * nanosPerSecond < now - entry.lastAccess then
      ({ c.dropEntry modelRunId entry with misses := c.misses + 1 }, none)
    else if entry.artifactPath = artifactPath then
      ({ c with hits := c.hits + 1,
                cache := Table.modify modelRunId (fun e => { e with lastAccess := now }) c.cache },
       some entry.model)
    -- the path has changed: reload
    else ({ c.dropEntry modelRunId entry with misses := c.misses + 1 }, none)

/-- Second locked piece of `GetOrCreate`, after a successful load. -/
def insertLocked (c : PcaModelCache Model) (modelRunId artifactPath : String) (now : Int)
    (model : Model) (usage : UInt64) : PcaModelCache Model :=
  -- too large to be cached at all, but returned to the caller
  if c.maxBytes < usage then c
  else
    -- the id is not looked up again: an entry stored since the miss is replaced
    let room := c.makeRoom usage
    { room with
      cache := room.cache.insert modelRunId ⟨model, now, artifactPath, usage⟩
      currentBytes := room.currentBytes + usage }

def invalidate (c : PcaModelCache Model) (modelRunId : String) : PcaModelCache Model :=
  match c.cache.lookup modelRunId with
  | none => c
  | some entry => c.dropEntry modelRunId entry

def clear (c : PcaModelCache Model) : PcaModelCache Model :=
  { c with cache := ∅, currentBytes := 0 }

/-! ## Effects of the locked pieces -/

theorem oldest_mem (best : Sigma fun _ : String => CacheEntry Model)
    (entries : List (Sigma fun _ : String => CacheEntry Model)) :
    oldest best entries = best ∨ oldest best entries ∈ entries := by
  induction entries generalizing best with
  | nil => exact .inl rfl
  | cons entry rest ih =>
    simp only [oldest]
    rcases ih (if entry.2.lastAccess < best.2.lastAccess then entry else best) with same | member
    · rw [same]
      split
      · exact .inr List.mem_cons_self
      · exact .inl rfl
    · exact .inr (List.mem_cons_of_mem _ member)

/-- The scan of `EvictLru` finds an entry of least access time. -/
theorem oldest_le (best : Sigma fun _ : String => CacheEntry Model)
    (stored : List (Sigma fun _ : String => CacheEntry Model)) :
    (oldest best stored).2.lastAccess ≤ best.2.lastAccess ∧
      ∀ other ∈ stored, (oldest best stored).2.lastAccess ≤ other.2.lastAccess := by
  induction stored generalizing best with
  | nil => exact ⟨le_rfl, fun other member => absurd member List.not_mem_nil⟩
  | cons entry rest ih =>
    rw [oldest]
    obtain ⟨least, others⟩ := ih (if entry.2.lastAccess < best.2.lastAccess then entry else best)
    have bound : (if entry.2.lastAccess < best.2.lastAccess then entry else best).2.lastAccess ≤ best.2.lastAccess ∧
        (if entry.2.lastAccess < best.2.lastAccess then entry else best).2.lastAccess ≤ entry.2.lastAccess := by
      split <;> omega
    refine ⟨least.trans bound.1, fun other member => ?_⟩
    rcases List.mem_cons.mp member with rfl | later
    · exact least.trans bound.2
    · exact others other later

theorem evictLru_of_empty {c : PcaModelCache Model} (empty : c.cache.entries = []) : c.evictLru = c := by
  simp [evictLru, empty]

/-- Eviction removes a stored entry of least access time. -/
theorem evictLru_of_entries {c : PcaModelCache Model} (nonempty : c.cache.entries ≠ []) :
    ∃ modelRunId entry, c.cache.lookup modelRunId = some entry ∧
      (∀ other ∈ c.cache.entries, entry.lastAccess ≤ other.2.lastAccess) ∧
      c.evictLru = { c.dropEntry modelRunId entry with evictions := c.evictions + 1 } := by
  cases shape : c.cache.entries with
  | nil => exact absurd shape nonempty
  | cons first rest =>
    refine ⟨(oldest first (first :: rest)).1, (oldest first (first :: rest)).2, ?_,
      (oldest_le first (first :: rest)).2, by simp [evictLru, shape]⟩
    apply Table.mem_entries_iff.mp
    rw [shape]
    rcases oldest_mem first (first :: rest) with same | member
    · rw [same]
      exact List.mem_cons_self
    · exact member

/-- Eviction removes one stored entry, and does nothing only on an empty cache. -/
theorem evictLru_cases (c : PcaModelCache Model) :
    (c.cache.entries = [] ∧ c.evictLru = c) ∨
    ∃ modelRunId entry, c.cache.lookup modelRunId = some entry ∧
      c.evictLru = { c.dropEntry modelRunId entry with evictions := c.evictions + 1 } := by
  by_cases empty : c.cache.entries = []
  · exact .inl ⟨empty, evictLru_of_empty empty⟩
  · obtain ⟨modelRunId, entry, found, -, evicted⟩ := evictLru_of_entries empty
    exact .inr ⟨modelRunId, entry, found, evicted⟩

@[simp] theorem evictLru_maxBytes (c : PcaModelCache Model) : c.evictLru.maxBytes = c.maxBytes := by
  unfold evictLru
  split <;> rfl

/-- Whatever one eviction keeps is kept by the loop. -/
theorem ensureCapacity_induction {P : PcaModelCache Model → Prop} (evict : ∀ c, P c → P c.evictLru)
    {c : PcaModelCache Model} (first : P c) (usage : UInt64) : P (c.ensureCapacity usage) := by
  have loop : ∀ rounds c, P c → P (ensureCapacityLoop usage rounds c) := by
    intro rounds
    induction rounds with
    | zero => exact fun c holds => holds
    | succ rounds ih =>
      intro c holds
      simp only [ensureCapacityLoop]
      split
      · exact ih _ (evict c holds)
      · exact holds
  exact loop _ c first

theorem makeRoom_induction {P : PcaModelCache Model → Prop} (evict : ∀ c, P c → P c.evictLru)
    {c : PcaModelCache Model} (first : P c) (usage : UInt64) : P (c.makeRoom usage) := by
  have roomy : P (c.ensureCapacity usage) := ensureCapacity_induction evict first usage
  unfold makeRoom
  dsimp only
  split
  · exact evict _ roomy
  · exact roomy

@[simp] theorem makeRoom_maxBytes (c : PcaModelCache Model) (usage : UInt64) :
    (c.makeRoom usage).maxBytes = c.maxBytes :=
  makeRoom_induction (P := fun d => d.maxBytes = c.maxBytes)
    (fun d same => (evictLru_maxBytes d).trans same) rfl usage

end PcaModelCache

/-! ## The cache under concurrent callers -/

/-- A `GetOrCreate` call that missed and has not returned; `loaded` is set by a
successful `PcaModel::Load`. -/
structure PendingCall (Model : Type) where
  modelRunId : String
  artifactPath : String
  now : Int
  loaded : Option Model

structure World (Model : Type) where
  cache : PcaModelCache Model
  calls : List (PendingCall Model)

inductive Label (Model : Type) where
  | lookup (modelRunId artifactPath : String) (now : Int)
  | load (call : Nat) (outcome : Option Model)
  | insert (call : Nat)
  | invalidate (modelRunId : String)
  | clear
  | rehash (order : Table String (CacheEntry Model))

def World.init (args : PcaModelCacheArgs) : World Model := ⟨.ofArgs args, []⟩

variable [DecidableEq Model] (estimateMemoryUsage : Model → UInt64)

/-- A failed load throws out of `GetOrCreate`: the call is gone and the cache untouched. -/
def step (w : World Model) : Label Model → Option (World Model)
  | .lookup modelRunId artifactPath now =>
    match w.cache.lookupLocked modelRunId artifactPath now with
    | (cache, some _) => some { w with cache }
    | (cache, none) => some { cache, calls := w.calls ++ [⟨modelRunId, artifactPath, now, none⟩] }
  | .load i outcome =>
    match w.calls[i]?, outcome with
    | some ⟨modelRunId, artifactPath, now, none⟩, some model =>
      some { w with calls := w.calls.set i ⟨modelRunId, artifactPath, now, some model⟩ }
    | some ⟨_, _, _, none⟩, none => some { w with calls := w.calls.eraseIdx i }
    | _, _ => none
  | .insert i =>
    match w.calls[i]? with
    | some ⟨modelRunId, artifactPath, now, some model⟩ =>
      some { cache := w.cache.insertLocked modelRunId artifactPath now model (estimateMemoryUsage model)
             calls := w.calls.eraseIdx i }
    | _ => none
  | .invalidate modelRunId => some { w with cache := w.cache.invalidate modelRunId }
  | .clear => some { w with cache := w.cache.clear }
  | .rehash order =>
    if order.entries.Perm w.cache.cache.entries then some { w with cache := { w.cache with cache := order } }
    else none

end TelemetryLab.Cache
