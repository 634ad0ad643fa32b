import TelemetryLab.Cache.Accounting

/-! The model cache under calls that do not overlap.

A call that misses loads and stores before the next one begins. The abstract
cache keeps its entries in the order of their last access, the `unordered_map`
in no order at all: what an iteration meets first is chosen anew for every call.
-/

set_option autoImplicit false
namespace TelemetryLab.Cache

variable {Model : Type}

/-- A call on the cache; `artifact` is what `PcaModel::Load` finds at the path. -/
inductive Call (Model : Type) where
  | getOrCreate (modelRunId artifactPath : String) (now : Int) (artifact : Option Model)
  | invalidate (modelRunId : String)
  | clear

namespace PcaModelCache

/-- `GetOrCreate` without another call between its locked pieces; `none` is a failed
load, which throws. -/
def getOrCreate (estimateMemoryUsage : Model → UInt64) (c : PcaModelCache Model) (modelRunId artifactPath : String)
    (now : Int) (artifact : Option Model) : PcaModelCache Model × Option Model :=
  match c.lookupLocked modelRunId artifactPath now, artifact with
  | (looked, some model), _ => (looked, some model)
  | (missed, none), none => (missed, none)
  | (missed, none), some model =>
    (missed.insertLocked modelRunId artifactPath now model (estimateMemoryUsage model), some model)

end PcaModelCache

/-! ## Entries in the order of access -/

/-- The map holds the given entries, which are in the order of their last access,
and the counter their bytes. -/
structure Holds (c : PcaModelCache Model) (entries : List (Lru.Entry String String Model)) : Prop where
  stored : (c.cache.entries.map abstractEntry).Perm entries
  ordered : entries.Pairwise fun older newer => older.accessed < newer.accessed
  accounted : c.Accounted

variable {c : PcaModelCache Model} {entries : List (Lru.Entry String String Model)}

theorem Holds.length_eq (holds : Holds c entries) : c.cache.entries.length = entries.length := by
  rw [← holds.stored.length_eq, List.length_map]

theorem Holds.bytes_eq (holds : Holds c entries) : c.currentBytes.toNat = Lru.bytes entries := by
  have sizes : (c.cache.entries.map abstractEntry).map Lru.Entry.size =
      c.cache.entries.map fun stored => PcaModelCache.bytes stored.2 := by
    rw [List.map_map]
    rfl
  rw [holds.accounted.counted, Lru.bytes, ← (holds.stored.map Lru.Entry.size).sum_eq, sizes]
  rfl

theorem Holds.lookup_eq_none (holds : Holds c entries) {modelRunId : String}
    (absent : modelRunId ∉ entries.map Lru.Entry.key) : c.cache.lookup modelRunId = none := by
  rw [AList.lookup_eq_none]
  intro member
  obtain ⟨entry, here⟩ := Table.exists_lookup member
  have listed := holds.stored.mem_iff.mp (List.mem_map_of_mem (Table.mem_entries_iff.mpr here))
  exact absent (List.mem_map_of_mem listed)

theorem Holds.find_eq (holds : Holds c entries) (modelRunId : String) :
    Lru.find entries modelRunId = (c.cache.lookup modelRunId).map fun entry => abstractEntry ⟨modelRunId, entry⟩ := by
  cases found : Lru.find entries modelRunId with
  | none =>
    have absent : modelRunId ∉ entries.map Lru.Entry.key := by
      intro member
      obtain ⟨entry, listed, keyed⟩ := List.mem_map.mp member
      exact List.find?_eq_none.mp found entry listed (by simpa using keyed)
    rw [holds.lookup_eq_none absent, Option.map_none]
  | some entry =>
    have keyed : entry.key = modelRunId := by simpa using List.find?_some found
    obtain ⟨⟨id, stored⟩, member, rfl⟩ := List.mem_map.mp (holds.stored.mem_iff.mpr (List.mem_of_find?_eq_some found))
    have here : c.cache.lookup id = some stored := Table.mem_entries_iff.mp member
    subst keyed
    exact (congrArg (Option.map fun entry => abstractEntry ⟨id, entry⟩) here).symm

theorem Holds.dropEntry (holds : Holds c entries) {modelRunId : String} {entry : CacheEntry Model}
    (found : c.cache.lookup modelRunId = some entry) :
    Holds (c.dropEntry modelRunId entry) (Lru.without entries modelRunId) := by
  refine ⟨?_, holds.ordered.filter _, PcaModelCache.dropEntry_accounted found holds.accounted⟩
  have commutes : (c.cache.entries.filter fun stored => stored.1 ≠ modelRunId).map abstractEntry =
      (c.cache.entries.map abstractEntry).filter fun entry => entry.key ≠ modelRunId := by
    rw [List.filter_map]
    rfl
  rw [PcaModelCache.dropEntry, Table.entries_erase, commutes]
  exact holds.stored.filter _

/-! ## Eviction -/

/-- What the limits and the counters of calls are is no business of an eviction. -/
structure SameSettings (c d : PcaModelCache Model) : Prop where
  limits : d.limits = c.limits
  hits : d.hits = c.hits
  misses : d.misses = c.misses

/-- As the access times differ, whatever the iteration meets first does not matter. -/
theorem Holds.order_eq (holds : Holds c entries) : c.evictionOrder = entries := by
  have same := c.evictionOrder_perm.trans holds.stored
  refine same.eq_of_pairwise ?_ (List.pairwise_insertionSort PcaModelCache.Older _) (holds.ordered.imp le_of_lt)
  intro first second left right notLater notEarlier
  have apart : (entries.map Lru.Entry.accessed).Nodup := List.pairwise_map.mpr (holds.ordered.imp ne_of_lt)
  exact List.inj_on_of_nodup_map apart (same.subset left) right (le_antisymm notLater notEarlier)

/-- Every entry that goes is an eviction. -/
theorem makeRoom_evictions (c : PcaModelCache Model) (usage : UInt64) :
    (c.makeRoom usage).evictions + (c.makeRoom usage).cache.entries.length = c.evictions + c.cache.entries.length := by
  refine PcaModelCache.makeRoom_induction
    (P := fun d => d.evictions + d.cache.entries.length = c.evictions + c.cache.entries.length) ?_ rfl usage
  intro d same
  have shorter := congrArg List.length (PcaModelCache.evictionOrder_evictLru d)
  rw [List.length_tail, PcaModelCache.length_evictionOrder, PcaModelCache.length_evictionOrder] at shorter
  by_cases empty : d.cache.entries = []
  · rw [PcaModelCache.evictLru_of_empty empty]
    exact same
  · obtain ⟨modelRunId, entry, -, -, evicted⟩ := PcaModelCache.evictLru_of_entries empty
    have some_ := List.length_pos_iff.mpr empty
    have counted : d.evictLru.evictions = d.evictions + 1 := by rw [evicted]
    omega

theorem makeRoom_settings (c : PcaModelCache Model) (usage : UInt64) : SameSettings c (c.makeRoom usage) := by
  refine PcaModelCache.makeRoom_induction (P := fun d => SameSettings c d) ?_ ⟨rfl, rfl, rfl⟩ usage
  intro d same
  rcases PcaModelCache.evictLru_cases d with ⟨-, stays⟩ | ⟨modelRunId, entry, -, evicted⟩
  · rw [stays]
    exact same
  · rw [evicted]
    exact ⟨same.limits, same.hits, same.misses⟩

theorem Holds.makeRoom (holds : Holds c entries) {usage : UInt64}
    (resident : Lru.bytes entries + usage.toNat < 2 ^ 64) :
    Holds (c.makeRoom usage) (Lru.kept c.limits usage.toNat entries) ∧ SameSettings c (c.makeRoom usage) ∧
      (c.makeRoom usage).evictions =
        c.evictions + (entries.length - (Lru.kept c.limits usage.toNat entries).length : ℕ) := by
  have order : (c.makeRoom usage).evictionOrder = Lru.kept c.limits usage.toNat entries := by
    rw [← holds.bytes_eq] at resident
    rw [PcaModelCache.makeRoom_order holds.accounted resident, holds.order_eq]
  have suffix := Lru.kept_suffix c.limits usage.toNat entries
  refine ⟨⟨?_, holds.ordered.sublist suffix.sublist, PcaModelCache.makeRoom_accounted holds.accounted usage⟩,
    makeRoom_settings c usage, ?_⟩
  · rw [← order]
    exact (c.makeRoom usage).evictionOrder_perm.symm
  · have counted := makeRoom_evictions c usage
    have left := (c.makeRoom usage).length_evictionOrder
    have shorter := suffix.length_le
    rw [order] at left
    rw [holds.length_eq] at counted
    omega

/-! ## One call -/

/-- The cache stands for an abstract one with the given limits. -/
structure Refines (limits : Lru.Limits) (c : PcaModelCache Model) (cache : Lru.Cache String String Model) : Prop where
  holds : Holds c cache.entries
  limits : c.limits = limits
  hits : c.hits = cache.hits
  misses : c.misses = cache.misses
  evictions : c.evictions = cache.evictions

section Step

variable {limits : Lru.Limits} {cache : Lru.Cache String String Model} {modelRunId artifactPath : String} {now : Int}

/-- The accessed entry is the last one in the order. -/
theorem Holds.touch (holds : Holds c entries) {entry : CacheEntry Model}
    (found : c.cache.lookup modelRunId = some entry) (later : ∀ other ∈ entries, other.accessed < now) :
    ((Table.modify modelRunId (fun e => { e with lastAccess := now }) c.cache).entries.map abstractEntry).Perm
        (Lru.without entries modelRunId ++ [{ abstractEntry ⟨modelRunId, entry⟩ with accessed := now }]) ∧
      (Lru.without entries modelRunId ++ [{ abstractEntry ⟨modelRunId, entry⟩ with accessed := now }]).Pairwise
        (fun older newer : Lru.Entry String String Model => older.accessed < newer.accessed) := by
  have dropped := holds.dropEntry found
  refine ⟨?_, ?_⟩
  · have moved := (Table.entries_modify_perm (fun e => { e with lastAccess := now }) found).map abstractEntry
    exact moved.trans ((dropped.stored.cons _).trans (List.perm_append_singleton _ _).symm)
  · apply List.pairwise_append.mpr
    refine ⟨dropped.ordered, List.pairwise_singleton _ _, fun older member newest here => ?_⟩
    rw [List.mem_singleton.mp here]
    exact later older (List.mem_of_mem_filter member)

/-- The first locked piece of `GetOrCreate`: a hit, or an invalidation of what is
stored under the id. -/
theorem lookupLocked_cases (c : PcaModelCache Model) (modelRunId artifactPath : String) (now : Int) :
    (∃ entry, c.cache.lookup modelRunId = some entry ∧ now - entry.lastAccess ≤ c.ttl * nanosPerSecond ∧
        entry.artifactPath = artifactPath ∧
        c.lookupLocked modelRunId artifactPath now =
          ({ c with hits := c.hits + 1
                    cache := Table.modify modelRunId (fun e => { e with lastAccess := now }) c.cache },
            some entry.model)) ∨
      ((∀ entry, c.cache.lookup modelRunId = some entry →
          c.ttl * nanosPerSecond < now - entry.lastAccess ∨ entry.artifactPath ≠ artifactPath) ∧
        c.lookupLocked modelRunId artifactPath now =
          ({ c.invalidate modelRunId with misses := c.misses + 1 }, none)) := by
  unfold PcaModelCache.lookupLocked PcaModelCache.invalidate
  cases found : c.cache.lookup modelRunId with
  | none => exact .inr ⟨fun _ absent => absurd absent.symm (Option.some_ne_none _), rfl⟩
  | some entry =>
    dsimp only
    split
    · rename_i expired
      exact .inr ⟨fun other same => .inl (Option.some.inj same ▸ expired), rfl⟩
    · rename_i young
      split
      · rename_i path
        exact .inl ⟨entry, rfl, not_lt.mp young, path, rfl⟩
      · rename_i path
        exact .inr ⟨fun other same => .inr (Option.some.inj same ▸ path), rfl⟩

theorem Holds.invalidate (holds : Holds c entries) (modelRunId : String) :
    Holds (c.invalidate modelRunId) (Lru.without entries modelRunId) ∧
      SameSettings c (c.invalidate modelRunId) ∧ (c.invalidate modelRunId).evictions = c.evictions := by
  unfold PcaModelCache.invalidate
  cases found : c.cache.lookup modelRunId with
  | none =>
    have absent : modelRunId ∉ entries.map Lru.Entry.key := by
      intro member
      obtain ⟨entry, listed, keyed⟩ := List.mem_map.mp member
      have none := holds.find_eq modelRunId
      rw [found, Option.map_none, Lru.find, List.find?_eq_none] at none
      exact none entry listed (by simpa using keyed)
    rw [Lru.without_of_absent absent]
    exact ⟨holds, ⟨rfl, rfl, rfl⟩, rfl⟩
  | some entry => exact ⟨holds.dropEntry found, ⟨rfl, rfl, rfl⟩, rfl⟩

theorem Refines.invalidate (here : Refines limits c cache) (modelRunId : String) :
    Refines limits (c.invalidate modelRunId) (cache.invalidate modelRunId) := by
  obtain ⟨holds, same, evictions⟩ := here.holds.invalidate modelRunId
  exact ⟨holds, same.limits.trans here.limits, same.hits.trans here.hits, same.misses.trans here.misses,
    evictions.trans here.evictions⟩

theorem Refines.clear (here : Refines limits c cache) : Refines limits c.clear cache.clear :=
  ⟨⟨.nil, .nil, PcaModelCache.clear_accounted c⟩, here.limits, here.hits, here.misses, here.evictions⟩

/-- The second locked piece of `GetOrCreate`, for an id that is not stored. -/
theorem Refines.insertLocked (here : Refines limits c cache)
    (absent : modelRunId ∉ cache.entries.map Lru.Entry.key)
    (later : ∀ other ∈ cache.entries, other.accessed < now) (model : Model) {usage : UInt64}
    (fits : usage ≤ c.maxBytes) (resident : Lru.bytes cache.entries + usage.toNat < 2 ^ 64) :
    Refines limits (c.insertLocked modelRunId artifactPath now model usage)
      { cache with
        entries := Lru.kept limits usage.toNat cache.entries ++
          [⟨modelRunId, artifactPath, model, usage.toNat, now⟩]
        evictions := cache.evictions +
          (cache.entries.length - (Lru.kept limits usage.toNat cache.entries).length : ℕ) } := by
  obtain ⟨room, same, evictions⟩ := here.holds.makeRoom resident
  have sameLimits := same.limits
  rw [here.limits] at room evictions sameLimits
  have suffix := Lru.kept_suffix limits usage.toNat cache.entries
  have free : (c.makeRoom usage).cache.lookup modelRunId = none :=
    room.lookup_eq_none fun member => absent ((suffix.sublist.map Lru.Entry.key).subset member)
  have fitsNat : usage.toNat ≤ limits.bytes := by
    rw [← here.limits]
    exact UInt64.le_iff_toNat_le.mp fits
  have clean : (c.makeRoom usage).StoresCleanly modelRunId usage := by
    refine ⟨fun old stored => absurd (free.symm.trans stored).symm (Option.some_ne_none old), ?_⟩
    rw [room.bytes_eq, show (c.makeRoom usage).maxBytes.toNat = limits.bytes from congrArg Lru.Limits.bytes sameLimits]
    exact Lru.kept_fits fitsNat _
  have accounted : (c.insertLocked modelRunId artifactPath now model usage).Accounted :=
    (PcaModelCache.insertLocked_accounted_iff here.holds.accounted ..).mpr fun _ => clean
  have notThere : (c.makeRoom usage).cache.erase modelRunId = (c.makeRoom usage).cache :=
    AList.ext (List.kerase_of_notMem_keys (AList.lookup_eq_none.mp free))
  rw [PcaModelCache.insertLocked, if_neg (UInt64.not_lt.mpr fits)] at accounted ⊢
  refine ⟨⟨?_, ?_, accounted⟩, sameLimits, same.hits.trans here.hits, same.misses.trans here.misses, ?_⟩
  · have stored := (room.stored.cons (abstractEntry ⟨modelRunId, ⟨model, now, artifactPath, usage⟩⟩)).trans
      (List.perm_append_singleton _ _).symm
    rw [← notThere] at stored
    exact stored
  · apply List.pairwise_append.mpr
    refine ⟨room.ordered, List.pairwise_singleton _ _, fun older member newest here => ?_⟩
    rw [List.mem_singleton.mp here]
    exact later older (suffix.subset member)
  · rw [evictions, here.evictions]

/-- A whole call of `GetOrCreate`; a loaded model is in memory beside the stored ones. -/
theorem Refines.getOrCreate (estimateMemoryUsage : Model → UInt64) (here : Refines limits c cache)
    (modelRunId artifactPath : String) (later : ∀ other ∈ cache.entries, other.accessed < now)
    (artifact : Option Model)
    (resident : (c.lookupLocked modelRunId artifactPath now).2 = none → ∀ model, artifact = some model →
      (c.lookupLocked modelRunId artifactPath now).1.storedBytes + (estimateMemoryUsage model).toNat < 2 ^ 64) :
    let loaded := artifact.map fun model => (model, (estimateMemoryUsage model).toNat)
    let after := c.getOrCreate estimateMemoryUsage modelRunId artifactPath now artifact
    let abstract := cache.getOrCreate limits modelRunId artifactPath now loaded
    Refines limits after.1 abstract.1 ∧ after.2 = abstract.2 := by
  intro loaded after abstract
  rcases lookupLocked_cases c modelRunId artifactPath now with ⟨entry, found, young, path, looked⟩ | ⟨none, missed⟩
  · -- a hit: the entry is young and of the same file in both caches
    have find : Lru.find cache.entries modelRunId = some (abstractEntry ⟨modelRunId, entry⟩) := by
      rw [here.holds.find_eq, found, Option.map_some]
    have answers : (abstractEntry ⟨modelRunId, entry⟩).Answers limits artifactPath now := by
      rw [← here.limits]
      exact ⟨path, young⟩
    have accounted := PcaModelCache.lookupLocked_accounted here.holds.accounted modelRunId artifactPath now
    obtain ⟨moved, ordered⟩ := here.holds.touch found later
    simp only [after, abstract, PcaModelCache.getOrCreate, looked, Lru.Cache.getOrCreate_hit find answers]
    rw [looked] at accounted
    exact ⟨⟨⟨moved, ordered, accounted⟩, here.limits, congrArg (· + 1) here.hits, here.misses, here.evictions⟩, rfl⟩
  · -- a miss: an entry that does not answer is dropped by both
    have misses : ∀ entry, Lru.find cache.entries modelRunId = some entry → ¬ entry.Answers limits artifactPath now := by
      rintro entry found ⟨path, young⟩
      rw [here.holds.find_eq] at found
      obtain ⟨stored, lookup, rfl⟩ := Option.map_eq_some_iff.mp found
      rw [← here.limits] at young
      rcases none stored lookup with expired | changed
      · exact absurd young (not_le.mpr expired)
      · exact changed path
    have dropped := here.invalidate modelRunId
    have counted : Refines limits { c.invalidate modelRunId with misses := c.misses + 1 }
        { cache.invalidate modelRunId with misses := cache.misses + 1 } :=
      ⟨⟨dropped.holds.stored, dropped.holds.ordered, dropped.holds.accounted.of_eq rfl rfl rfl⟩, dropped.limits,
        dropped.hits, congrArg (· + 1) here.misses, dropped.evictions⟩
    simp only [after, abstract, PcaModelCache.getOrCreate, missed, Lru.Cache.getOrCreate_miss misses]
    cases artifact with
    | none => exact ⟨counted, rfl⟩
    | some model =>
      have fits := resident (by rw [missed]) model rfl
      rw [missed, ← counted.holds.accounted.counted, counted.holds.bytes_eq] at fits
      have limit : limits.bytes = (c.invalidate modelRunId).maxBytes.toNat :=
        congrArg Lru.Limits.bytes counted.limits.symm
      simp only [Lru.Cache.miss, loaded, Option.map_some, limit, ← UInt64.lt_iff_toNat_lt]
      split
      · -- a model above the limit is handed out and not kept
        rename_i large
        rw [PcaModelCache.insertLocked, if_pos large]
        exact ⟨counted, rfl⟩
      · rename_i small
        exact ⟨counted.insertLocked (Lru.not_mem_without _ _)
          (fun other member => later other (List.mem_of_mem_filter member)) model (UInt64.not_lt.mp small) fits, rfl⟩

end Step

/-! ## Whole histories -/

section History

variable (estimateMemoryUsage : Model → UInt64)

/-- What can come out of `PcaModel::Load` while the cache holds its models: all of
them are in one address space, and a model beyond it is a `std::bad_alloc`. -/
def Loadable (c : PcaModelCache Model) : Call Model → Prop
  | .getOrCreate modelRunId artifactPath now artifact =>
    (c.lookupLocked modelRunId artifactPath now).2 = none → ∀ model, artifact = some model →
      (c.lookupLocked modelRunId artifactPath now).1.storedBytes + (estimateMemoryUsage model).toNat < 2 ^ 64
  | _ => True

def PcaModelCache.serve (c : PcaModelCache Model) : Call Model → PcaModelCache Model × Option Model
  | .getOrCreate modelRunId artifactPath now artifact =>
    c.getOrCreate estimateMemoryUsage modelRunId artifactPath now artifact
  | .invalidate modelRunId => (c.invalidate modelRunId, none)
  | .clear => (c.clear, none)

/-- Calls one after the other, with the models they answer. Between two calls the
iteration order of the map may have changed. -/
inductive Serves : PcaModelCache Model → List (Call Model) → PcaModelCache Model → List (Option Model) → Prop
  | done (c : PcaModelCache Model) : Serves c [] c []
  | next {c final : PcaModelCache Model} {order : Table String (CacheEntry Model)} {call : Call Model}
      {calls : List (Call Model)} {answers : List (Option Model)} :
      order.entries.Perm c.cache.entries → Loadable estimateMemoryUsage { c with cache := order } call →
      Serves ({ c with cache := order }.serve estimateMemoryUsage call).1 calls final answers →
      Serves c (call :: calls) final (({ c with cache := order }.serve estimateMemoryUsage call).2 :: answers)

/-- The abstract cache under a call. -/
def abstractServe (limits : Lru.Limits) (cache : Lru.Cache String String Model) :
    Call Model → Lru.Cache String String Model × Option Model
  | .getOrCreate modelRunId artifactPath now artifact =>
    cache.getOrCreate limits modelRunId artifactPath now
      (artifact.map fun model => (model, (estimateMemoryUsage model).toNat))
  | .invalidate modelRunId => (cache.invalidate modelRunId, none)
  | .clear => (cache.clear, none)

def abstractServeAll (limits : Lru.Limits) :
    Lru.Cache String String Model → List (Call Model) → Lru.Cache String String Model × List (Option Model)
  | cache, [] => (cache, [])
  | cache, call :: calls =>
    let (next, answer) := abstractServe estimateMemoryUsage limits cache call
    let (final, answers) := abstractServeAll limits next calls
    (final, answer :: answers)

/-- The clock readings of the calls. -/
def Call.time : Call Model → Option Int
  | .getOrCreate _ _ now _ => some now
  | _ => none

variable {estimateMemoryUsage} {limits : Lru.Limits} {cache : Lru.Cache String String Model}

theorem Refines.reorder (here : Refines limits c cache) {order : Table String (CacheEntry Model)}
    (same : order.entries.Perm c.cache.entries) : Refines limits { c with cache := order } cache :=
  ⟨⟨(same.map abstractEntry).trans here.holds.stored, here.holds.ordered,
    here.holds.accounted.of_eq rfl rfl (Table.total_perm PcaModelCache.bytes same)⟩,
    here.limits, here.hits, here.misses, here.evictions⟩

theorem Refines.serve (here : Refines limits c cache) {call : Call Model}
    (later : ∀ other ∈ cache.entries, ∀ now, call.time = some now → other.accessed < now)
    (loadable : Loadable estimateMemoryUsage c call) :
    Refines limits (c.serve estimateMemoryUsage call).1 (abstractServe estimateMemoryUsage limits cache call).1 ∧
      (c.serve estimateMemoryUsage call).2 = (abstractServe estimateMemoryUsage limits cache call).2 := by
  cases call with
  | getOrCreate modelRunId artifactPath now artifact =>
    exact here.getOrCreate estimateMemoryUsage modelRunId artifactPath
      (fun other member => later other member now rfl) artifact loadable
  | invalidate modelRunId => exact ⟨here.invalidate modelRunId, rfl⟩
  | clear => exact ⟨here.clear, rfl⟩

theorem mem_abstractServe {call : Call Model} {entry : Lru.Entry String String Model}
    (member : entry ∈ (abstractServe estimateMemoryUsage limits cache call).1.entries) :
    entry ∈ cache.entries ∨ call.time = some entry.accessed := by
  cases call with
  | getOrCreate modelRunId artifactPath now artifact =>
    rcases Lru.mem_getOrCreate member with old | new
    · exact .inl old
    · exact .inr (congrArg some new.symm)
  | invalidate modelRunId => exact .inl (List.mem_of_mem_filter member)
  | clear => exact absurd member List.not_mem_nil

theorem abstractServe_within (within : Lru.Within limits cache.entries) (call : Call Model) :
    Lru.Within limits (abstractServe estimateMemoryUsage limits cache call).1.entries := by
  cases call with
  | getOrCreate modelRunId artifactPath now artifact => exact within.getOrCreate _
  | invalidate modelRunId => exact within.sublist List.filter_sublist
  | clear => exact within.sublist (List.nil_sublist _)

variable (estimateMemoryUsage limits cache) in
theorem abstractServe_counts (call : Call Model) :
    let next := (abstractServe estimateMemoryUsage limits cache call).1
    next.hits + next.misses = cache.hits + cache.misses + (call.time.toList.length : ℕ) := by
  cases call with
  | getOrCreate modelRunId artifactPath now artifact => exact Lru.getOrCreate_counts _
  | invalidate modelRunId => exact (add_zero _).symm
  | clear => exact (add_zero _).symm

theorem times_cons (call : Call Model) (calls : List (Call Model)) :
    (call :: calls).filterMap Call.time = call.time.toList ++ calls.filterMap Call.time := by
  cases call <;> rfl

/-- The abstract cache and its bounds along the calls that are left. -/
theorem Refines.serves {calls : List (Call Model)} {final : PcaModelCache Model} {answers : List (Option Model)}
    (served : Serves estimateMemoryUsage c calls final answers) (here : Refines limits c cache)
    (ticking : (calls.filterMap Call.time).Pairwise (· < ·))
    (later : ∀ other ∈ cache.entries, ∀ now ∈ calls.filterMap Call.time, other.accessed < now)
    (within : Lru.Within limits cache.entries) :
    let abstract := abstractServeAll estimateMemoryUsage limits cache calls
    answers = abstract.2 ∧ Refines limits final abstract.1 ∧ Lru.Within limits abstract.1.entries ∧
      abstract.1.hits + abstract.1.misses = cache.hits + cache.misses + (calls.filterMap Call.time).length := by
  induction served generalizing cache with
  | done c => exact ⟨rfl, here, within, (add_zero _).symm⟩
  | @next c final order call calls answers same loadable _ ih =>
    rw [times_cons] at ticking later
    obtain ⟨-, ticksOn, after⟩ := List.pairwise_append.mp ticking
    have before : ∀ other ∈ cache.entries, ∀ now, call.time = some now → other.accessed < now := by
      intro other member now timed
      exact later other member now (List.mem_append_left _ (Option.mem_toList.mpr timed))
    obtain ⟨next, answered⟩ := (here.reorder same).serve before loadable
    have laterOn : ∀ other ∈ (abstractServe estimateMemoryUsage limits cache call).1.entries,
        ∀ now ∈ calls.filterMap Call.time, other.accessed < now := by
      intro other member now comes
      rcases mem_abstractServe member with old | new
      · exact later other old now (List.mem_append_right _ comes)
      · exact after _ (Option.mem_toList.mpr new) now comes
    obtain ⟨answers, refines, bounds, counts⟩ := ih next ticksOn laterOn (abstractServe_within within call)
    have counted := abstractServe_counts estimateMemoryUsage limits cache call
    refine ⟨congrArg₂ _ answered answers, refines, bounds, ?_⟩
    rw [times_cons, List.length_append]
    simp only [abstractServeAll] at counts ⊢
    dsimp only at counted
    omega

/-- The steps of a call that no other call comes between. -/
def Call.labels (c : PcaModelCache Model) : Call Model → List (Label Model)
  | .getOrCreate modelRunId artifactPath now artifact =>
    .lookup modelRunId artifactPath now ::
      match (c.lookupLocked modelRunId artifactPath now).2, artifact with
      | some _, _ => []
      | none, none => [.load 0 none]
      | none, some model => [.load 0 (some model), .insert 0]
  | .invalidate modelRunId => [.invalidate modelRunId]
  | .clear => [.clear]

/-- A call is served as by the steps of the concurrent cache. -/
theorem exec_labels [DecidableEq Model] (c : PcaModelCache Model) (call : Call Model) :
    Transition.exec (step estimateMemoryUsage) ⟨c, []⟩ (call.labels c) =
      some ⟨(c.serve estimateMemoryUsage call).1, []⟩ := by
  cases call with
  | getOrCreate modelRunId artifactPath now artifact =>
    unfold Call.labels PcaModelCache.serve PcaModelCache.getOrCreate
    cases looked : c.lookupLocked modelRunId artifactPath now with
    | mk after model =>
      cases model with
      | some model => simp [Transition.exec, step, looked]
      | none =>
        cases artifact with
        | none => simp [Transition.exec, step, looked]
        | some model => simp [Transition.exec, step, looked]
  | invalidate modelRunId => rfl
  | clear => rfl

/-- Calls that do not overlap see a cache of the most recently accessed models: their
answers are those of the abstract cache, which the map, the byte counter and the
other counters stand for after every history. -/
theorem sequential_cache_refines_lru (estimateMemoryUsage : Model → UInt64) (args : PcaModelCacheArgs)
    {calls : List (Call Model)} {c : PcaModelCache Model} {answers : List (Option Model)}
    (served : Serves estimateMemoryUsage (.ofArgs args) calls c answers)
    (ticking : (calls.filterMap Call.time).Pairwise (· < ·)) :
    let limits := (PcaModelCache.ofArgs args : PcaModelCache Model).limits
    let abstract := abstractServeAll estimateMemoryUsage limits .empty calls
    answers = abstract.2 ∧ Refines limits c abstract.1 ∧
      c.hits + c.misses = (calls.filterMap Call.time).length ∧
      c.cache.entries.length ≤ max 1 args.maxEntries.toNat ∧
      c.storedBytes = c.currentBytes.toNat ∧ c.currentBytes ≤ args.maxBytes := by
  intro limits abstract
  have first : Refines limits (.ofArgs args : PcaModelCache Model) .empty :=
    ⟨⟨.nil, .nil, PcaModelCache.clear_accounted (.ofArgs args)⟩, rfl, rfl, rfl, rfl⟩
  have empty : Lru.Within limits (Lru.Cache.empty : Lru.Cache String String Model).entries :=
    ⟨Nat.zero_le _, Nat.zero_le _⟩
  obtain ⟨same, refines, within, counts⟩ :=
    first.serves served ticking (fun _ member => absurd member List.not_mem_nil) empty
  refine ⟨same, refines, ?_, ?_, refines.holds.accounted.counted.symm, ?_⟩
  · rw [refines.hits, refines.misses, counts]
    exact zero_add _
  · rw [refines.holds.length_eq]
    exact within.count
  · rw [UInt64.le_iff_toNat_le, refines.holds.bytes_eq]
    exact within.bytes

/-- One place for two models: the second load evicts the first model, and the third
call finds neither it nor a file. -/
theorem sequential_cache_refines_lru_onePlace :
    let calls : List (Call Bool) :=
      [.getOrCreate "m1" "artifacts/pca/m1/model.json" 0 (some true),
       .getOrCreate "m1" "artifacts/pca/m1/model.json" 1 none,
       .getOrCreate "m2" "artifacts/pca/m2/model.json" 2 (some false),
       .getOrCreate "m1" "artifacts/pca/m1/model.json" 3 none]
    ∃ c answers, Serves (fun _ => 368) (.ofArgs { maxEntries := 1, maxBytes := 4096, ttlSeconds := 60 }) calls c answers ∧
      answers = [some true, some true, some false, none] ∧ c.hits + c.misses = 4 ∧ c.cache.entries.length ≤ 1 := by
  intro calls
  have served : Serves (fun _ => 368) (.ofArgs { maxEntries := 1, maxBytes := 4096, ttlSeconds := 60 }) calls _ _ :=
    .next (.refl _) (by intro _ model _; cases model <;> decide) <|
      .next (.refl _) (by intro _ model found; cases found) <|
      .next (.refl _) (by intro _ model _; cases model <;> decide) <|
      .next (.refl _) (by intro _ model found; cases found) <| .done _
  have facts := sequential_cache_refines_lru _ _ served (by decide)
  exact ⟨_, _, served, by decide, facts.2.2.1, facts.2.2.2.1⟩

end History

end TelemetryLab.Cache
