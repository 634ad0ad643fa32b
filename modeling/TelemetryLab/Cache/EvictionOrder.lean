import TelemetryLab.Cache.PcaModelCache
import TelemetryLab.Lib.Lru
import TelemetryLab.Lib.StableSort

/-! The order in which the entries of the model cache would be evicted.

Entries of the same access time go in the order of the iteration. Making room
takes entries off the front of this order.
-/

set_option autoImplicit false
namespace TelemetryLab.Cache

variable {Model : Type}

def abstractEntry (stored : Sigma fun _ : String => CacheEntry Model) : Lru.Entry String String Model :=
  ⟨stored.1, stored.2.artifactPath, stored.2.model, stored.2.memoryUsage.toNat, stored.2.lastAccess⟩

namespace PcaModelCache

/-- The limits, the time to live in the unit of the clock. -/
def limits (c : PcaModelCache Model) : Lru.Limits := ⟨c.maxEntries.toNat, c.maxBytes.toNat, c.ttl * nanosPerSecond⟩

/-- No later access comes first. -/
def Older (first second : Lru.Entry String String Model) : Prop := first.accessed ≤ second.accessed

instance : @DecidableRel (Lru.Entry String String Model) (Lru.Entry String String Model) Older :=
  fun _ _ => inferInstanceAs (Decidable (_ ≤ _))

instance : IsTrans (Lru.Entry String String Model) Older := ⟨fun _ _ _ => le_trans⟩

instance : @Std.Total (Lru.Entry String String Model) Older := ⟨fun first second => le_total first.accessed second.accessed⟩

def evictionOrder (c : PcaModelCache Model) : List (Lru.Entry String String Model) :=
  (c.cache.entries.map abstractEntry).insertionSort Older

theorem evictionOrder_perm (c : PcaModelCache Model) : c.evictionOrder.Perm (c.cache.entries.map abstractEntry) :=
  List.perm_insertionSort Older _

theorem length_evictionOrder (c : PcaModelCache Model) : c.evictionOrder.length = c.cache.entries.length := by
  rw [c.evictionOrder_perm.length_eq, List.length_map]

theorem evictionOrder_nodup (c : PcaModelCache Model) : (c.evictionOrder.map Lru.Entry.key).Nodup := by
  have keys : (c.cache.entries.map abstractEntry).map Lru.Entry.key = c.cache.keys := by
    rw [List.map_map]
    rfl
  rw [(c.evictionOrder_perm.map Lru.Entry.key).nodup_iff, keys]
  exact AList.keys_nodup c.cache

theorem mem_evictionOrder {c : PcaModelCache Model} {entry : Lru.Entry String String Model} :
    entry ∈ c.evictionOrder ↔ ∃ stored, c.cache.lookup entry.key = some stored ∧
      abstractEntry ⟨entry.key, stored⟩ = entry := by
  rw [c.evictionOrder_perm.mem_iff, List.mem_map]
  constructor
  · rintro ⟨⟨key, stored⟩, member, rfl⟩
    exact ⟨stored, Table.mem_entries_iff.mp member, rfl⟩
  · rintro ⟨stored, found, same⟩
    exact ⟨_, Table.mem_entries_iff.mpr found, same⟩

/-- The scan of `EvictLru` ends at the head of the order. -/
theorem head?_evictionOrder (best : Sigma fun _ : String => CacheEntry Model)
    (stored : List (Sigma fun _ : String => CacheEntry Model)) :
    (((best :: stored).map abstractEntry).insertionSort Older).head? = some (abstractEntry (oldest best stored)) := by
  induction stored generalizing best with
  | nil => rfl
  | cons entry rest ih =>
    have chosen : StableSort.first Older (abstractEntry best) (abstractEntry entry) =
        abstractEntry (if entry.2.lastAccess < best.2.lastAccess then entry else best) := by
      rw [StableSort.first]
      by_cases later : entry.2.lastAccess < best.2.lastAccess
      · rw [if_pos later, if_neg (show ¬ Older _ _ from not_le.mpr later)]
      · rw [if_neg later, if_pos (show Older _ _ from not_lt.mp later)]
    rw [oldest, ← ih, List.map_cons, List.map_cons, StableSort.head?_insertionSort_cons₂, chosen, List.map_cons]

theorem evictionOrder_evictLru (c : PcaModelCache Model) : c.evictLru.evictionOrder = c.evictionOrder.tail := by
  cases shape : c.cache.entries with
  | nil => simp [evictLru, evictionOrder, shape]
  | cons entry rest =>
    have head : c.evictionOrder.head? = some (abstractEntry (oldest entry (entry :: rest))) := by
      rw [evictionOrder, shape, head?_evictionOrder, oldest, if_neg (lt_irrefl _)]
    obtain ⟨others, order⟩ := List.head?_eq_some_iff.mp head
    have distinct := c.evictionOrder_nodup
    rw [order] at distinct
    have left : c.evictLru.evictionOrder = Lru.without c.evictionOrder (oldest entry (entry :: rest)).1 := by
      have erased : c.evictLru.cache.entries.map abstractEntry =
          (c.cache.entries.map abstractEntry).filter fun other => other.key ≠ (oldest entry (entry :: rest)).1 := by
        simp only [evictLru, shape, dropEntry]
        rw [Table.entries_erase, List.filter_map, shape]
        rfl
      rw [evictionOrder, erased, StableSort.filter_insertionSort]
      rfl
    rw [left, order, List.tail_cons]
    exact Lru.without_head distinct

end PcaModelCache

end TelemetryLab.Cache
