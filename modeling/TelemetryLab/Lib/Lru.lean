import Mathlib.Algebra.BigOperators.Group.List.Basic
import Mathlib.Algebra.GroupWithZero.Nat
import Mathlib.Algebra.Order.BigOperators.Group.List
import Mathlib.Algebra.Order.Group.Nat
import Mathlib.Data.List.Pairwise

/-! A cache with a limit on its entries, a limit on their total size and a time to
live.

The entries are kept in the order of their last access, so the one to go first
is at the head. An entry carries a tag, and is only used for a request with the
same tag.
-/

set_option autoImplicit false
namespace TelemetryLab.Lru

structure Limits where
  entries : ℕ
  bytes : ℕ
  ttl : Int

structure Entry (K T V : Type) where
  key : K
  tag : T
  value : V
  size : ℕ
  accessed : Int

structure Cache (K T V : Type) where
  entries : List (Entry K T V)
  hits : Int
  misses : Int
  evictions : Int

variable {K T V : Type}

def Cache.empty : Cache K T V := ⟨[], 0, 0, 0⟩

/-- The total size of the entries. -/
def bytes (entries : List (Entry K T V)) : ℕ := (entries.map Entry.size).sum

def find [DecidableEq K] (entries : List (Entry K T V)) (key : K) : Option (Entry K T V) :=
  entries.find? fun entry => entry.key = key

def without [DecidableEq K] (entries : List (Entry K T V)) (key : K) : List (Entry K T V) :=
  entries.filter fun entry => entry.key ≠ key

/-- The least recently accessed entries go while the others leave too little room. -/
def shed (limit need : ℕ) : List (Entry K T V) → List (Entry K T V)
  | [] => []
  | entry :: rest => if limit < bytes (entry :: rest) + need then shed limit need rest else entry :: rest

/-- What stays when an entry of the given size is to be stored. -/
def kept (limits : Limits) (need : ℕ) (entries : List (Entry K T V)) : List (Entry K T V) :=
  let roomy := shed limits.bytes need entries
  if limits.entries ≤ roomy.length then roomy.tail else roomy

/-- An entry answers a request for its tag within its time to live. -/
def Entry.Answers (limits : Limits) (tag : T) (now : Int) (entry : Entry K T V) : Prop :=
  entry.tag = tag ∧ now - entry.accessed ≤ limits.ttl

instance [DecidableEq T] (limits : Limits) (tag : T) (now : Int) (entry : Entry K T V) :
    Decidable (entry.Answers limits tag now) :=
  inferInstanceAs (Decidable (_ ∧ _))

def Cache.clear (cache : Cache K T V) : Cache K T V := { cache with entries := [] }

section Operations

variable [DecidableEq K] [DecidableEq T]

/-- After a miss the old entry of the key is gone; a value that is too large for the
cache is answered but not stored. -/
def Cache.miss (limits : Limits) (cache : Cache K T V) (key : K) (tag : T) (now : Int) (loaded : Option (V × ℕ)) :
    Cache K T V × Option V :=
  let rest := without cache.entries key
  let missed := { cache with entries := rest, misses := cache.misses + 1 }
  match loaded with
  | none => (missed, none)
  | some (value, size) =>
    if limits.bytes < size then (missed, some value)
    else
      let stay := kept limits size rest
      ({ missed with
         entries := stay ++ [⟨key, tag, value, size, now⟩]
         evictions := missed.evictions + (rest.length - stay.length : ℕ) }, some value)

/-- A request for a key; `loaded` is what the value's source delivers, with its size. -/
def Cache.getOrCreate (limits : Limits) (cache : Cache K T V) (key : K) (tag : T) (now : Int)
    (loaded : Option (V × ℕ)) : Cache K T V × Option V :=
  match find cache.entries key with
  | some entry =>
    if entry.Answers limits tag now then
      ({ cache with
         entries := without cache.entries key ++ [{ entry with accessed := now }]
         hits := cache.hits + 1 }, some entry.value)
    else cache.miss limits key tag now loaded
  | none => cache.miss limits key tag now loaded

def Cache.invalidate (cache : Cache K T V) (key : K) : Cache K T V :=
  { cache with entries := without cache.entries key }

theorem Cache.getOrCreate_hit {limits : Limits} {cache : Cache K T V} {key : K} {tag : T} {now : Int}
    {entry : Entry K T V} (found : find cache.entries key = some entry) (answers : entry.Answers limits tag now)
    (loaded : Option (V × ℕ)) :
    cache.getOrCreate limits key tag now loaded =
      ({ cache with
         entries := without cache.entries key ++ [{ entry with accessed := now }]
         hits := cache.hits + 1 }, some entry.value) := by
  simp only [Cache.getOrCreate, found, if_pos answers]

theorem Cache.getOrCreate_miss {limits : Limits} {cache : Cache K T V} {key : K} {tag : T} {now : Int}
    (none : ∀ entry, find cache.entries key = some entry → ¬ entry.Answers limits tag now)
    (loaded : Option (V × ℕ)) :
    cache.getOrCreate limits key tag now loaded = cache.miss limits key tag now loaded := by
  unfold Cache.getOrCreate
  split
  · rename_i entry found
    exact if_neg (none entry found)
  · rfl

end Operations

/-! ## What the operations keep -/

theorem without_of_absent [DecidableEq K] {key : K} {entries : List (Entry K T V)}
    (absent : key ∉ entries.map Entry.key) : without entries key = entries := by
  rw [without, List.filter_eq_self]
  intro entry member
  have different : entry.key ≠ key := fun same => absent (same ▸ List.mem_map_of_mem member)
  simpa using different

theorem not_mem_without [DecidableEq K] (entries : List (Entry K T V)) (key : K) :
    key ∉ (without entries key).map Entry.key := by
  intro member
  obtain ⟨entry, stays, same⟩ := List.mem_map.mp member
  simpa [same] using List.of_mem_filter stays

theorem without_head [DecidableEq K] {entry : Entry K T V} {rest : List (Entry K T V)}
    (distinct : ((entry :: rest).map Entry.key).Nodup) : without (entry :: rest) entry.key = rest := by
  rw [List.map_cons, List.nodup_cons] at distinct
  rw [without, List.filter_cons_of_neg (by simp)]
  exact without_of_absent distinct.1

theorem shed_suffix (limit need : ℕ) (entries : List (Entry K T V)) : shed limit need entries <:+ entries := by
  induction entries with
  | nil => exact List.suffix_rfl
  | cons entry rest ih =>
    rw [shed]
    split
    · exact ih.trans (List.suffix_cons entry rest)
    · exact List.suffix_rfl

/-- The loop stops with enough room, or with nothing left. -/
theorem shed_fits {limit need : ℕ} (fits : need ≤ limit) (entries : List (Entry K T V)) :
    bytes (shed limit need entries) + need ≤ limit := by
  induction entries with
  | nil => simpa [shed, bytes] using fits
  | cons entry rest ih =>
    rw [shed]
    split
    · exact ih
    · omega

theorem kept_suffix (limits : Limits) (need : ℕ) (entries : List (Entry K T V)) :
    kept limits need entries <:+ entries := by
  have roomy := shed_suffix limits.bytes need entries
  unfold kept
  dsimp only
  split
  · exact (List.tail_suffix _).trans roomy
  · exact roomy

theorem bytes_le_of_sublist {some all : List (Entry K T V)} (part : some.Sublist all) : bytes some ≤ bytes all :=
  (part.map Entry.size).sum_le_sum fun _ _ => Nat.zero_le _

theorem kept_fits {limits : Limits} {need : ℕ} (fits : need ≤ limits.bytes) (entries : List (Entry K T V)) :
    bytes (kept limits need entries) + need ≤ limits.bytes := by
  have roomy := shed_fits fits entries
  unfold kept
  dsimp only
  split
  · have fewer := bytes_le_of_sublist (List.tail_sublist (shed limits.bytes need entries))
    omega
  · exact roomy

/-- The entries from some place on stay if they leave enough room. -/
theorem suffix_shed_iff {limit need : ℕ} {part entries : List (Entry K T V)} (nonempty : part ≠ [])
    (suffix : part <:+ entries) : part <:+ shed limit need entries ↔ bytes part + need ≤ limit := by
  induction entries with
  | nil => exact absurd (List.suffix_nil.mp suffix) nonempty
  | cons entry rest ih =>
    rw [shed]
    split
    next full =>
      rcases List.suffix_cons_iff.mp suffix with rfl | later
      · constructor
        · intro stays
          have shorter := (stays.trans (shed_suffix limit need rest)).length_le
          rw [List.length_cons] at shorter
          omega
        · omega
      · exact ih later
    next roomy =>
      have fewer := bytes_le_of_sublist suffix.sublist
      constructor
      · omega
      · exact fun _ => suffix

/-- They also stay when one more has to go, unless they are all that is left. -/
theorem suffix_kept_iff {limits : Limits} {need : ℕ} {part entries : List (Entry K T V)} (nonempty : part ≠ [])
    (suffix : part <:+ entries) : part <:+ kept limits need entries ↔
      bytes part + need ≤ limits.bytes ∧ (part.length < limits.entries ∨
        ∃ older, older :: part <:+ entries ∧ bytes (older :: part) + need ≤ limits.bytes) := by
  have stays : part <:+ kept limits need entries ↔ part <:+ shed limits.bytes need entries ∧
      (part.length < limits.entries ∨ ∃ older, older :: part <:+ shed limits.bytes need entries) := by
    unfold kept
    dsimp only
    cases roomy : shed limits.bytes need entries with
    | nil => simp [nonempty]
    | cons entry rest =>
      have more : ∀ {older}, older :: part <:+ entry :: rest → part <:+ rest := by
        intro older longer
        rcases List.suffix_cons_iff.mp longer with same | later
        · cases same
          exact List.suffix_rfl
        · exact (List.suffix_cons older part).trans later
      have fewer : part <:+ rest → ∃ older, older :: part <:+ entry :: rest := by
        rintro ⟨before, rfl⟩
        rcases List.eq_nil_or_concat before with rfl | ⟨first, older, rfl⟩
        · exact ⟨entry, by simp⟩
        · exact ⟨older, entry :: first, by simp⟩
      split
      next full =>
        rw [List.tail_cons]
        constructor
        · intro left
          exact ⟨left.trans (List.suffix_cons entry rest), .inr (fewer left)⟩
        · rintro ⟨left, few | ⟨older, longer⟩⟩
          · rcases List.suffix_cons_iff.mp left with rfl | later
            · omega
            · exact later
          · exact more longer
      next free =>
        refine ⟨fun left => ⟨left, .inl ?_⟩, fun left => left.1⟩
        have shorter := left.length_le
        omega
  rw [stays, suffix_shed_iff nonempty suffix]
  refine and_congr_right fun _ => or_congr_right (exists_congr fun older => ?_)
  constructor
  · intro longer
    have inside := longer.trans (shed_suffix limits.bytes need entries)
    exact ⟨inside, (suffix_shed_iff (List.cons_ne_nil older part) inside).mp longer⟩
  · rintro ⟨inside, fits⟩
    exact (suffix_shed_iff (List.cons_ne_nil older part) inside).mpr fits

/-- The count is limited too, but for the one entry that is stored under any limit. -/
theorem length_kept_lt {limits : Limits} (need : ℕ) {entries : List (Entry K T V)}
    (few : entries.length ≤ max 1 limits.entries) : (kept limits need entries).length < max 1 limits.entries := by
  have fewer := (shed_suffix limits.bytes need entries).length_le
  unfold kept
  dsimp only
  split
  · rw [List.length_tail]
    omega
  · omega

/-- The entry of a key is no longer among the others. -/
theorem find_cons_without [DecidableEq K] {key : K} {entry : Entry K T V} {entries : List (Entry K T V)}
    (found : find entries key = some entry) :
    (without entries key).length + 1 ≤ entries.length ∧ bytes (without entries key) + entry.size ≤ bytes entries := by
  obtain ⟨keyed, before, after, rfl, -⟩ := List.find?_eq_some_iff_append.mp found
  have rest : (without (before ++ entry :: after) key).Sublist (before ++ after) := by
    rw [without, List.filter_append, List.filter_cons_of_neg (by simpa using keyed)]
    exact List.Sublist.append List.filter_sublist List.filter_sublist
  have shorter := rest.length_le
  have smaller := bytes_le_of_sublist rest
  simp only [bytes, List.map_append, List.map_cons, List.sum_append, List.sum_cons, List.length_append,
    List.length_cons] at shorter smaller ⊢
  omega

structure Within (limits : Limits) (entries : List (Entry K T V)) : Prop where
  count : entries.length ≤ max 1 limits.entries
  bytes : bytes entries ≤ limits.bytes

theorem Within.sublist {limits : Limits} {some all : List (Entry K T V)} (within : Within limits all)
    (part : some.Sublist all) : Within limits some :=
  ⟨part.length_le.trans within.count, (bytes_le_of_sublist part).trans within.bytes⟩

theorem Within.touch [DecidableEq K] {limits : Limits} {entries : List (Entry K T V)} (within : Within limits entries)
    {key : K} {entry : Entry K T V} (found : find entries key = some entry) (now : Int) :
    Within limits (without entries key ++ [{ entry with accessed := now }]) := by
  obtain ⟨count, size⟩ := find_cons_without found
  refine ⟨?_, ?_⟩
  · rw [List.length_append, List.length_singleton]
    exact count.trans within.count
  · have moved := size.trans within.bytes
    simpa [Lru.bytes] using moved

theorem Within.store {limits : Limits} {entries : List (Entry K T V)} (within : Within limits entries)
    {entry : Entry K T V} (fits : entry.size ≤ limits.bytes) :
    Within limits (kept limits entry.size entries ++ [entry]) := by
  have room := kept_fits fits entries
  have count := length_kept_lt entry.size within.count
  refine ⟨?_, ?_⟩
  · rw [List.length_append, List.length_singleton]
    exact count
  · simpa [Lru.bytes] using room

section Requests

variable [DecidableEq K] [DecidableEq T] {limits : Limits} {cache : Cache K T V} {key : K} {tag : T} {now : Int}

theorem Within.getOrCreate (within : Within limits cache.entries) (loaded : Option (V × ℕ)) :
    Within limits (cache.getOrCreate limits key tag now loaded).1.entries := by
  have dropped : Within limits (without cache.entries key) := within.sublist List.filter_sublist
  have missed : Within limits (cache.miss limits key tag now loaded).1.entries := by
    unfold Cache.miss
    split
    · exact dropped
    · rename_i value size
      split
      · exact dropped
      · rename_i small
        have fits : (⟨key, tag, value, size, now⟩ : Entry K T V).size ≤ limits.bytes := not_lt.mp small
        exact dropped.store fits
  unfold Cache.getOrCreate
  split
  · rename_i entry found
    split
    · exact within.touch found now
    · exact missed
  · exact missed

/-- An entry is as it was, or accessed now. -/
theorem mem_getOrCreate {loaded : Option (V × ℕ)} {entry : Entry K T V}
    (member : entry ∈ (cache.getOrCreate limits key tag now loaded).1.entries) :
    entry ∈ cache.entries ∨ entry.accessed = now := by
  have missed : entry ∈ (cache.miss limits key tag now loaded).1.entries →
      entry ∈ cache.entries ∨ entry.accessed = now := by
    unfold Cache.miss
    intro stays
    split at stays
    · exact .inl (List.mem_of_mem_filter stays)
    · split at stays
      · exact .inl (List.mem_of_mem_filter stays)
      · rcases List.mem_append.mp stays with old | new
        · exact .inl (List.mem_of_mem_filter ((kept_suffix _ _ _).subset old))
        · exact .inr (by rw [List.mem_singleton.mp new])
  unfold Cache.getOrCreate at member
  split at member
  · split at member
    · rcases List.mem_append.mp member with old | new
      · exact .inl (List.mem_of_mem_filter old)
      · exact .inr (by rw [List.mem_singleton.mp new])
    · exact missed member
  · exact missed member

/-- Every request is a hit or a miss. -/
theorem getOrCreate_counts (loaded : Option (V × ℕ)) :
    (cache.getOrCreate limits key tag now loaded).1.hits + (cache.getOrCreate limits key tag now loaded).1.misses =
      cache.hits + cache.misses + 1 := by
  have missed : (cache.miss limits key tag now loaded).1.hits + (cache.miss limits key tag now loaded).1.misses =
      cache.hits + cache.misses + 1 := by
    unfold Cache.miss
    split
    · dsimp only
      omega
    · split
      · dsimp only
        omega
      · dsimp only
        omega
  unfold Cache.getOrCreate
  split
  · split
    · dsimp only
      omega
    · exact missed
  · exact missed

end Requests

end TelemetryLab.Lru
