import Mathlib.Data.List.Nodup
import Mathlib.Data.List.Perm.Basic
import Mathlib.Data.Prod.Lex
import TelemetryLab.Lib.OrderStatistic

/-! Paging by an offset into a sorted query.

Rows of equal keys may come in another order with every query, so a walk sees each
row once only if no page ends between two of them.
-/

set_option autoImplicit false
namespace TelemetryLab.OffsetPaging
open OrderStatistic

variable {A : Type}

/-- `LIMIT limit OFFSET offset` -/
def page (rows : List A) (offset limit : Nat) : List A := (rows.drop offset).take limit

theorem length_page (rows : List A) (offset limit : Nat) :
    (page rows offset limit).length = min limit (rows.length - offset) := by
  rw [page, List.length_take, List.length_drop]

/-- The walk through the pages, as long as the total is not reached. Each call sees an order of its own. -/
def walk (total limit : Nat) (orders : Nat → List A) : Nat → Nat → Nat → Option (List A)
  | 0, _, _ => none
  | fuel + 1, call, offset =>
    let items := page (orders call) offset limit
    if offset + items.length < total then
      (walk total limit orders fuel (call + 1) (offset + items.length)).map (items ++ ·)
    else some items

/-- What a client sees of an answer. -/
structure Answer (I : Type) where
  items : List I
  returned : Nat
  hasMore : Bool

/-- The client: the offset grows by `returned` while `hasMore` is true. -/
def follow {I : Type} (ask : Nat → Nat → Answer I) : Nat → Nat → Nat → Option (List I)
  | 0, _, _ => none
  | fuel + 1, call, offset =>
    let answer := ask call offset
    if answer.hasMore then (follow ask fuel (call + 1) (offset + answer.returned)).map (answer.items ++ ·)
    else some answer.items

/-- The answer that shows the rows of a page. -/
def answerOf {I : Type} (shown : A → I) (total limit offset : Nat) (rows : List A) : Answer I :=
  let items := (page rows offset limit).map shown
  ⟨items, items.length, decide (offset + items.length < total)⟩

/-- A client that is shown the rows of each page walks through the pages. -/
theorem follow_answerOf {I : Type} (shown : A → I) (total limit : Nat) (orders : Nat → List A)
    (fuel call offset : Nat) : follow (fun call offset => answerOf shown total limit offset (orders call)) fuel call offset =
      (walk total limit orders fuel call offset).map (List.map shown) := by
  induction fuel generalizing call offset with
  | zero => rfl
  | succ fuel ih =>
    rw [follow, walk]
    simp only [answerOf, List.length_map, decide_eq_true_eq] at ih ⊢
    simp only [ih]
    split
    · cases walk total limit orders fuel (call + 1) (offset + (page (orders call) offset limit).length) with
      | none => rfl
      | some rest => simp
    · rfl

/-- What a client collects depends on the answers at the offsets it visits. -/
theorem follow_congr {I : Type} (ask other : Nat → Nat → Answer I) (visited : Nat → Nat)
    (next : ∀ call, (ask call (visited call)).hasMore = true →
      visited call + (ask call (visited call)).returned = visited (call + 1))
    (same : ∀ call, ask call (visited call) = other call (visited call)) (fuel call : Nat) :
    follow ask fuel call (visited call) = follow other fuel call (visited call) := by
  induction fuel generalizing call with
  | zero => rfl
  | succ fuel ih =>
    rw [follow, follow, ← same call]
    by_cases more : (ask call (visited call)).hasMore = true
    · simp only [if_pos more]
      rw [next call more, ih]
    · simp only [if_neg more]

/-- The page of a call when every page before it was full. -/
def pageAt (limit : Nat) (orders : Nat → List A) (call : Nat) : List A := page (orders call) (call * limit) limit

section Walk

variable {total limit : Nat} {orders : Nat → List A}

/-- Without a row for each of the total a walk never ends. -/
theorem walk_eq_none (few : ∀ call, (orders call).length < total) (fuel call offset : Nat)
    (inside : offset ≤ (orders call).length) (same : ∀ i j, (orders i).length = (orders j).length) :
    walk total limit orders fuel call offset = none := by
  induction fuel generalizing call offset with
  | zero => rfl
  | succ fuel ih =>
    have length := length_page (orders call) offset limit
    have missing := few call
    rw [walk, if_pos (by omega), ih, Option.map_none]
    rw [same (call + 1) call]
    omega

/-- A walk collects the pages up to the one that reaches the total. -/
theorem walk_pages (positive : 0 < limit) (lengths : ∀ call, (orders call).length = total) (count call fuel : Nat)
    (enough : total ≤ (call + count + 1) * limit) (needed : ∀ j, j < call + count → (j + 1) * limit < total)
    (fueled : count < fuel) : walk total limit orders fuel call (call * limit) =
      some ((List.range' call (count + 1)).flatMap (pageAt limit orders)) := by
  induction count generalizing call fuel with
  | zero =>
    obtain ⟨fuel, rfl⟩ : ∃ less, fuel = less + 1 := ⟨fuel - 1, by omega⟩
    have length := length_page (orders call) (call * limit) limit
    rw [lengths call] at length
    rw [Nat.add_zero, Nat.succ_mul] at enough
    have done : ¬ call * limit + (page (orders call) (call * limit) limit).length < total := by omega
    rw [walk, if_neg done]
    simp [pageAt]
  | succ count ih =>
    obtain ⟨fuel, rfl⟩ : ∃ less, fuel = less + 1 := ⟨fuel - 1, by omega⟩
    have length := length_page (orders call) (call * limit) limit
    rw [lengths call] at length
    have more := needed call (by omega)
    have next : (call + 1) * limit = call * limit + limit := Nat.succ_mul call limit
    have full : (page (orders call) (call * limit) limit).length = limit := by omega
    have rest := ih (call + 1) fuel (by rwa [Nat.add_right_comm call 1 count])
      (fun j below => needed j (by omega)) (by omega)
    rw [walk, full, if_pos (by omega), ← next, rest, List.range'_succ, List.flatMap_cons]
    rfl

/-- The number of pages after the first one. -/
def laterPages (total limit : Nat) : Nat := (total - 1) / limit

theorem length_le_pages (total : Nat) (positive : 0 < limit) : total ≤ (laterPages total limit + 1) * limit := by
  have most := Nat.lt_mul_div_succ (total - 1) positive
  rw [laterPages, Nat.mul_comm]
  omega

theorem walk_total (positive : 0 < limit) (lengths : ∀ call, (orders call).length = total) {fuel : Nat}
    (fueled : laterPages total limit < fuel) : walk total limit orders fuel 0 0 =
      some ((List.range (laterPages total limit + 1)).flatMap (pageAt limit orders)) := by
  have all := walk_pages positive lengths (laterPages total limit) 0 fuel
    (by rw [Nat.zero_add]; exact length_le_pages total positive) ?_ fueled
  · rwa [Nat.zero_mul, ← List.range_eq_range'] at all
  · intro j below
    rw [Nat.zero_add, laterPages] at below
    have least : (j + 1) * limit ≤ total - 1 := (Nat.le_div_iff_mul_le positive).mp below
    have some_ : 0 < (j + 1) * limit := Nat.mul_pos (Nat.succ_pos j) positive
    omega

/-- More fuel does not change what a walk has collected. -/
theorem walk_add {fuel call offset : Nat} {collected : List A} (ended : walk total limit orders fuel call offset = some collected)
    (more : Nat) : walk total limit orders (fuel + more) call offset = some collected := by
  induction fuel generalizing call offset collected with
  | zero => cases ended
  | succ fuel ih =>
    rw [Nat.succ_add]
    rw [walk] at ended ⊢
    split at ended
    next continues =>
      obtain ⟨rest, later, rfl⟩ := Option.map_eq_some_iff.mp ended
      rw [if_pos continues, ih later, Option.map_some]
    next stops => rw [if_neg stops, ended]

/-- The pages of one order joined together are its rows. -/
theorem flatMap_pageAt (rows : List A) (count : Nat) :
    (List.range count).flatMap (pageAt limit fun _ => rows) = rows.take (count * limit) := by
  induction count with
  | zero => simp
  | succ count ih =>
    rw [List.range_succ, List.flatMap_append, ih, Nat.succ_mul, List.take_add, List.flatMap_singleton]
    rfl

end Walk

/-! ## Orders with ties -/

section Keys

variable {K : Type} [LinearOrder K] {key : A → K} {rows arranged other : List A} {limit : Nat} {cut : K}

/-- An order that the query allows. -/
structure Arranged (key : A → K) (rows arranged : List A) : Prop where
  perm : arranged.Perm rows
  sorted : arranged.Pairwise fun a b => key a ≤ key b

/-- No page ends between two rows of the same key. -/
def Separates (limit : Nat) (keys : List K) : Prop :=
  ∀ count cut, ¬ (keys.countP (fun k => decide (k < cut)) < count * limit ∧
    count * limit < keys.countP fun k => decide (k ≤ cut))

theorem Arranged.length_eq (order : Arranged key rows arranged) : arranged.length = rows.length := order.perm.length_eq

theorem arranged_insertionSort (key : A → K) (rows : List A) :
    Arranged key rows (rows.insertionSort fun a b => key a ≤ key b) := by
  have total : Std.Total fun a b : A => key a ≤ key b := ⟨fun a b => le_total (key a) (key b)⟩
  have trans : IsTrans A fun a b => key a ≤ key b := ⟨fun _ _ _ => le_trans⟩
  exact ⟨List.perm_insertionSort _ _, List.pairwise_insertionSort _ rows⟩

/-- In an order the rows below a key are the first ones. -/
theorem take_countP (sorted : rows.Pairwise fun a b => key a ≤ key b) (cut : K) :
    rows.take (rows.countP fun row => decide (key row < cut)) = rows.filter fun row => decide (key row < cut) := by
  induction rows with
  | nil => rfl
  | cons row rest ih =>
    obtain ⟨first, later⟩ := List.pairwise_cons.mp sorted
    by_cases below : key row < cut
    · rw [List.countP_cons_of_pos (by simpa using below), List.filter_cons_of_pos (by simpa using below),
        List.take_succ_cons, ih later]
    · have none : ∀ other ∈ row :: rest, ¬ decide (key other < cut) = true := by
        intro other member
        rw [decide_eq_true_iff, not_lt]
        rcases List.mem_cons.mp member with rfl | behind
        · exact not_lt.mp below
        · exact (not_lt.mp below).trans (first other behind)
      rw [List.countP_eq_zero.mpr none, List.filter_eq_nil_iff.mpr none, List.take_zero]

/-- The value at a place of an order is the one of that rank. -/
theorem Arranged.hasRank (order : Arranged key rows arranged) {i : Nat} (inside : i < arranged.length) :
    HasRank (rows.map key) i (key arranged[i]) := by
  have sorted : (arranged.map key).Pairwise (· ≤ ·) := List.pairwise_map.mpr order.sorted
  have selected : NthElement (rows.map key) (arranged.map key) i (key arranged[i]) := by
    refine ⟨order.perm.map key, by simp [inside], ?_, ?_⟩
    · intro k member
      obtain ⟨j, bound, rfl⟩ := List.getElem_of_mem member
      rw [List.length_take, List.length_map] at bound
      rw [List.getElem_take, List.getElem_map]
      exact List.pairwise_iff_getElem.mp order.sorted j i (by omega) inside (by omega)
    · intro k member
      obtain ⟨j, bound, rfl⟩ := List.getElem_of_mem member
      rw [List.length_drop, List.length_map] at bound
      rw [List.getElem_drop, List.getElem_map]
      exact List.pairwise_iff_getElem.mp order.sorted i (i + 1 + j) inside (by omega) (by omega)
  exact selected.hasRank

/-- Where a cut separates the keys, all orders have the same rows before it. -/
theorem Arranged.take_perm (first : Arranged key rows arranged) (second : Arranged key rows other) (count : Nat)
    (separates : Separates limit (rows.map key)) :
    (arranged.take (count * limit)).Perm (other.take (count * limit)) := by
  rcases Nat.lt_or_ge (count * limit) arranged.length with inside | all
  · have ranked := first.hasRank inside
    have low := ranked.below
    have apart := separates count (key arranged[count * limit])
    have high := ranked.upTo
    have cut : (rows.map key).countP (fun k => decide (k < key arranged[count * limit])) = count * limit := by omega
    rw [List.countP_map] at cut
    have before {list : List A} (order : Arranged key rows list) :
        list.take (count * limit) = list.filter fun row => decide (key row < key arranged[count * limit]) := by
      rw [← take_countP order.sorted, order.perm.countP_eq]
      exact congrArg list.take cut.symm
    rw [before first, before second]
    exact (first.perm.trans second.perm.symm).filter _
  · rw [List.take_of_length_le all, List.take_of_length_le (by rwa [second.length_eq, ← first.length_eq])]
    exact first.perm.trans second.perm.symm

/-- ... and so the same rows on every page. -/
theorem Arranged.page_perm (first : Arranged key rows arranged) (second : Arranged key rows other)
    (separates : Separates limit (rows.map key)) (call : Nat) :
    (page arranged (call * limit) limit).Perm (page other (call * limit) limit) := by
  have before := first.take_perm second call separates
  have upTo := first.take_perm second (call + 1) separates
  rw [Nat.succ_mul, List.take_add, List.take_add] at upTo
  exact (List.perm_append_left_iff _).mp (upTo.trans (before.symm.append_right _))

variable {orders : Nat → List A}

/-- A walk returns every row once when no page ends inside a tie. -/
theorem walk_exact (positive : 0 < limit) (separates : Separates limit (rows.map key))
    (allowed : ∀ call, Arranged key rows (orders call)) :
    ∃ fuel collected, walk rows.length limit orders fuel 0 0 = some collected ∧ collected.Perm rows := by
  have sorted := arranged_insertionSort key rows
  refine ⟨_, _, walk_total positive (fun call => (allowed call).length_eq) (Nat.lt_succ_self _), ?_⟩
  have whole : (List.range (laterPages rows.length limit + 1)).flatMap
      (pageAt limit fun _ => rows.insertionSort fun a b => key a ≤ key b) = rows.insertionSort fun a b => key a ≤ key b := by
    rw [flatMap_pageAt, List.take_of_length_le]
    rw [sorted.length_eq]
    have most := length_le_pages rows.length positive
    omega
  have same : ((List.range (laterPages rows.length limit + 1)).flatMap (pageAt limit orders)).Perm
      ((List.range (laterPages rows.length limit + 1)).flatMap
        (pageAt limit fun _ => rows.insertionSort fun a b => key a ≤ key b)) :=
    List.Perm.flatMap_left _ fun call _ => (allowed call).page_perm sorted separates call
  rw [whole] at same
  exact same.trans sorted.perm

/-- A client of a server that may choose an order for every call collects every row once when no page ends inside a
tie. -/
theorem follow_exact {I : Type} {shown : A → I} {ask : Nat → Nat → Answer I} (positive : 0 < limit)
    (separates : Separates limit (rows.map key)) (answers : ∀ call offset, ∃ arranged, Arranged key rows arranged ∧
      ask call offset = answerOf shown rows.length limit offset arranged) :
    ∃ fuel collected, follow ask fuel 0 0 = some collected ∧ collected.Perm (rows.map shown) := by
  choose orders allowed shows using answers
  obtain ⟨fuel, collected, walked, all⟩ :=
    walk_exact positive separates fun call => allowed call (call * limit)
  refine ⟨fuel, collected.map shown, ?_, all.map shown⟩
  -- a client comes to the multiples of the limit only
  have visited := follow_congr ask
    (fun call offset => answerOf shown rows.length limit offset (orders call (call * limit)))
    (fun call => call * limit) ?_ (fun call => shows call (call * limit)) fuel 0
  · simp only [Nat.zero_mul] at visited
    rw [visited, follow_answerOf, walked, Option.map_some]
  · intro call more
    have length := length_page (orders call (call * limit)) (call * limit) limit
    rw [(allowed call (call * limit)).length_eq] at length
    rw [shows call (call * limit)] at more ⊢
    simp only [answerOf, List.length_map, decide_eq_true_eq] at more ⊢
    rw [Nat.succ_mul]
    omega

/-! ## Two rows of the same key with a page between them -/

theorem countP_le_eq (keys : List K) (cut : K) :
    keys.countP (fun k => decide (k ≤ cut)) = keys.countP (fun k => decide (k < cut)) + keys.count cut := by
  induction keys with
  | nil => rfl
  | cons k keys ih =>
    rw [List.countP_cons, List.countP_cons, List.count_cons, ih]
    rcases lt_trichotomy k cut with below | rfl | above
    · simp [below, below.le, below.ne]
      omega
    · simp
      omega
    · simp [above.not_ge, above.not_gt, above.ne']

/-- Keys that differ are separated wherever a page ends. -/
theorem separates_of_nodup {keys : List K} (distinct : keys.Nodup) (limit : Nat) : Separates limit keys := by
  rintro count cut ⟨low, high⟩
  have once := List.nodup_iff_count_le_one.mp distinct cut
  rw [countP_le_eq] at high
  omega

/-- A single page has no end inside. -/
theorem separates_of_length_le {keys : List K} (all : keys.length ≤ limit) : Separates limit keys := by
  rintro count cut ⟨low, high⟩
  have bound := high.trans_le (List.countP_le_length.trans all)
  cases count with
  | zero => omega
  | succ count =>
    rw [Nat.succ_mul] at bound
    omega

/-- Rows of equal keys in the places around a cut may be exchanged. -/
theorem Arranged.swap (order : Arranged key rows arranged) {i : Nat} (inside : i + 1 < arranged.length)
    (tie : key arranged[i] = key arranged[i + 1]) :
    Arranged key rows (arranged.take i ++ arranged[i + 1] :: arranged[i] :: arranged.drop (i + 2)) := by
  have parts : arranged = arranged.take i ++ arranged[i] :: arranged[i + 1] :: arranged.drop (i + 2) := by
    rw [List.getElem_cons_drop, List.getElem_cons_drop, List.take_append_drop]
  have exchanged : (arranged.take i ++ arranged[i + 1] :: arranged[i] :: arranged.drop (i + 2)).Perm arranged := by
    conv => rhs; rw [parts]
    exact (List.Perm.swap _ _ _).append_left _
  have sameKeys : (arranged.take i ++ arranged[i + 1] :: arranged[i] :: arranged.drop (i + 2)).map key =
      arranged.map key := by
    conv => rhs; rw [parts]
    simp only [List.map_append, List.map_cons, tie]
  refine ⟨exchanged.trans order.perm, ?_⟩
  have sorted := List.pairwise_map.mpr order.sorted
  rw [← sameKeys] at sorted
  exact List.pairwise_map.mp sorted

/-- Where keys are not separated, two neighbours of the same key stand around the end of a page. -/
theorem Arranged.exists_tie (order : Arranged key rows arranged) (tie : ¬ Separates limit (rows.map key)) :
    ∃ before i, ∃ inside : i + 1 < arranged.length, (before + 1) * limit = i + 1 ∧
      key arranged[i] = key arranged[i + 1] := by
  simp only [Separates, not_forall, not_not] at tie
  obtain ⟨count, cut, low, high⟩ := tie
  cases count with
  | zero => omega
  | succ before =>
    obtain ⟨i, next⟩ : ∃ i, (before + 1) * limit = i + 1 := ⟨(before + 1) * limit - 1, by omega⟩
    have inside : i + 1 < arranged.length := by
      have bound := high.trans_le List.countP_le_length
      rw [List.length_map, ← order.length_eq] at bound
      omega
    have here : key arranged[i] = cut := (order.hasRank (by omega)).unique ⟨by omega, by omega⟩
    have there : key arranged[i + 1] = cut := (order.hasRank inside).unique ⟨by omega, by omega⟩
    exact ⟨before, i, inside, next, here.trans there.symm⟩

theorem mem_page {offset place : Nat} {row : A} (found : rows[place]? = some row) (behind : offset ≤ place)
    (before : place < offset + limit) : row ∈ page rows offset limit := by
  rw [page, List.mem_iff_getElem?]
  refine ⟨place - offset, ?_⟩
  rw [List.getElem?_take_of_lt (by omega), List.getElem?_drop, Nat.add_sub_cancel' behind, found]

/-- A row on two pages of a walk is collected twice. -/
theorem not_nodup_of_pages (positive : 0 < limit) {total fuel first second : Nat} {orders : Nat → List A}
    {collected : List A} {row : A} (lengths : ∀ call, (orders call).length = total)
    (ended : walk total limit orders fuel 0 0 = some collected) (less : first < second)
    (reached : second ≤ laterPages total limit) (once : row ∈ pageAt limit orders first)
    (again : row ∈ pageAt limit orders second) : ¬ collected.Nodup := by
  intro distinct
  have fueled : laterPages total limit < fuel + (laterPages total limit + 1) := by omega
  have pages := walk_total positive lengths fueled
  rw [walk_add ended] at pages
  cases pages
  have apart := List.pairwise_iff_getElem.mp (List.nodup_flatMap.mp distinct).2 first second
    (by rw [List.length_range]; omega) (by rw [List.length_range]; omega) less
  rw [List.getElem_range, List.getElem_range] at apart
  exact apart once again

/-- Where a page ends inside a tie, a walk may return a row twice. -/
theorem exists_walk_twice (positive : 0 < limit) (tie : ¬ Separates limit (rows.map key)) :
    ∃ orders : Nat → List A, (∀ call, Arranged key rows (orders call)) ∧
      ∀ fuel collected, walk rows.length limit orders fuel 0 0 = some collected → ¬ collected.Nodup := by
  have order := arranged_insertionSort key rows
  generalize (rows.insertionSort fun a b => key a ≤ key b) = arranged at order
  obtain ⟨before, i, inside, next, same⟩ := order.exists_tie tie
  have swapped := order.swap inside same
  have there : (arranged.take i ++ arranged[i + 1] :: arranged[i] :: arranged.drop (i + 2))[i + 1]? = some arranged[i] := by
    rw [List.getElem?_append_right (by rw [List.length_take]; omega), List.length_take_of_le (by omega)]
    simp
  generalize arranged.take i ++ arranged[i + 1] :: arranged[i] :: arranged.drop (i + 2) = exchanged at swapped there
  -- the server exchanges the two neighbours behind the page that ends between them
  let orders (call : Nat) : List A := if call ≤ before then arranged else exchanged
  have allowed : ∀ call, Arranged key rows (orders call) := by
    intro call
    by_cases early : call ≤ before
    · simpa only [orders, if_pos early] using order
    · simpa only [orders, if_neg early] using swapped
  refine ⟨orders, allowed, fun fuel collected ended => ?_⟩
  have reached : before + 1 ≤ laterPages rows.length limit := by
    rw [laterPages, Nat.le_div_iff_mul_le positive]
    rw [order.length_eq] at inside
    omega
  rw [Nat.succ_mul] at next
  have once : arranged[i] ∈ pageAt limit orders before := by
    rw [pageAt, show orders before = arranged from if_pos le_rfl]
    exact mem_page (List.getElem?_eq_getElem _) (by omega) (by omega)
  have again : arranged[i] ∈ pageAt limit orders (before + 1) := by
    rw [pageAt, show orders (before + 1) = exchanged from if_neg (by omega), Nat.succ_mul]
    exact mem_page there (by omega) (by omega)
  exact not_nodup_of_pages positive (fun call => (allowed call).length_eq) ended (Nat.lt_succ_self before) reached once again

/-! ## Two rows among the first ones -/

/-- The other rows that come before `a` or `b` in every order. -/
def ahead [DecidableEq A] (key : A → K) (a b : A) (rows : List A) : List A :=
  rows.filter fun row => decide (row ≠ a ∧ row ≠ b ∧ key row < max (key a) (key b))

/-- The keys with ties resolved in favour of two rows. -/
def favour [DecidableEq A] (key : A → K) (a b : A) (row : A) : K ×ₗ Nat :=
  toLex (key row, if row = a ∨ row = b then 0 else 1)

theorem Arranged.mem_first_or_behind (order : Arranged key rows arranged) {row : A} (member : row ∈ rows) (k : Nat) :
    row ∈ arranged.take k ∨ row ∈ arranged.drop k := by
  rw [← List.mem_append, List.take_append_drop]
  exact order.perm.mem_iff.mpr member

theorem Arranged.first_le_behind (order : Arranged key rows arranged) {k : Nat} {x y : A} (first : x ∈ arranged.take k)
    (behind : y ∈ arranged.drop k) : key x ≤ key y := by
  have sorted := order.sorted
  rw [← List.take_append_drop k arranged, List.pairwise_append] at sorted
  exact sorted.2.2 x first y behind

theorem key_le_of_favour [DecidableEq A] {a b x y : A} (before : favour key a b x ≤ favour key a b y) :
    key x ≤ key y := by
  rcases Prod.Lex.toLex_le_toLex.mp before with less | ⟨same, -⟩
  · exact less.le
  · exact same.le

theorem key_lt_of_favour [DecidableEq A] {a b x y : A} (before : favour key a b x ≤ favour key a b y)
    (favoured : y = a ∨ y = b) (other : ¬ (x = a ∨ x = b)) : key x < key y := by
  rcases Prod.Lex.toLex_le_toLex.mp before with less | ⟨-, tie⟩
  · exact less
  · simp [favoured, other] at tie

/-- A favoured row that is not among the first ones has only rows ahead of it there. -/
theorem length_lt_of_notMem_take [DecidableEq A] {a b x y : A} (distinct : rows.Nodup) {k : Nat}
    (order : Arranged (favour key a b) rows arranged) (pair : (x = a ∧ y = b) ∨ (x = b ∧ y = a)) (member : x ∈ rows)
    (missing : x ∉ arranged.take k) : k ≤ (ahead key a b rows).length + 1 := by
  have nodup : arranged.Nodup := order.perm.nodup_iff.mpr distinct
  have behind := (order.mem_first_or_behind member k).resolve_left missing
  have full : (arranged.take k).length = k := by
    rw [List.length_take, min_eq_left]
    have some_ := List.length_pos_of_mem behind
    rw [List.length_drop] at some_
    omega
  have first : arranged.take k ⊆ y :: ahead key a b rows := by
    intro row early
    have before := order.first_le_behind early behind
    have notX : row ≠ x := by
      rintro rfl
      exact missing early
    by_cases notY : row = y
    · exact notY ▸ List.mem_cons_self
    refine List.mem_cons_of_mem _ (List.mem_filter.mpr ⟨order.perm.mem_iff.mp (List.mem_of_mem_take early), ?_⟩)
    rw [decide_eq_true_iff]
    rcases pair with ⟨rfl, rfl⟩ | ⟨rfl, rfl⟩
    · exact ⟨notX, notY, (key_lt_of_favour before (.inl rfl) (by simp [notX, notY])).trans_le (le_max_left _ _)⟩
    · exact ⟨notY, notX, (key_lt_of_favour before (.inr rfl) (by simp [notX, notY])).trans_le (le_max_right _ _)⟩
  have few := (List.subperm_of_subset (nodup.sublist (List.take_sublist k arranged)) first).length_le
  rwa [full, List.length_cons] at few

/-- Some order has both rows among the first `k` if and only if the rows ahead of them leave two places. -/
theorem exists_both_first_iff [DecidableEq A] {a b : A} (distinct : rows.Nodup) (different : a ≠ b) (left : a ∈ rows)
    (right : b ∈ rows) (k : Nat) :
    (∃ arranged, Arranged key rows arranged ∧ a ∈ arranged.take k ∧ b ∈ arranged.take k) ↔
      (ahead key a b rows).length + 2 ≤ k := by
  constructor
  · rintro ⟨arranged, order, first, second⟩
    have nodup : (a :: b :: ahead key a b rows).Nodup := by
      simp [ahead, different, distinct.filter]
    have early : a :: b :: ahead key a b rows ⊆ arranged.take k := by
      intro row member
      rcases List.mem_cons.mp member with rfl | member
      · exact first
      rcases List.mem_cons.mp member with rfl | member
      · exact second
      obtain ⟨inside, facts⟩ := List.mem_filter.mp member
      obtain ⟨-, -, less⟩ := of_decide_eq_true facts
      refine (order.mem_first_or_behind inside k).resolve_right fun behind => ?_
      -- a row behind both has a key that is not less than either
      exact absurd less (not_lt.mpr (max_le (order.first_le_behind first behind) (order.first_le_behind second behind)))
    have few := (List.subperm_of_subset nodup early).length_le
    rw [List.length_cons, List.length_cons, List.length_take] at few
    omega
  · intro room
    have order := arranged_insertionSort (favour key a b) rows
    generalize rows.insertionSort (fun x y => favour key a b x ≤ favour key a b y) = arranged at order
    refine ⟨arranged, ⟨order.perm, order.sorted.imp key_le_of_favour⟩, ?_, ?_⟩
    · by_contra missing
      have few := length_lt_of_notMem_take distinct order (.inl ⟨rfl, rfl⟩) left missing
      omega
    · by_contra missing
      have few := length_lt_of_notMem_take distinct order (.inr ⟨rfl, rfl⟩) right missing
      omega

end Keys

end TelemetryLab.OffsetPaging
