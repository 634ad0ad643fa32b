import Mathlib.Data.List.Perm.Basic

/-! Patterns of paths whose segments are words or captured runs of characters, and
tables of them that are searched for a match.

Two patterns are apart if no path can match both. A table whose patterns are apart
gives the same answer to every search that finds a match where there is one.
-/

set_option autoImplicit false
namespace TelemetryLab.PathPattern

inductive Segment where
  | word (text : List Char)
  /-- One or more characters of some ranges, captured. -/
  | capture (ranges : List (Char × Char))
  deriving DecidableEq, Repr

def inRanges (ranges : List (Char × Char)) (c : Char) : Bool := ranges.any fun range => range.1 ≤ c && c ≤ range.2

namespace Segment

def accepts : Segment → List Char → Bool
  | word text, part => part == text
  | capture ranges, part => !part.isEmpty && part.all (inRanges ranges)

/-- What a segment adds to the captures of a match. -/
def captured : Segment → List Char → List (List Char)
  | word _, _ => []
  | capture _, part => [part]

/-- A segment does not reach over a separator. -/
def contained (separator : Char) : Segment → Bool
  | word text => !text.contains separator
  | capture ranges => !inRanges ranges separator

/-- No part of a path is accepted by both. -/
def apart : Segment → Segment → Bool
  | word text, word other => text != other
  | word text, capture ranges => !(capture ranges).accepts text
  | capture ranges, word text => !(capture ranges).accepts text
  | capture _, capture _ => false

theorem apart_sound {first second : Segment} (separate : first.apart second = true) {part : List Char}
    (left : first.accepts part = true) : second.accepts part = false := by
  cases first with
  | word text =>
    have same : part = text := by simpa [accepts] using left
    subst same
    cases second with
    | word other => simpa [apart, accepts] using separate
    | capture ranges => simpa [apart] using separate
  | capture ranges =>
    cases second with
    | word text =>
      by_contra both
      have same : part = text := by simpa [accepts] using both
      rw [← same] at separate
      simp only [apart, left, Bool.not_true, Bool.false_eq_true] at separate
    | capture others => cases separate

theorem contained_of_accepts {separator : Char} {segment : Segment} (plain : segment.contained separator = true)
    {part : List Char} (accepted : segment.accepts part = true) : separator ∉ part := by
  cases segment with
  | word text =>
    have same : part = text := by simpa [accepts] using accepted
    subst same
    simpa [contained] using plain
  | capture ranges =>
    intro member
    simp only [accepts, Bool.and_eq_true, List.all_eq_true] at accepted
    simp only [contained, accepted.2 separator member, Bool.not_true, Bool.false_eq_true] at plain

end Segment

/-- The parts of a path against the segments of a pattern. -/
def matchParts : List Segment → List (List Char) → Option (List (List Char))
  | [], [] => some []
  | segment :: rest, part :: parts =>
    if segment.accepts part then (matchParts rest parts).map (segment.captured part ++ ·) else none
  | _, _ => none

/-- A path is a separator before each of its parts. -/
def matchPath (separator : Char) (pattern : List Segment) : List Char → Option (List (List Char))
  | [] => none
  | c :: rest => if c = separator then matchParts pattern (rest.splitOn separator) else none

/-- The parts a pattern makes of captures; none if they do not fit. -/
def fill : List Segment → List (List Char) → Option (List (List Char))
  | [], [] => some []
  | .word text :: rest, captures => (fill rest captures).map (text :: ·)
  | .capture ranges :: rest, captured :: captures =>
    if (Segment.capture ranges).accepts captured then (fill rest captures).map (captured :: ·) else none
  | _, _ => none

def render (separator : Char) (pattern : List Segment) (captures : List (List Char)) : Option (List Char) :=
  (fill pattern captures).map fun parts => parts.flatMap (separator :: ·)

/-! ## Matching and filling are inverse -/

theorem matchParts_iff_fill (pattern : List Segment) (parts captures : List (List Char)) :
    matchParts pattern parts = some captures ↔ fill pattern captures = some parts := by
  induction pattern generalizing parts captures with
  | nil =>
    cases parts <;> cases captures <;> simp [matchParts, fill]
  | cons segment rest ih =>
    cases segment with
    | word text =>
      cases parts with
      | nil => simp [matchParts, fill]
      | cons part parts =>
        by_cases same : part = text
        · subst same
          simp [matchParts, fill, Segment.accepts, Segment.captured, ih]
        · simp [matchParts, fill, Segment.accepts, same, Ne.symm same]
    | capture ranges =>
      cases parts with
      | nil =>
        cases captures with
        | nil => simp [matchParts, fill]
        | cons captured captures => simp [matchParts, fill]
      | cons part parts =>
        cases captures with
        | nil => simp [matchParts, fill, Segment.captured]
        | cons captured captures =>
          by_cases same : captured = part
          · subst same
            by_cases fits : (Segment.capture ranges).accepts captured = true
            · simp [matchParts, fill, fits, Segment.captured, ih]
            · simp [matchParts, fill, fits]
          · simp [matchParts, fill, Segment.captured, same, Ne.symm same]

theorem fill_contained {separator : Char} {pattern : List Segment} {captures parts : List (List Char)}
    (plain : ∀ segment ∈ pattern, segment.contained separator = true) (filled : fill pattern captures = some parts) :
    parts.length = pattern.length ∧ ∀ part ∈ parts, separator ∉ part := by
  rw [← matchParts_iff_fill] at filled
  induction pattern generalizing parts captures with
  | nil =>
    cases parts with
    | nil => simp
    | cons part parts => cases filled
  | cons segment rest ih =>
    cases parts with
    | nil => cases filled
    | cons part parts =>
      simp only [matchParts] at filled
      split at filled
      next accepted =>
        obtain ⟨captures, matched, -⟩ := Option.map_eq_some_iff.mp filled
        obtain ⟨size, clean⟩ := ih (fun segment member => plain segment (List.mem_cons_of_mem _ member)) matched
        refine ⟨by simp [size], fun other member => ?_⟩
        rcases List.mem_cons.mp member with rfl | later
        · exact Segment.contained_of_accepts (plain segment List.mem_cons_self) accepted
        · exact clean other later
      · cases filled

theorem flatMap_separator (separator : Char) {parts : List (List Char)} (some : parts ≠ []) :
    parts.flatMap (separator :: ·) = separator :: [separator].intercalate parts := by
  induction parts with
  | nil => exact absurd rfl some
  | cons part parts ih =>
    cases parts with
    | nil => simp
    | cons next parts =>
      rw [List.flatMap_cons, ih (List.cons_ne_nil _ _)]
      simp

/-- A path matches with the captures from which the pattern makes it, and with no others. -/
theorem matchPath_iff_render {separator : Char} {pattern : List Segment} (some : pattern ≠ [])
    (plain : ∀ segment ∈ pattern, segment.contained separator = true) (path : List Char)
    (captures : List (List Char)) :
    matchPath separator pattern path = .some captures ↔ render separator pattern captures = .some path := by
  rw [render, Option.map_eq_some_iff]
  constructor
  · intro matched
    cases path with
    | nil => cases matched
    | cons c rest =>
      simp only [matchPath] at matched
      split at matched
      next here =>
        subst here
        have present : rest.splitOn c ≠ [] := List.splitOn_ne_nil c rest
        refine ⟨rest.splitOn c, (matchParts_iff_fill _ _ _).mp matched, ?_⟩
        rw [flatMap_separator c present, List.intercalate_splitOn]
      · cases matched
  · rintro ⟨parts, filled, rfl⟩
    obtain ⟨size, clean⟩ := fill_contained plain filled
    have present : parts ≠ [] := by
      rintro rfl
      exact some (List.length_eq_zero_iff.mp size.symm)
    rw [flatMap_separator separator present, matchPath, if_pos rfl, List.splitOn_intercalate separator clean present]
    exact (matchParts_iff_fill _ _ _).mpr filled

/-! ## Tables -/

/-- Two patterns that no path matches both. -/
def apart : List Segment → List Segment → Bool
  | [], [] => false
  | first :: rest, second :: others => first.apart second || apart rest others
  | _, _ => true

theorem matchParts_apart {first second : List Segment} (separate : apart first second = true)
    {parts captures : List (List Char)} (left : matchParts first parts = some captures) :
    matchParts second parts = none := by
  induction first generalizing second parts captures with
  | nil =>
    cases second with
    | nil => cases separate
    | cons segment others =>
      cases parts with
      | nil => rfl
      | cons part parts => cases left
  | cons segment rest ih =>
    cases parts with
    | nil => cases left
    | cons part parts =>
      cases second with
      | nil => rfl
      | cons other others =>
        simp only [matchParts] at left ⊢
        split at left
        next accepted =>
          obtain ⟨captures, matched, -⟩ := Option.map_eq_some_iff.mp left
          rcases Bool.or_eq_true _ _ ▸ separate with here | later
          · rw [Segment.apart_sound here accepted]
            rfl
          · rw [ih later matched]
            simp
        · cases left

theorem matchPath_apart {separator : Char} {first second : List Segment} (separate : apart first second = true)
    {path : List Char} {captures : List (List Char)} (left : matchPath separator first path = some captures) :
    matchPath separator second path = none := by
  cases path with
  | nil => cases left
  | cons c rest =>
    simp only [matchPath] at left ⊢
    split at left
    next here =>
      rw [if_pos here]
      exact matchParts_apart separate left
    · cases left

theorem Segment.apart_comm (first second : Segment) : first.apart second = second.apart first := by
  cases first <;> cases second <;> simp [Segment.apart, bne_comm]

theorem apart_comm (first second : List Segment) : apart first second = apart second first := by
  induction first generalizing second with
  | nil => cases second <;> rfl
  | cons segment rest ih =>
    cases second with
    | nil => rfl
    | cons other others => rw [apart, apart, Segment.apart_comm, ih]

structure Route (M H : Type) where
  method : M
  pattern : List Segment
  handler : H
  deriving DecidableEq, Repr

section Dispatch

variable {M H : Type} [DecidableEq M]

/-- What a route answers to a request. -/
def Route.answer (separator : Char) (method : M) (path : List Char) (route : Route M H) :
    Option (H × List (List Char)) :=
  if route.method = method then (matchPath separator route.pattern path).map (route.handler, ·) else none

/-- The first route that matches answers. -/
def dispatch (separator : Char) (table : List (Route M H)) (method : M) (path : List Char) :
    Option (H × List (List Char)) :=
  table.findSome? (Route.answer separator method path)

/-- Patterns that stand for at least one segment each and do not reach over a separator. -/
def WellFormed (separator : Char) (table : List (Route M H)) : Prop :=
  ∀ route ∈ table, route.pattern ≠ [] ∧ ∀ segment ∈ route.pattern, segment.contained separator = true

/-- No request matches two of the routes. -/
def Distinct (table : List (Route M H)) : Prop :=
  table.Pairwise fun first second => first.method = second.method → apart first.pattern second.pattern = true

omit [DecidableEq M] in
theorem Distinct.perm {table other : List (Route M H)} (distinct : Distinct table) (same : table.Perm other) :
    Distinct other := by
  refine (same.pairwise_iff fun {first second} separate methods => ?_).mp distinct
  rw [apart_comm]
  exact separate methods.symm

theorem answer_eq_none {separator : Char} {method : M} {path : List Char} {first second : Route M H}
    (separate : first.method = second.method → apart first.pattern second.pattern = true)
    {answer : H × List (List Char)} (answered : first.answer separator method path = some answer) :
    second.answer separator method path = none := by
  unfold Route.answer at answered ⊢
  split at answered
  next here =>
    obtain ⟨captures, matched, -⟩ := Option.map_eq_some_iff.mp answered
    split
    next also => rw [matchPath_apart (separate (here.trans also.symm)) matched, Option.map_none]
    · rfl
  · cases answered

theorem dispatch_eq_some_iff_exists {separator : Char} {table : List (Route M H)} (distinct : Distinct table)
    {method : M} {path : List Char} {answer : H × List (List Char)} :
    dispatch separator table method path = some answer ↔
      ∃ route ∈ table, route.answer separator method path = some answer := by
  induction table with
  | nil => simp [dispatch]
  | cons first rest ih =>
    obtain ⟨separate, distinct⟩ := List.pairwise_cons.mp distinct
    have later := ih distinct
    simp only [dispatch] at later ⊢
    rw [List.findSome?_cons, List.exists_mem_cons_iff, ← later]
    cases answered : first.answer separator method path with
    | none => simp
    | some found =>
      refine ⟨fun same => .inl same, fun either => ?_⟩
      rcases either with same | other
      · exact same
      · obtain ⟨route, member, also⟩ := later.mp other
        rw [answer_eq_none (separate route member) answered] at also
        cases also

/-- The table answers exactly the paths its patterns make. -/
theorem dispatch_iff {separator : Char} {table : List (Route M H)} (wellFormed : WellFormed separator table)
    (distinct : Distinct table) (method : M) (path : List Char) (handler : H) (captures : List (List Char)) :
    dispatch separator table method path = some (handler, captures) ↔
      ∃ route ∈ table, route.method = method ∧ route.handler = handler ∧
        render separator route.pattern captures = some path := by
  rw [dispatch_eq_some_iff_exists distinct]
  refine exists_congr fun route => and_congr_right fun member => ?_
  obtain ⟨some, plain⟩ := wellFormed route member
  rw [Route.answer, ← matchPath_iff_render some plain]
  by_cases here : route.method = method
  · rw [if_pos here, Option.map_eq_some_iff]
    simp only [Prod.mk.injEq, here, true_and]
    constructor
    · rintro ⟨found, matched, named, rfl⟩
      exact ⟨named, matched⟩
    · rintro ⟨named, matched⟩
      exact ⟨captures, matched, named, rfl⟩
  · simp [here]

/-- The order of the table does not matter. -/
theorem dispatch_perm (separator : Char) {table other : List (Route M H)} (distinct : Distinct table)
    (same : table.Perm other) (method : M) (path : List Char) :
    dispatch separator table method path = dispatch separator other method path := by
  apply Option.ext
  intro answer
  rw [dispatch_eq_some_iff_exists distinct, dispatch_eq_some_iff_exists (distinct.perm same)]
  exact exists_congr fun route => and_congr_left fun _ => same.mem_iff

/-- A table with other handlers on the same patterns. -/
def renamed {G : Type} (f : H → G) (table : List (Route M H)) : List (Route M G) :=
  table.map fun route => ⟨route.method, route.pattern, f route.handler⟩

theorem dispatch_renamed {G : Type} (f : H → G) (separator : Char) (table : List (Route M H)) (method : M)
    (path : List Char) :
    dispatch separator (renamed f table) method path =
      (dispatch separator table method path).map fun answer => (f answer.1, answer.2) := by
  induction table with
  | nil => rfl
  | cons route rest ih =>
    have same : Route.answer separator method path ⟨route.method, route.pattern, f route.handler⟩ =
        (route.answer separator method path).map fun answer => (f answer.1, answer.2) := by
      unfold Route.answer
      split
      · rw [Option.map_map]
        rfl
      · rfl
    simp only [dispatch, renamed, List.map_cons, List.findSome?_cons, same] at ih ⊢
    cases route.answer separator method path with
    | none => exact ih
    | some answer => rfl

end Dispatch

/-! ## Other searches -/

/-- A search of tables: it answers with a route that matches, if there is one. -/
structure Dispatcher (M : Type) [DecidableEq M] (separator : Char) where
  find : {H : Type} → List (Route M H) → M → List Char → Option (H × List (List Char))
  sound : ∀ {H : Type} (table : List (Route M H)) (method : M) (path : List Char) (answer : H × List (List Char)),
    find table method path = some answer → ∃ route ∈ table, route.answer separator method path = some answer
  complete : ∀ {H : Type} (table : List (Route M H)) (method : M) (path : List Char), find table method path = none →
    ∀ route ∈ table, route.answer separator method path = none

section Dispatcher

variable {M : Type} [DecidableEq M] {separator : Char}

/-- Every search finds what the first match is, where no request has two. -/
theorem Dispatcher.find_eq {H : Type} (dispatcher : Dispatcher M separator) {table : List (Route M H)}
    (distinct : Distinct table) (method : M) (path : List Char) :
    dispatcher.find table method path = dispatch separator table method path := by
  cases found : dispatcher.find table method path with
  | some answer => exact ((dispatch_eq_some_iff_exists distinct).mpr (dispatcher.sound table method path answer found)).symm
  | none =>
    refine (List.findSome?_eq_none_iff.mpr ?_).symm
    exact dispatcher.complete table method path found

def firstMatch (M : Type) [DecidableEq M] (separator : Char) : Dispatcher M separator where
  find := dispatch separator
  sound _ _ _ _ found := List.exists_of_findSome?_eq_some found
  complete _ _ _ missed := List.findSome?_eq_none_iff.mp missed

end Dispatcher

end TelemetryLab.PathPattern
