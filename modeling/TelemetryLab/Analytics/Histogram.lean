import Mathlib.Algebra.Order.Round
import Mathlib.Data.Rat.Floor
import Mathlib.Data.PNat.Basic
import TelemetryLab.Analytics.TimeSeries
import TelemetryLab.Lib.Bins

/-! The histogram of a metric: `GetHistogram` in `db_client.cpp` and its handler.

A double is a rational. How the result of an operation is rounded to a double, and
how the database server turns a decimal number into one, are parameters; nothing
overflows. The number of bins is positive.
-/

set_option autoImplicit false
namespace TelemetryLab.Analytics
open Server (Raised ErrorAnswer sendError)

structure Histogram where
  requestedBins : ℕ+
  edges : List ℚ
  counts : List ℕ
  deriving DecidableEq, Repr

/-- Decimal numbers as doubles; the larger number does not become the smaller double. -/
structure ToDouble where
  convert : ℚ → ℚ
  monotone : Monotone convert

/-- The rounding of the result of an operation to a double; zero is a double. -/
structure Rounding where
  round : ℚ → ℚ
  monotone : Monotone round
  zero : round 0 = 0

/-- The number that `std::to_string` writes, which has six decimals. -/
def sixDecimals (x : ℚ) : ℚ := Bins.roundTo 1000000 x

/-- A bound of `width_bucket`, which the query holds as text. -/
def ToDouble.bound (toDouble : ToDouble) (x : ℚ) : ℚ := toDouble.convert (sixDecimals x)

/-- The bucket of `x` for ascending bounds. -/
def bucketOf (lo hi : ℚ) (n : ℕ+) (x : ℚ) : Int :=
  if x < lo then 0 else if hi ≤ x then (n : ℕ) + 1 else ⌊(x - lo) / (hi - lo) * (n : ℕ)⌋ + 1

/-- `width_bucket(x, lo, hi, n)` -/
def widthBucket (lo hi : ℚ) (n : ℕ+) (x : ℚ) : Except Raised Int :=
  if lo = hi then .error (.sqlError "lower bound cannot equal upper bound")
  else if lo < hi then .ok (bucketOf lo hi n x)
  else .ok (bucketOf (-lo) (-hi) n (-x))

/-- The rows of the dataset have these values. -/
def metricValues (rows : List (ArchivedRow ℚ)) (runId metric : String) : List ℚ :=
  (rows.filter fun row => decide (row.runId = runId)).map fun row => row.column metric

/-- `SELECT MIN(..), MAX(..)`, if the caller has not given a range. -/
def resolveRange (rows : List (ArchivedRow ℚ)) (runId metric : String) (minVal maxVal : ℚ) : ℚ × ℚ :=
  if maxVal ≤ minVal then
    match (metricValues rows runId metric).min?, (metricValues rows runId metric).max? with
    | some lowest, some highest => (lowest, highest)
    | _, _ => (minVal, maxVal)
  else (minVal, maxVal)

/-- `GROUP BY b ORDER BY b ASC` -/
def groupCounts (buckets : List Int) : List (Int × ℕ) :=
  (buckets.dedup.insertionSort fun a b => a ≤ b).map fun b => (b, buckets.count b)

/-- The index of a bucket; the buckets of the values outside the range have none. -/
def binIndex (bins : ℕ+) (b : Int) : Option ℕ := if 1 ≤ b ∧ b ≤ (bins : ℕ) then some (b - 1).toNat else none

/-- The answer for the buckets of the rows. Edge `i` is `min_val + step * i`. -/
def Histogram.ofBuckets (rounding : Rounding) (requestedBins bins : ℕ+) (minVal maxVal : ℚ) (buckets : List Int) :
    Histogram :=
  { requestedBins
    edges := Bins.points rounding.round minVal maxVal bins
    counts := Bins.fill (binIndex bins) (List.replicate bins 0) (groupCounts buckets) }

def getHistogram (rounding : Rounding) (toDouble : ToDouble) (text : TimestampText) (rows : List (ArchivedRow ℚ))
    (runId metric : String) (bins : ℕ+) (minVal maxVal : ℚ) (filters : Filters) : Except Raised Histogram :=
  if isValidMetric metric = false then .error (.thrown (.invalidArgument ("Invalid metric: " ++ metric)))
  else
    let requestedBins := bins
    let bins := min bins 500
    let (minVal, maxVal) := resolveRange rows runId metric minVal maxVal
    -- no row, or rows of one value only
    if maxVal ≤ minVal then .ok ⟨requestedBins, [], []⟩
    else do
      let matched ← selectRows text rows runId filters
      let buckets ← (matched.map fun row => row.column metric).mapM
        (widthBucket (toDouble.bound minVal) (toDouble.bound maxVal) bins)
      .ok (Histogram.ofBuckets rounding requestedBins bins minVal maxVal buckets)

/-- The handler; what it adds to the histogram of its answer is left out. -/
def handleDatasetHistogram (rounding : Rounding) (toDouble : ToDouble) (text : TimestampText)
    (rows : List (ArchivedRow ℚ)) (runId metric : String) (bins : ℕ+) (minVal maxVal : ℚ) (range : String) (filters : Filters) :
    Except ErrorAnswer Histogram :=
  if metric = "" then .error (sendError "metric required" 400 "E_HTTP_INVALID_ARGUMENT")
  else
    let (minVal, maxVal) := if range = "minmax" then (0, 0) else (minVal, maxVal)
    match getHistogram rounding toDouble text rows runId metric bins minVal maxVal filters with
    | .ok data => .ok data
    | .error (.thrown (.invalidArgument what)) => .error (sendError what 400 "E_HTTP_INVALID_ARGUMENT")
    | .error raised => .error (sendError raised.what 500 "E_DB_QUERY_FAILED")

/-! ## Counts -/

section Counts

variable {lo hi : ℚ} {bins : ℕ+}

theorem binIndex_eq_some {b : Int} {i : ℕ} : binIndex bins b = some i ↔ b = i + 1 ∧ i < (bins : ℕ) := by
  rw [binIndex, Option.ite_none_right_eq_some, Option.some.injEq]
  omega

/-- A value has a bin if it is in the half-open range. -/
theorem binIndex_bucketOf (ascending : lo < hi) (x : ℚ) :
    (binIndex bins (bucketOf lo hi bins x)).isSome = decide (lo ≤ x ∧ x < hi) := by
  have numbered : (binIndex bins (bucketOf lo hi bins x)).isSome =
      decide (1 ≤ bucketOf lo hi bins x ∧ bucketOf lo hi bins x ≤ (bins : ℕ)) := by
    rw [binIndex]
    split <;> simp [*]
  rw [numbered, decide_eq_decide, bucketOf]
  have width : 0 < hi - lo := sub_pos.mpr ascending
  have positive : (0 : ℚ) < (bins : ℕ) := Nat.cast_pos.mpr bins.pos
  split
  next below => simp [below.not_ge]
  next inside =>
    rw [not_lt] at inside
    split
    next above => simp [above.not_gt]
    next inRange =>
      rw [not_le] at inRange
      -- the quotient is at least 0 and less than 1, and the floor one of the numbers of the bins
      have lower : 0 ≤ (x - lo) / (hi - lo) * (bins : ℕ) :=
        mul_nonneg (div_nonneg (sub_nonneg.mpr inside) width.le) positive.le
      have upper : (x - lo) / (hi - lo) * (bins : ℕ) < (bins : ℕ) :=
        mul_lt_of_lt_one_left positive ((div_lt_one width).mpr (sub_lt_sub_right inRange lo))
      have first : 0 ≤ ⌊(x - lo) / (hi - lo) * (bins : ℕ)⌋ := Int.floor_nonneg.mpr lower
      have last : ⌊(x - lo) / (hi - lo) * (bins : ℕ)⌋ < (bins : ℕ) := Int.floor_lt.mpr (by exact_mod_cast upper)
      exact iff_of_true ⟨by omega, by omega⟩ ⟨inside, inRange⟩

theorem binIndex_injective (a b : Int) (i : ℕ) (first : binIndex bins a = some i) (second : binIndex bins b = some i) :
    a = b :=
  (binIndex_eq_some.mp first).1.trans (binIndex_eq_some.mp second).1.symm

/-- The counts sum up to the number of buckets that have a bin. -/
theorem sum_counts (buckets : List Int) :
    (Bins.fill (binIndex bins) (List.replicate bins 0) (groupCounts buckets)).sum =
      buckets.countP fun b => (binIndex bins b).isSome := by
  have sorted : (buckets.dedup.insertionSort fun a b => a ≤ b).Perm buckets.dedup := List.perm_insertionSort _ _
  have keys : (groupCounts buckets).map Prod.fst = buckets.dedup.insertionSort fun a b => a ≤ b := by
    rw [groupCounts, List.map_map]
    exact List.map_id _
  have distinct : ((groupCounts buckets).map Prod.fst).Nodup := by
    rw [keys, sorted.nodup_iff]
    exact buckets.nodup_dedup
  -- every bin is written once at most, over its initial 0
  have empty : ∀ group ∈ groupCounts buckets, ∀ i, binIndex bins group.1 = some i →
      (List.replicate (bins : ℕ) 0)[i]? = some 0 := by
    intro group _ i found
    rw [List.getElem?_replicate, if_pos (binIndex_eq_some.mp found).2]
  rw [Bins.sum_fill binIndex_injective distinct empty, List.sum_replicate, nsmul_zero, Nat.zero_add, groupCounts,
    List.filter_map, List.map_map, ← List.sum_map_count_dedup_filter_eq_countP]
  exact ((sorted.filter _).map _).sum_eq

end Counts

/-! ## Conservation -/

/-- The edges lead from the smallest value to the largest one, and every row of the dataset is counted. -/
structure Histogram.Conserves (h : Histogram) (bins : ℕ+) (values : List ℚ) : Prop where
  size : h.edges.length = bins + 1
  increasing : h.edges.Pairwise (· < ·)
  first : h.edges.head? = values.min?
  last : h.edges.getLast? = values.max?
  counted : h.counts.sum = values.length

section Conservation

variable {rounding : Rounding} {toDouble : ToDouble} {text : TimestampText} {rows : List (ArchivedRow ℚ)}
  {runId metric : String} {bins : ℕ+} {minVal maxVal lowest highest : ℚ}

theorem sixDecimals_mono : Monotone sixDecimals := Bins.roundTo_mono 1000000

theorem ToDouble.bound_mono (toDouble : ToDouble) : Monotone toDouble.bound :=
  toDouble.monotone.comp sixDecimals_mono

/-- Two values that differ span a range. -/
theorem exists_range {values : List ℚ} (distinct : ∃ x ∈ values, ∃ y ∈ values, x ≠ y) :
    ∃ lowest highest, values.min? = some lowest ∧ values.max? = some highest ∧ lowest < highest := by
  obtain ⟨x, first, y, second, different⟩ := distinct
  obtain ⟨lowest, smallest⟩ := Option.isSome_iff_exists.mp (List.isSome_min?_of_mem first)
  obtain ⟨highest, largest⟩ := Option.isSome_iff_exists.mp (List.isSome_max?_of_mem first)
  obtain ⟨_, below⟩ := List.min?_eq_some_iff.mp smallest
  obtain ⟨_, above⟩ := List.max?_eq_some_iff.mp largest
  refine ⟨lowest, highest, smallest, largest, lt_of_not_ge fun reversed => different ?_⟩
  have only : ∀ z ∈ values, z = lowest := fun z member =>
    le_antisymm ((above z member).trans reversed) (below z member)
  rw [only x first, only y second]

/-- The range `minmax` is the automatic one, whatever bounds the request has. -/
theorem handleDatasetHistogram_minmax {filters : Filters} {h : Histogram} :
    handleDatasetHistogram rounding toDouble text rows runId metric bins minVal maxVal "minmax" filters = .ok h ↔
      getHistogram rounding toDouble text rows runId metric bins 0 0 filters = .ok h := by
  rw [handleDatasetHistogram]
  split
  next unnamed =>
    subst unnamed
    exact iff_of_false nofun nofun
  next named =>
    simp only [if_true]
    split
    next returned => rw [returned, Except.ok.injEq, Except.ok.injEq]
    next refused => exact iff_of_false nofun (by simp [refused])
    next failed => exact iff_of_false nofun (by simp [failed])

/-- All values have a bucket when the bounds are apart. -/
theorem mapM_widthBucket {lo hi : ℚ} (ascending : lo < hi) (values : List ℚ) :
    values.mapM (widthBucket lo hi bins) = .ok (values.map (bucketOf lo hi bins)) := by
  have bucket : widthBucket lo hi bins = fun x => pure (bucketOf lo hi bins x) := by
    funext x
    rw [widthBucket, if_neg ascending.ne, if_pos ascending]
    rfl
  rw [bucket, List.mapM_pure]
  rfl

/-- Equal bounds are an error as soon as there is a value. -/
theorem mapM_widthBucket_self (bins : ℕ+) (lo : ℚ) {values : List ℚ} (some_ : values ≠ []) :
    ∃ raised, values.mapM (widthBucket lo lo bins) = .error raised := by
  cases values with
  | nil => exact absurd rfl some_
  | cons x rest =>
    rw [List.mapM_cons, widthBucket, if_pos rfl]
    exact ⟨_, rfl⟩

/-- With no filters the buckets are those of the values between the smallest and the largest one. -/
theorem getHistogram_automatic (valid : isValidMetric metric = true) (capped : bins ≤ 500) (automatic : maxVal ≤ minVal)
    (smallest : (metricValues rows runId metric).min? = some lowest)
    (largest : (metricValues rows runId metric).max? = some highest) (apart : lowest < highest) :
    getHistogram rounding toDouble text rows runId metric bins minVal maxVal {} =
      ((metricValues rows runId metric).mapM
        (widthBucket (toDouble.bound lowest) (toDouble.bound highest) bins)).map
          (Histogram.ofBuckets rounding bins bins lowest highest) := by
  have resolved : resolveRange rows runId metric minVal maxVal = (lowest, highest) := by
    rw [resolveRange, if_pos automatic, smallest, largest]
  have selected : selectRows text rows runId {} = .ok (rows.filter fun row => decide (row.runId = runId)) := by
    have unfiltered : (Filters.selects {} runId : ArchivedRow ℚ → Bool) = fun row => decide (row.runId = runId) := by
      funext row
      simp [Filters.selects]
    rw [selectRows_unbounded ⟨rfl, rfl⟩, unfiltered]
  rw [getHistogram, if_neg (by simp [valid])]
  simp only [resolved, min_eq_left capped, if_neg apart.not_ge, selected]
  change (metricValues rows runId metric).mapM (widthBucket (toDouble.bound lowest) (toDouble.bound highest) bins) >>=
    _ = _
  cases (metricValues rows runId metric).mapM (widthBucket (toDouble.bound lowest) (toDouble.bound highest) bins) with
  | error raised => rfl
  | ok buckets => rfl

/-- The counts leave the values out that are not between the bounds of the query. -/
theorem sum_counts_ofBuckets {lo hi : ℚ} (ascending : lo < hi) {values : List ℚ} (smallest : values.min? = some lowest)
    (largest : values.max? = some highest) :
    (Histogram.ofBuckets rounding bins bins lowest highest (values.map (bucketOf lo hi bins))).counts.sum =
      values.length ↔ lo ≤ lowest ∧ highest < hi := by
  obtain ⟨low, below⟩ := List.min?_eq_some_iff.mp smallest
  obtain ⟨high, above⟩ := List.max?_eq_some_iff.mp largest
  rw [Histogram.ofBuckets, sum_counts, List.countP_map, List.countP_eq_length]
  simp only [Function.comp_apply, binIndex_bucketOf ascending, decide_eq_true_eq]
  constructor
  · intro inside
    exact ⟨(inside lowest low).1, (inside highest high).2⟩
  · -- what lies between the two is in the range as soon as they are
    rintro ⟨first, last⟩ x member
    exact ⟨first.trans (below x member), (above x member).trans_lt last⟩

/-- The edges are as they should be if rounding loses none of the steps. -/
theorem ofBuckets_conserves_iff {lo hi : ℚ} (ascending : lo < hi) {values : List ℚ}
    (smallest : values.min? = some lowest) (largest : values.max? = some highest) (apart : lowest < highest)
    (double : rounding.round lowest = lowest) :
    (Histogram.ofBuckets rounding bins bins lowest highest (values.map (bucketOf lo hi bins))).Conserves bins values ↔
      (lo ≤ lowest ∧ highest < hi) ∧ Bins.Divides rounding.round lowest highest bins := by
  have increasing := Bins.points_increasing_iff (n := bins) rounding.monotone rounding.zero apart.le
  have counted : (Histogram.ofBuckets rounding bins bins lowest highest (values.map (bucketOf lo hi bins))).counts.sum =
      values.length ↔ lo ≤ lowest ∧ highest < hi := sum_counts_ofBuckets ascending smallest largest
  constructor
  · intro conserves
    refine ⟨counted.mp conserves.counted, ?_, increasing.mp conserves.increasing⟩
    have last := conserves.last.trans largest
    rw [Histogram.ofBuckets, Bins.getLast?_points, Option.some.injEq] at last
    exact last
  · rintro ⟨inside, divides⟩
    exact {
      size := by rw [Histogram.ofBuckets, Bins.length_points]
      increasing := increasing.mpr divides.moves
      first := (Bins.head?_points rounding.zero double).trans smallest.symm
      last := by rw [Histogram.ofBuckets, Bins.getLast?_points, divides.arrives, largest]
      counted := counted.mpr inside }

/-- The text of the smallest value is not greater than it, the text of the largest
value is greater, and the steps between them survive the rounding. -/
structure InRange (rounding : Rounding) (toDouble : ToDouble) (bins : ℕ+) (lowest highest : ℚ) : Prop where
  low : toDouble.bound lowest ≤ lowest
  high : highest < toDouble.bound highest
  divides : Bins.Divides rounding.round lowest highest bins

/-- The histogram of a column of doubles is complete if and only if its smallest
and its largest value are in range. -/
theorem histogram_conserves_iff (valid : isValidMetric metric = true) (capped : bins ≤ 500)
    (automatic : maxVal ≤ minVal) (doubles : ∀ x ∈ metricValues rows runId metric, rounding.round x = x)
    (distinct : ∃ x ∈ metricValues rows runId metric, ∃ y ∈ metricValues rows runId metric, x ≠ y) :
    (∃ h, getHistogram rounding toDouble text rows runId metric bins minVal maxVal {} = .ok h ∧
        h.Conserves bins (metricValues rows runId metric)) ↔
      ∀ lowest highest, (metricValues rows runId metric).min? = some lowest →
        (metricValues rows runId metric).max? = some highest → InRange rounding toDouble bins lowest highest := by
  obtain ⟨lowest, highest, smallest, largest, apart⟩ := exists_range distinct
  have double := doubles lowest (List.min?_eq_some_iff.mp smallest).1
  rw [getHistogram_automatic valid capped automatic smallest largest apart]
  have only : (∀ a b, (metricValues rows runId metric).min? = some a → (metricValues rows runId metric).max? = some b →
      InRange rounding toDouble bins a b) ↔ InRange rounding toDouble bins lowest highest := by
    refine ⟨fun all => all lowest highest smallest largest, fun inRange a b first last => ?_⟩
    cases smallest.symm.trans first
    cases largest.symm.trans last
    exact inRange
  rw [only]
  rcases (toDouble.bound_mono apart.le).lt_or_eq with ascending | same
  · rw [mapM_widthBucket ascending]
    simp only [Except.map, Except.ok.injEq, exists_eq_left']
    rw [ofBuckets_conserves_iff ascending smallest largest apart double]
    exact ⟨fun ⟨inside, divides⟩ => ⟨inside.1, inside.2, divides⟩, fun ⟨low, high, divides⟩ => ⟨⟨low, high⟩, divides⟩⟩
  · -- the texts of the bounds are equal and the query fails
    have nonempty : metricValues rows runId metric ≠ [] := by
      intro empty
      rw [empty] at smallest
      cases smallest
    obtain ⟨raised, failed⟩ := mapM_widthBucket_self bins (toDouble.bound highest) nonempty
    rw [same, failed]
    refine iff_of_false (by simp [Except.map]) fun inside => ?_
    exact absurd (same ▸ inside.low) (apart.trans inside.high).not_ge

end Conservation

/-! ## Two values -/

/-- A record of the dataset `d` with this CPU usage. -/
def cpuRecord (recordId : Int) (cpuUsage : ℚ) : ArchivedRow ℚ :=
  ⟨⟨recordId, "d", cpuUsage, 20, 30, 40, 50⟩, "host-A-0", "us-east1", 1767225600000000, false, none⟩

/-- Numbers of six decimals that are doubles. -/
def exactDoubles : ToDouble := ⟨id, monotone_id⟩

/-- Operations whose results are doubles. -/
def exactOperations : Rounding := ⟨id, monotone_id, rfl⟩

theorem histogram_conserves_below_half :
    ∃ h, getHistogram exactOperations exactDoubles isoText [cpuRecord 1 0, cpuRecord 2 (536870911 / 1073741824)] "d"
        "cpu_usage" 4 0 0 {} = .ok h ∧ h.Conserves 4 [0, 536870911 / 1073741824] := by
  refine (histogram_conserves_iff (by decide) (by decide) le_rfl (fun _ _ => rfl) ?_).mpr ?_
  · exact ⟨0, by decide +kernel, 536870911 / 1073741824, by decide +kernel, by decide +kernel⟩
  · intro lowest highest smallest largest
    cases smallest
    cases largest
    exact ⟨by decide +kernel, by decide +kernel,
      Bins.divides_of_exact (by decide +kernel) (by decide) rfl rfl (fun _ _ => rfl) fun _ _ => rfl⟩

theorem largest_row_not_counted : ¬ ∀ (rounding : Rounding) (toDouble : ToDouble) (text : TimestampText)
    (rows : List (ArchivedRow ℚ)) (runId metric : String) (bins : ℕ+) (minVal maxVal : ℚ),
    isValidMetric metric = true → bins ≤ 500 → maxVal ≤ minVal →
    (∀ x ∈ metricValues rows runId metric, rounding.round x = x) →
    (∃ x ∈ metricValues rows runId metric, ∃ y ∈ metricValues rows runId metric, x ≠ y) →
    ∃ h, getHistogram rounding toDouble text rows runId metric bins minVal maxVal {} = .ok h ∧
      h.Conserves bins (metricValues rows runId metric) := by
  intro conserved
  obtain ⟨h, returned, conserves⟩ := conserved exactOperations exactDoubles isoText [cpuRecord 1 10, cpuRecord 2 20] "d"
    "cpu_usage" 2 0 0 (by decide) (by decide) le_rfl (fun _ _ => rfl)
    ⟨10, by decide +kernel, 20, by decide +kernel, by decide +kernel⟩
  have histogram : getHistogram exactOperations exactDoubles isoText [cpuRecord 1 10, cpuRecord 2 20] "d" "cpu_usage"
      2 0 0 {} = .ok ⟨2, [10, 15, 20], [1, 0]⟩ := by
    decide +kernel
  cases histogram.symm.trans returned
  cases conserves.counted

end TelemetryLab.Analytics
