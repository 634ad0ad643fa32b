import Mathlib.Data.List.Sort
import TelemetryLab.Lib.Arrangement
import TelemetryLab.Lib.Delimited
import TelemetryLab.Training.Hpo

/-! The fingerprint of a tuning configuration (`ComputeCandidateFingerprint` in
`pca_trainer.cpp`) and the candidates it stands for.

The search space is sorted before it is hashed. The candidates are drawn from
the space as it was given, and not all of them are drawn.
-/

set_option autoImplicit false
namespace TelemetryLab.Training
open Arrangement Delimited

def kHpoGeneratorVersion : String := "hpo_generator_v1"

/-- The document that is hashed. -/
structure Normalized where
  algorithm : String
  generatorVersion : String
  maxConcurrency : Int
  maxTrials : Int
  nComponents : List Int
  percentile : List ℚ
  seed : Option Int
  deriving DecidableEq

def HpoConfig.normalized (hpo : HpoConfig) : Normalized where
  algorithm := hpo.algorithm
  generatorVersion := kHpoGeneratorVersion
  maxConcurrency := max 1 (min hpo.maxConcurrency 10)
  maxTrials := hpo.maxTrials
  nComponents := hpo.searchSpace.nComponents.insertionSort (· ≤ ·)
  percentile := hpo.searchSpace.percentile.insertionSort (· ≤ ·)
  seed := hpo.seed

/-! ## Its text -/

/-- A character inside a JSON string. -/
def escapeChar (c : Char) : String :=
  match c.toNat with
  | 8 => "\\b"
  | 9 => "\\t"
  | 10 => "\\n"
  | 12 => "\\f"
  | 13 => "\\r"
  | 34 => "\\\""
  | 92 => "\\\\"
  | code => if code < 32 then "\\u00" ++ String.ofList [(code / 16).digitChar, (code % 16).digitChar] else c.toString

def quoted (text : String) : String := "\"" ++ String.join (text.toList.map escapeChar) ++ "\""

def array (items : List String) : String := "[" ++ ",".intercalate items ++ "]"

def dumpSeed : Option Int → String
  | some seed => seed.repr
  | none => "null"

/-- The document as text; `number` writes a double. Objects are ordered by their keys. -/
def Normalized.dump (number : ℚ → String) (doc : Normalized) : String :=
  "\x7b\"algorithm\":" ++ quoted doc.algorithm ++ ",\"generator_version\":" ++ quoted doc.generatorVersion ++
    ",\"max_concurrency\":" ++ doc.maxConcurrency.repr ++ ",\"max_trials\":" ++ doc.maxTrials.repr ++
    ",\"search_space\":\x7b\"n_components\":" ++ array (doc.nComponents.map Int.repr) ++
    ",\"percentile\":" ++ array (doc.percentile.map number) ++ "\x7d,\"seed\":" ++ dumpSeed doc.seed ++ "\x7d"

/-- The hash of the text, in hexadecimal digits. -/
def computeCandidateFingerprint (number : ℚ → String) (hash : String → UInt64) (hpo : HpoConfig) : String :=
  String.ofList ((hash (hpo.normalized.dump number)).toNat.toDigits 16)

example : (HpoConfig.normalized ⟨"grid", 1, 2, none, ⟨[2, 1], []⟩⟩).dump (fun _ => "") =
    "\x7b\"algorithm\":\"grid\",\"generator_version\":\"hpo_generator_v1\",\"max_concurrency\":2,\"max_trials\":1," ++
      "\"search_space\":\x7b\"n_components\":[1,2],\"percentile\":[]\x7d,\"seed\":null\x7d" := by
  decide +kernel

/-- What is used of the text of a double: two doubles have different texts, and
neither a separator nor the end of an array occurs in one. -/
structure Prints (number : ℚ → String) : Prop where
  injective : Function.Injective number
  plain : ∀ p, ',' ∉ (number p).toList ∧ ']' ∉ (number p).toList ∧ (number p).toList ≠ []

section Text

variable {number : ℚ → String} {doc other : Normalized}

theorem repr_free (n : Int) : ',' ∉ n.repr.toList ∧ ']' ∉ n.repr.toList ∧ n.repr.toList ≠ [] :=
  ⟨Foreign.notMem (by decide) n, Foreign.notMem (by decide) n, repr_ne_nil n⟩

theorem toList_array (items : List String) (rest : List Char) :
    (array items).toList ++ rest = '[' :: ([','].intercalate (items.map String.toList) ++ ']' :: rest) := by
  simp [array, String.toList_intercalate]

/-- An array can be read back, whatever follows it. -/
theorem array_cut {A : Type} {text : A → String} (injective : Function.Injective text)
    (free : ∀ a, ',' ∉ (text a).toList ∧ ']' ∉ (text a).toList ∧ (text a).toList ≠ []) {first second : List A}
    {rest others : List Char}
    (same : (array (first.map text)).toList ++ rest = (array (second.map text)).toList ++ others) :
    first = second ∧ rest = others := by
  have inner : ∀ list : List A, ∀ item ∈ (list.map text).map String.toList,
      ',' ∉ item ∧ ']' ∉ item ∧ item ≠ [] := by
    intro list item member
    obtain ⟨printed, inside, rfl⟩ := List.mem_map.mp member
    obtain ⟨a, -, rfl⟩ := List.mem_map.mp inside
    exact free a
  have unclosed : ∀ list : List A, ']' ∉ [','].intercalate ((list.map text).map String.toList) := by
    intro list member
    rcases mem_intercalate member with comma | ⟨item, inside, found⟩
    · cases comma
    · exact (inner list item inside).2.1 found
  rw [toList_array, toList_array] at same
  obtain ⟨content, rfl⟩ := cut (unclosed first) (unclosed second) (List.cons.inj same).2
  have equal := intercalate_injective (fun item member => ⟨(inner first item member).1, (inner first item member).2.2⟩)
    (fun item member => ⟨(inner second item member).1, (inner second item member).2.2⟩) content
  have printed := List.map_injective_iff.mpr (fun _ _ => String.toList_injective) equal
  exact ⟨List.map_injective_iff.mpr injective printed, rfl⟩

theorem dumpSeed_free (seed : Option Int) : '\x7d' ∉ (dumpSeed seed).toList := by
  cases seed with
  | none => decide
  | some seed => exact Foreign.notMem (by decide) seed

theorem dumpSeed_injective : Function.Injective dumpSeed := by
  have unlike : ∀ n : Int, n.repr ≠ "null" := by
    intro n same
    have member : 'n' ∈ n.repr.toList := by
      rw [same]
      decide
    exact Foreign.notMem (by decide) n member
  intro first second same
  cases first with
  | none =>
    cases second with
    | none => rfl
    | some m => exact absurd same.symm (unlike m)
  | some n =>
    cases second with
    | none => exact absurd same (unlike n)
    | some m => exact congrArg some (Int.repr_injective same)

theorem quoted_cut {first second : String} (known : first = "grid" ∨ first = "random")
    (otherKnown : second = "grid" ∨ second = "random") {rest others : List Char}
    (same : (quoted first).toList ++ rest = (quoted second).toList ++ others) : first = second ∧ rest = others := by
  have grid : (quoted "grid").toList = "\"grid\"".toList := by decide
  have random : (quoted "random").toList = "\"random\"".toList := by decide
  rcases known with rfl | rfl <;> rcases otherKnown with rfl | rfl
  · exact ⟨rfl, List.append_cancel_left same⟩
  · simp [grid, random] at same
  · simp [grid, random] at same
  · exact ⟨rfl, List.append_cancel_left same⟩

/-- The text of a document with a known algorithm determines the document. -/
theorem dump_injective (prints : Prints number) (version : doc.generatorVersion = other.generatorVersion)
    (known : doc.algorithm = "grid" ∨ doc.algorithm = "random")
    (otherKnown : other.algorithm = "grid" ∨ other.algorithm = "random") (same : doc.dump number = other.dump number) :
    doc = other := by
  have text := congrArg String.toList same
  unfold Normalized.dump at text
  simp only [String.toList_append, List.append_assoc, version] at text
  obtain ⟨algorithm, text⟩ := quoted_cut known otherKnown (List.append_cancel_left text)
  -- the keys that follow a number begin with a comma
  have trialsKey : ",\"max_trials\":".toList = ',' :: "\"max_trials\":".toList := by rfl
  have spaceKey : ",\"search_space\":\x7b\"n_components\":".toList =
      ',' :: "\"search_space\":\x7b\"n_components\":".toList := by rfl
  rw [trialsKey, spaceKey] at text
  simp only [List.cons_append] at text
  obtain ⟨concurrency, text⟩ := repr_cut (by decide) (List.append_cancel_left (List.append_cancel_left
    (List.append_cancel_left text)))
  obtain ⟨trials, text⟩ := repr_cut (by decide) (List.append_cancel_left text)
  obtain ⟨ns, text⟩ := array_cut (fun _ _ => Int.repr_injective) repr_free (List.append_cancel_left text)
  obtain ⟨ps, text⟩ := array_cut prints.injective prints.plain (List.append_cancel_left text)
  obtain ⟨printed, -⟩ := cut (dumpSeed_free doc.seed) (dumpSeed_free other.seed) (List.append_cancel_left text)
  have seed := dumpSeed_injective (String.toList_injective printed)
  cases doc
  cases other
  simp_all

end Text

/-! ## The candidates -/

/-- The generator of the draws: for a seed and the sizes of the two axes, what it
delivers for each trial. -/
abbrev Generator := UInt32 → Nat → Nat → Nat → Nat × Nat

def HpoConfig.draws (generator : Generator) (hpo : HpoConfig) : Nat → Nat × Nat :=
  generator (UInt32.ofInt (hpo.seed.getD 0)) hpo.searchSpace.axes.1.length hpo.searchSpace.axes.2.length

def candidates (generator : Generator) (datasetId : String) (hpo : HpoConfig) : List (Int × ℚ) :=
  (generateTrials hpo datasetId (hpo.draws generator)).map fun trial => (trial.nComponents, trial.percentile)

/-- The positions at which the two axes are read. -/
def HpoConfig.places (generator : Generator) (hpo : HpoConfig) : List (Nat × Nat) :=
  if hpo.algorithm = "grid" then
    rowOrder hpo.searchSpace.axes.2.length
      (min hpo.maxTrials.toNat (hpo.searchSpace.axes.1.length * hpo.searchSpace.axes.2.length))
  else
    (List.range hpo.maxTrials.toNat).map fun i =>
      ((hpo.draws generator i).1 % hpo.searchSpace.axes.1.length,
        (hpo.draws generator i).2 % hpo.searchSpace.axes.2.length)

section Candidates

variable {hpo other : HpoConfig} {generator : Generator} {datasetId : String}

theorem places_inside (generator : Generator) (hpo : HpoConfig) {place : Nat × Nat}
    (member : place ∈ hpo.places generator) :
    place.1 < hpo.searchSpace.axes.1.length ∧ place.2 < hpo.searchSpace.axes.2.length := by
  have height := List.length_pos_of_ne_nil (axes_ne_nil hpo.searchSpace).1
  have width := List.length_pos_of_ne_nil (axes_ne_nil hpo.searchSpace).2
  rw [HpoConfig.places] at member
  split at member
  · obtain ⟨k, below, rfl⟩ := List.mem_map.mp member
    rw [List.mem_range] at below
    exact ⟨Nat.div_lt_of_lt_mul (by rw [Nat.mul_comm]; omega), Nat.mod_lt k width⟩
  · obtain ⟨i, -, rfl⟩ := List.mem_map.mp member
    exact ⟨Nat.mod_lt _ height, Nat.mod_lt _ width⟩

theorem places_ne_nil (accepted : validateHpoConfig hpo = []) : hpo.places generator ≠ [] := by
  have positive := (accepted_bounds accepted).2.1
  have height := List.length_pos_of_ne_nil (axes_ne_nil hpo.searchSpace).1
  have width := List.length_pos_of_ne_nil (axes_ne_nil hpo.searchSpace).2
  have table := Nat.mul_pos height width
  rw [← List.length_pos_iff, HpoConfig.places]
  split
  · rw [rowOrder, List.length_map, List.length_range]
    omega
  · rw [List.length_map, List.length_range]
    omega

theorem candidates_eq (accepted : validateHpoConfig hpo = []) :
    candidates generator datasetId hpo =
      valuesAt hpo.searchSpace.axes.1 hpo.searchSpace.axes.2 (hpo.places generator) := by
  obtain ⟨algorithm, positive, -⟩ := accepted_bounds accepted
  obtain ⟨maxTrials, counted⟩ := Int.eq_ofNat_of_zero_le (Int.le_of_lt positive)
  rw [valuesAt_eq_map (fun place => places_inside generator hpo) 0 0, HpoConfig.places]
  by_cases isGrid : hpo.algorithm = "grid"
  · have pairs := flatMap_eq_rowOrder hpo.searchSpace.axes.1 hpo.searchSpace.axes.2 0 0
    have projected : (hpo.searchSpace.axes.1.flatMap fun n => hpo.searchSpace.axes.2.map fun p =>
          (⟨datasetId, n, p⟩ : TrainingConfig)).map (fun trial => (trial.nComponents, trial.percentile)) =
        hpo.searchSpace.axes.1.flatMap fun n => hpo.searchSpace.axes.2.map fun p => (n, p) := by
      simp [List.map_flatMap, Function.comp_def]
    simp only [candidates, generateTrials]
    rw [if_pos isGrid, if_pos isGrid, counted, grid_eq _ _ _ _ _ (by simp), List.nil_append, List.map_take, projected,
      pairs, rowOrder, rowOrder, ← List.map_take, ← List.map_take, List.take_range]
    simp
  · simp [candidates, generateTrials, algorithm.resolve_left isGrid, Function.comp_def]

/-- The same configuration with its search space in another order. -/
def HpoConfig.arranged (hpo : HpoConfig) (ns : List Int) (ps : List ℚ) : HpoConfig where
  algorithm := hpo.algorithm
  maxTrials := hpo.maxTrials
  maxConcurrency := hpo.maxConcurrency
  seed := hpo.seed
  searchSpace :=
    ⟨if hpo.searchSpace.nComponents = [] then [] else ns, if hpo.searchSpace.percentile = [] then [] else ps⟩

theorem eq_nil_iff {A : Type} {first second : List A} (perm : first.Perm second) : first = [] ↔ second = [] := by
  rw [← List.length_eq_zero_iff, ← List.length_eq_zero_iff, perm.length_eq]

theorem perm_default {A : Type} {first second : List A} (perm : first.Perm second) (missing : A) :
    (if first = [] then [missing] else first).Perm (if second = [] then [missing] else second) := by
  by_cases empty : second = []
  · rw [if_pos empty, if_pos ((eq_nil_iff perm).mpr empty)]
  · rwa [if_neg empty, if_neg fun none => empty ((eq_nil_iff perm).mp none)]

theorem perm_arranged {A : Type} {axis arranged : List A} {missing : A}
    (perm : arranged.Perm (if axis = [] then [missing] else axis)) :
    (if axis = [] then [] else arranged).Perm axis ∧
      (if (if axis = [] then [] else arranged) = [] then [missing] else if axis = [] then [] else arranged) =
        arranged := by
  by_cases empty : axis = []
  · simp only [empty, if_true] at perm ⊢
    exact ⟨.refl [], (List.perm_singleton.mp perm).symm⟩
  · simp only [empty, if_false] at perm ⊢
    have still : arranged ≠ [] := by
      rintro rfl
      exact empty (List.nil_perm.mp perm)
    exact ⟨perm, if_neg still⟩

theorem insertionSort_eq_iff {A : Type} [LinearOrder A] {first second : List A} :
    first.insertionSort (· ≤ ·) = second.insertionSort (· ≤ ·) ↔ first.Perm second := by
  constructor
  · intro same
    exact (List.perm_insertionSort _ first).symm.trans (same ▸ List.perm_insertionSort _ second)
  · intro perm
    refine List.Perm.eq_of_pairwise (fun a b _ _ => le_antisymm) (List.pairwise_insertionSort _ first)
      (List.pairwise_insertionSort _ second) ?_
    exact (List.perm_insertionSort _ first).trans (perm.trans (List.perm_insertionSort _ second).symm)

theorem arranged_axes {ns : List Int} {ps : List ℚ} (rows : ns.Perm hpo.searchSpace.axes.1)
    (columns : ps.Perm hpo.searchSpace.axes.2) : (hpo.arranged ns ps).searchSpace.axes = (ns, ps) :=
  Prod.ext (perm_arranged rows).2 (perm_arranged columns).2

theorem arranged_normalized {ns : List Int} {ps : List ℚ} (rows : ns.Perm hpo.searchSpace.axes.1)
    (columns : ps.Perm hpo.searchSpace.axes.2) : (hpo.arranged ns ps).normalized = hpo.normalized := by
  have sortedRows := insertionSort_eq_iff.mpr (perm_arranged rows).1
  have sortedColumns := insertionSort_eq_iff.mpr (perm_arranged columns).1
  simp only [HpoConfig.normalized, HpoConfig.arranged, sortedRows, sortedColumns]

/-- Validation does not look at the order. -/
theorem validate_perm {first second : HpoConfig} (algorithm : first.algorithm = second.algorithm)
    (trials : first.maxTrials = second.maxTrials) (concurrency : first.maxConcurrency = second.maxConcurrency)
    (rows : first.searchSpace.nComponents.Perm second.searchSpace.nComponents)
    (columns : first.searchSpace.percentile.Perm second.searchSpace.percentile) :
    validateHpoConfig first = validateHpoConfig second := by
  have noRows : decide (first.searchSpace.nComponents = []) = decide (second.searchSpace.nComponents = []) :=
    decide_eq_decide.mpr (eq_nil_iff rows)
  have noColumns : decide (first.searchSpace.percentile = []) = decide (second.searchSpace.percentile = []) :=
    decide_eq_decide.mpr (eq_nil_iff columns)
  have total : first.searchSpace.totalCombinations = second.searchSpace.totalCombinations :=
    congrArg₂ (· * ·) (if_congr (eq_nil_iff rows) rfl rows.length_eq)
      (if_congr (eq_nil_iff columns) rfl columns.length_eq)
  simp only [validateHpoConfig, algorithm, trials, concurrency, rows.any_eq, columns.any_eq, noRows, noColumns, total]

theorem arranged_accepted (accepted : validateHpoConfig hpo = []) {ns : List Int} {ps : List ℚ}
    (rows : ns.Perm hpo.searchSpace.axes.1) (columns : ps.Perm hpo.searchSpace.axes.2) :
    validateHpoConfig (hpo.arranged ns ps) = [] := by
  rw [← accepted]
  exact validate_perm rfl rfl rfl (perm_arranged rows).1 (perm_arranged columns).1

theorem perm_of_normalized (same : other.normalized = hpo.normalized) :
    other.searchSpace.axes.1.Perm hpo.searchSpace.axes.1 ∧ other.searchSpace.axes.2.Perm hpo.searchSpace.axes.2 := by
  have rows := insertionSort_eq_iff.mp (congrArg Normalized.nComponents same)
  have columns := insertionSort_eq_iff.mp (congrArg Normalized.percentile same)
  exact ⟨perm_default rows 3, perm_default columns _⟩

/-- The positions that are read do not depend on the order. -/
theorem places_of_normalized (same : other.normalized = hpo.normalized) :
    other.places generator = hpo.places generator := by
  obtain ⟨rows, columns⟩ := perm_of_normalized same
  have algorithm : other.algorithm = hpo.algorithm := congrArg Normalized.algorithm same
  have trials : other.maxTrials = hpo.maxTrials := congrArg Normalized.maxTrials same
  have seed : other.seed = hpo.seed := congrArg Normalized.seed same
  simp only [HpoConfig.places, HpoConfig.draws, algorithm, trials, seed, rows.length_eq, columns.length_eq]

/-- Every configuration with the same text has the same candidates. -/
def Determines (number : ℚ → String) (generator : Generator) (datasetId : String) (hpo : HpoConfig) : Prop :=
  ∀ other, validateHpoConfig other = [] → (other.algorithm = "random" → other.seed.isSome) →
    other.normalized.dump number = hpo.normalized.dump number →
      ∀ candidate, candidate ∈ candidates generator datasetId other ↔ candidate ∈ candidates generator datasetId hpo

/-- On a grid the limit goes beyond the first place that two values share if they
stand last on their axes. For draws, every choice of as many positions as two
values have on their axes is drawn. -/
def Exhaustive (generator : Generator) (hpo : HpoConfig) : Prop :=
  ∀ n ∈ hpo.searchSpace.axes.1, ∀ p ∈ hpo.searchSpace.axes.2,
    let height := hpo.searchSpace.axes.1.length
    let width := hpo.searchSpace.axes.2.length
    let rows := hpo.searchSpace.axes.1.count n
    let columns := hpo.searchSpace.axes.2.count p
    if hpo.algorithm = "grid" then ((height - rows) * width + (width - columns) : Nat) < hpo.maxTrials
    else ∀ chosen ⊆ Finset.range height, chosen.card = rows → ∀ others ⊆ Finset.range width, others.card = columns →
      ∃ i < hpo.maxTrials.toNat,
        (hpo.draws generator i).1 % height ∈ chosen ∧ (hpo.draws generator i).2 % width ∈ others

theorem last_place_below {height width rows columns : Nat} (someRows : 0 < rows) (fewRows : rows ≤ height)
    (someColumns : 0 < columns) (fewColumns : columns ≤ width) :
    (height - rows) * width + (width - columns) < height * width :=
  calc (height - rows) * width + (width - columns) < (height - rows) * width + width :=
        Nat.add_lt_add_left (by omega) _
    _ = (height - rows + 1) * width := (Nat.succ_mul _ _).symm
    _ ≤ height * width := Nat.mul_le_mul_right width (by omega)

theorem exhaustive_iff :
    Exhaustive generator hpo ↔ ∀ n ∈ hpo.searchSpace.axes.1, ∀ p ∈ hpo.searchSpace.axes.2,
      Meets (hpo.places generator) hpo.searchSpace.axes.1.length hpo.searchSpace.axes.2.length
        (hpo.searchSpace.axes.1.count n) (hpo.searchSpace.axes.2.count p) := by
  refine forall₂_congr fun n row => forall₂_congr fun p column => ?_
  have rows := List.count_pos_iff.mpr row
  have columns := List.count_pos_iff.mpr column
  by_cases isGrid : hpo.algorithm = "grid"
  · simp only [isGrid, if_true, HpoConfig.places]
    rw [meets_rowOrder rows List.count_le_length columns List.count_le_length, lt_min_iff, Int.lt_toNat]
    exact (and_iff_left (last_place_below rows List.count_le_length columns List.count_le_length)).symm
  · simp only [isGrid, if_false, HpoConfig.places, Meets]
    simp

/-- The text determines the candidates exactly if it does so for all arrangements of the axes. -/
theorem determines_iff_arranged {number : ℚ → String} (prints : Prints number) (accepted : validateHpoConfig hpo = [])
    (seeded : hpo.algorithm = "random" → hpo.seed.isSome) :
    Determines number generator datasetId hpo ↔
      ∀ ns ps, ns.Perm hpo.searchSpace.axes.1 → ps.Perm hpo.searchSpace.axes.2 → ∀ candidate,
        candidate ∈ valuesAt ns ps (hpo.places generator) ↔
          candidate ∈ valuesAt hpo.searchSpace.axes.1 hpo.searchSpace.axes.2 (hpo.places generator) := by
  constructor
  · intro determined ns ps rows columns candidate
    have same := arranged_normalized rows columns
    have allowed := arranged_accepted accepted rows columns
    have equal := determined (hpo.arranged ns ps) allowed seeded (by rw [same]) candidate
    rw [candidates_eq allowed, candidates_eq accepted, arranged_axes rows columns, places_of_normalized same] at equal
    exact equal
  · intro arranged other allowed _ text candidate
    have same : other.normalized = hpo.normalized :=
      dump_injective prints rfl (accepted_bounds allowed).1 (accepted_bounds accepted).1 text
    obtain ⟨rows, columns⟩ := perm_of_normalized same
    rw [candidates_eq allowed, candidates_eq accepted, places_of_normalized same]
    exact arranged _ _ rows columns candidate

/-- Equal fingerprints mean equal candidates exactly for a search that reaches all
pairs of values in whatever order they are given. -/
theorem fingerprint_determines_iff {number : ℚ → String} (prints : Prints number) (generator : Generator)
    (datasetId : String) (accepted : validateHpoConfig hpo = [])
    (seeded : hpo.algorithm = "random" → hpo.seed.isSome) :
    Determines number generator datasetId hpo ↔ Exhaustive generator hpo := by
  have nonempty : ∃ place ∈ hpo.places generator,
      place.1 < hpo.searchSpace.axes.1.length ∧ place.2 < hpo.searchSpace.axes.2.length := by
    obtain ⟨place, member⟩ := List.exists_mem_of_ne_nil _ (places_ne_nil accepted)
    exact ⟨place, member, places_inside generator hpo member⟩
  rw [determines_iff_arranged prints accepted seeded, valuesAt_same_iff nonempty, exhaustive_iff]

end Candidates

/-- The text of a double that is a whole number; other texts are only kept apart. -/
def writeDouble (p : ℚ) : String := p.num.repr ++ (if p.den = 1 then ".0" else "./" ++ p.den.repr)

theorem toList_writeDouble (p : ℚ) : (writeDouble p).toList =
    p.num.repr.toList ++ '.' :: if p.den = 1 then ['0'] else '/' :: p.den.repr.toList := by
  rw [writeDouble, String.toList_append]
  split <;> simp

theorem writeDouble_injective : Function.Injective writeDouble := by
  intro p q same
  have text := congrArg String.toList same
  rw [toList_writeDouble, toList_writeDouble] at text
  obtain ⟨num, rest⟩ := repr_cut (by decide) text
  refine Rat.ext num ?_
  by_cases whole : p.den = 1 <;> by_cases other : q.den = 1
  · rw [whole, other]
  · simp [whole, other] at rest
  · simp [whole, other] at rest
  · simp only [whole, other, if_false, List.cons.injEq, true_and] at rest
    exact Nat.repr_injective (String.toList_injective rest)

theorem writeDouble_prints : Prints writeDouble where
  injective := writeDouble_injective
  plain p := by
    have signs : ∀ c ∈ (writeDouble p).toList, c.isDigit ∨ c ∈ ['-', '.', '/'] := by
      intro c member
      rw [toList_writeDouble, List.mem_append, List.mem_cons] at member
      rcases member with inside | rfl | inside
      · rcases repr_plain _ inside with sign | digit
        · simp [sign]
        · exact .inl digit
      · simp
      · split at inside
        · rw [List.mem_singleton.mp inside]
          decide
        · rcases List.mem_cons.mp inside with rfl | later
          · simp
          · rw [Nat.toList_repr] at later
            exact .inl (Nat.isDigit_of_mem_toDigits (by decide) (by decide) later)
    refine ⟨fun member => absurd (signs _ member) (by decide), fun member => absurd (signs _ member) (by decide), ?_⟩
    rw [toList_writeDouble]
    simp

/-- One value of the first axis is tried. -/
def firstOfTwo (ns : List Int) (maxTrials : Int) : HpoConfig := ⟨"grid", maxTrials, 2, none, ⟨ns, [95]⟩⟩

theorem fingerprint_determines_iff_bothTried :
    Exhaustive (fun _ _ _ _ => (0, 0)) (firstOfTwo [1, 2] 2) ∧
      Determines writeDouble (fun _ _ _ _ => (0, 0)) "d" (firstOfTwo [1, 2] 2) := by
  have exhaustive : Exhaustive (fun _ _ _ _ => (0, 0)) (firstOfTwo [1, 2] 2) := by
    intro n row p column
    have either : n = 1 ∨ n = 2 := by simpa [firstOfTwo, SearchSpace.axes] using row
    have only : p = 95 := by simpa [firstOfTwo, SearchSpace.axes] using column
    subst only
    rcases either with rfl | rfl <;> simp [firstOfTwo, SearchSpace.axes]
  have accepted : validateHpoConfig (firstOfTwo [1, 2] 2) = [] := by decide +kernel
  exact ⟨exhaustive, (fingerprint_determines_iff writeDouble_prints _ "d" accepted (by decide)).mpr exhaustive⟩

/-- The limit cuts off what the sorted text does not tell. -/
theorem order_changes_candidates : validateHpoConfig (firstOfTwo [1, 2] 1) = [] ∧
    ¬ Determines writeDouble (fun _ _ _ _ => (0, 0)) "d" (firstOfTwo [1, 2] 1) := by
  refine ⟨by decide +kernel, fun determined => ?_⟩
  have same : (firstOfTwo [2, 1] 1).normalized = (firstOfTwo [1, 2] 1).normalized := by decide +kernel
  have equal := determined (firstOfTwo [2, 1] 1) (by decide +kernel) (by decide) (by rw [same]) (2, 95)
  revert equal
  decide +kernel

end TelemetryLab.Training
