import Mathlib
import TelemetryLab.Lib.Decimal
import TelemetryLab.Lib.Delimited
import TelemetryLab.Lib.Listing

/-! The metrics of a process (`metrics.h`) and the page of `GET /metrics`.

Every call holds the mutex of the registry, so the calls of all threads form one
sequence. The counters are `long` and stay in its range, and the sums of doubles
are exact, so that integers and rationals stand for them; label values are written
without escapes, and the page is read the way a scraper reads it: a line at a
time, with the value after the last blank.
-/

set_option autoImplicit false
namespace TelemetryLab.Obs
open Listing

/-- `std::map<std::string, std::string>`, in key order. -/
structure Labels where
  entries : List (String × String)
  sorted : entries.Pairwise fun first second => first.1 < second.1

namespace Labels

theorem ext_entries {first second : Labels} (same : first.entries = second.entries) : first = second := by
  cases first
  cases second
  cases same
  rfl

instance : DecidableEq Labels := fun first second =>
  decidable_of_iff (first.entries = second.entries) ⟨ext_entries, fun same => same ▸ rfl⟩

def empty : Labels := ⟨[], .nil⟩

def single (key value : String) : Labels := ⟨[(key, value)], List.pairwise_singleton _ _⟩

@[simp] theorem single_inj {key other value text : String} :
    single key value = single other text ↔ key = other ∧ value = text := by
  simp [single]

end Labels

def labelText (label : String × String) : String := label.1 ++ "=\"" ++ label.2 ++ "\""

def serializeKey (name : String) (labels : Labels) : String :=
  if labels.entries = [] then name
  else name ++ "\x7b" ++ ",".intercalate (labels.entries.map labelText) ++ "\x7d"

structure HistogramStats where
  count : Int := 0
  sum : ℚ := 0
  min : ℚ := 1e9
  max : ℚ := 0

def HistogramStats.record (stats : HistogramStats) (ms : ℚ) : HistogramStats where
  count := stats.count + 1
  sum := stats.sum + ms
  min := if ms < stats.min then ms else stats.min
  max := if stats.max < ms then ms else stats.max

structure MetricsRegistry where
  counters : Table String Int
  gauges : Table String ℚ
  histograms : Table String HistogramStats

inductive MetricsCall where
  | increment (name : String) (labels : Labels) (value : Int)
  | setGauge (name : String) (value : ℚ)
  | recordLatency (name : String) (labels : Labels) (ms : ℚ)

/-- `std::to_string(double)`: six digits after the point, the nearest of them, an
even last one between two. -/
def micros (x : ℚ) : Nat :=
  let scaled := x * 1000000
  let below := scaled.floor.toNat
  let rest := scaled - below
  if rest < 1 / 2 then below
  else if 1 / 2 < rest then below + 1
  else if below % 2 = 0 then below
  else below + 1

def doubleText (x : ℚ) : String :=
  (if x < 0 then "-" else "") ++ (micros |x| / 1000000).repr ++ "." ++
    String.ofList (Decimal.pad 6 (micros |x| % 1000000))

namespace MetricsRegistry

def init : MetricsRegistry := ⟨∅, ∅, ∅⟩

def increment (m : MetricsRegistry) (name : String) (labels : Labels) (value : Int) : MetricsRegistry :=
  let key := serializeKey name labels
  { m with counters := m.counters.insert key ((m.counters.lookup key).getD 0 + value) }

def setGauge (m : MetricsRegistry) (name : String) (value : ℚ) : MetricsRegistry :=
  { m with gauges := m.gauges.insert name value }

def recordLatency (m : MetricsRegistry) (name : String) (labels : Labels) (ms : ℚ) : MetricsRegistry :=
  let key := serializeKey name labels
  { m with histograms := m.histograms.insert key (((m.histograms.lookup key).getD {}).record ms) }

def call (m : MetricsRegistry) : MetricsCall → MetricsRegistry
  | .increment name labels value => m.increment name labels value
  | .setGauge name value => m.setGauge name value
  | .recordLatency name labels ms => m.recordLatency name labels ms

/-- The registry after the calls of a process. -/
def after (calls : List MetricsCall) : MetricsRegistry := calls.foldl call init

/-! ## The page -/

def counterRows (m : MetricsRegistry) : List (String × String) := (inOrder m.counters).map fun kv => (kv.1, kv.2.repr)

def gaugeRows (m : MetricsRegistry) : List (String × String) :=
  (inOrder m.gauges).map fun kv => (kv.1, doubleText kv.2)

def histogramRows (m : MetricsRegistry) : List (String × String) :=
  (inOrder m.histograms).flatMap fun kv =>
    [(kv.1 ++ "_count", kv.2.count.repr), (kv.1 ++ "_sum", doubleText kv.2.sum)]

def rows (m : MetricsRegistry) : List (String × String) := m.counterRows ++ m.gaugeRows ++ m.histogramRows

def toPrometheus (m : MetricsRegistry) : String := String.join (m.rows.map fun row => row.1 ++ " " ++ row.2 ++ "\n")

end MetricsRegistry

/-- The lines of a page, as a scraper reads them. -/
def scrape (page : String) : List (String × String) :=
  (read ' ' '\n' page.toList).map fun row => (String.ofList row.1, String.ofList row.2)

/-! ## Keys -/

/-- A series whose key can be read back: no brace in the name, no equals sign in
a label name, no quote in a label value, and no line breaks. -/
structure PlainSeries (name : String) (labels : Labels) : Prop where
  name : '\x7b' ∉ name.toList ∧ '\n' ∉ name.toList
  labels : ∀ label ∈ labels.entries, '=' ∉ label.1.toList ∧ '\n' ∉ label.1.toList ∧
    '\x22' ∉ label.2.toList ∧ '\n' ∉ label.2.toList

theorem labelText_toList (label : String × String) :
    (labelText label).toList = label.1.toList ++ '=' :: '\x22' :: (label.2.toList ++ ['\x22']) := by
  simp [labelText]

/-- The labels of a key and what follows them. -/
def labelsText (labels : List (String × String)) : List Char :=
  [','].intercalate (labels.map fun label => (labelText label).toList) ++ ['\x7d']

theorem labelsText_cons (label : String × String) (rest : List (String × String)) :
    labelsText (label :: rest) = label.1.toList ++ '=' :: '\x22' :: (label.2.toList ++ '\x22' ::
      (if rest = [] then ['\x7d'] else ',' :: labelsText rest)) := by
  by_cases last : rest = []
  · subst last
    simp [labelsText, labelText_toList]
  · have more : (rest.map fun label => (labelText label).toList) ≠ [] := by simpa using last
    rw [labelsText, List.map_cons, List.intercalate_cons_of_ne_nil more, if_neg last, labelText_toList]
    simp [labelsText]

/-- The labels are read back one by one. -/
theorem labelsText_injective {first second : List (String × String)} (some : first ≠ []) (others : second ≠ [])
    (plain : ∀ label ∈ first, '=' ∉ label.1.toList ∧ '\x22' ∉ label.2.toList)
    (plain' : ∀ label ∈ second, '=' ∉ label.1.toList ∧ '\x22' ∉ label.2.toList)
    (same : labelsText first = labelsText second) : first = second := by
  induction first generalizing second with
  | nil => exact absurd rfl some
  | cons label rest ih =>
    cases second with
    | nil => exact absurd rfl others
    | cons other more =>
      rw [labelsText_cons, labelsText_cons] at same
      obtain ⟨key, tail⟩ := Delimited.cut (plain label List.mem_cons_self).1 (plain' other List.mem_cons_self).1 same
      obtain ⟨value, tail⟩ := Delimited.cut (plain label List.mem_cons_self).2 (plain' other List.mem_cons_self).2
        (List.cons.inj tail).2
      have here : label = other := Prod.ext (String.toList_injective key) (String.toList_injective value)
      by_cases last : rest = [] <;> by_cases ends : more = []
      · rw [here, last, ends]
      · rw [if_pos last, if_neg ends] at tail
        cases (List.cons.inj tail).1
      · rw [if_neg last, if_pos ends] at tail
        cases (List.cons.inj tail).1
      · rw [if_neg last, if_neg ends] at tail
        have later : rest = more := ih last ends (fun label member => plain label (List.mem_cons_of_mem _ member))
          (fun label member => plain' label (List.mem_cons_of_mem _ member)) (List.cons.inj tail).2
        rw [here, later]

theorem serializeKey_toList (name : String) {labels : Labels} (some : labels.entries ≠ []) :
    (serializeKey name labels).toList = name.toList ++ '\x7b' :: labelsText labels.entries := by
  simp [serializeKey, some, labelsText, Function.comp_def]

/-- Different series have different keys. -/
theorem serializeKey_injective {name other : String} {labels others : Labels} (plain : PlainSeries name labels)
    (plain' : PlainSeries other others) (same : serializeKey name labels = serializeKey other others) :
    name = other ∧ labels = others := by
  by_cases none : labels.entries = [] <;> by_cases nothing : others.entries = []
  · refine ⟨?_, Labels.ext_entries (none.trans nothing.symm)⟩
    rwa [serializeKey, if_pos none, serializeKey, if_pos nothing] at same
  · -- only one of the keys holds a brace
    have text := congrArg String.toList same
    rw [serializeKey_toList other nothing, serializeKey, if_pos none] at text
    exact absurd (text ▸ List.mem_append_right _ List.mem_cons_self) plain.name.1
  · have text := congrArg String.toList same
    rw [serializeKey_toList name none, serializeKey, if_pos nothing] at text
    exact absurd (text ▸ List.mem_append_right _ List.mem_cons_self) plain'.name.1
  · have text := congrArg String.toList same
    rw [serializeKey_toList name none, serializeKey_toList other nothing] at text
    obtain ⟨names, tail⟩ := Delimited.cut plain.name.1 plain'.name.1 text
    refine ⟨String.toList_injective names, Labels.ext_entries ?_⟩
    exact labelsText_injective none nothing (fun label member => ⟨(plain.labels label member).1, (plain.labels label member).2.2.1⟩)
      (fun label member => ⟨(plain'.labels label member).1, (plain'.labels label member).2.2.1⟩) tail

/-- A plain key stays on its line. -/
theorem PlainSeries.newline_notMem {name : String} {labels : Labels} (plain : PlainSeries name labels) :
    '\n' ∉ (serializeKey name labels).toList := by
  by_cases none : labels.entries = []
  · rw [serializeKey, if_pos none]
    exact plain.name.2
  · rw [serializeKey_toList name none, List.mem_append, List.mem_cons, labelsText, List.mem_append]
    rintro (inside | brace | inside | last)
    · exact plain.name.2 inside
    · cases brace
    · rcases Delimited.mem_intercalate inside with comma | ⟨text, written, here⟩
      · cases comma
      · obtain ⟨label, member, rfl⟩ := List.mem_map.mp written
        have free := plain.labels label member
        simp [labelText_toList, free] at here
    · cases List.mem_singleton.mp last

/-! ## Values -/

theorem isDigit_pad {width n : Nat} {c : Char} (member : c ∈ Decimal.pad width n) : c.isDigit = true := by
  induction width generalizing n with
  | zero => cases member
  | succ width ih =>
    rcases List.mem_cons.mp member with rfl | later
    · rw [Nat.isDigit_digitChar]
      exact decide_eq_true (Nat.mod_lt _ (by decide))
    · exact ih later

theorem doubleText_plain (x : ℚ) {c : Char} (member : c ∈ (doubleText x).toList) : c = '-' ∨ c = '.' ∨ c.isDigit = true := by
  simp only [doubleText, String.toList_append, List.mem_append, String.toList_ofList] at member
  rcases member with ((sign | whole) | point) | digits
  · split at sign
    · exact .inl (by simpa using sign)
    · cases sign
  · rw [Nat.toList_repr] at whole
    exact .inr (.inr (Nat.isDigit_of_mem_toDigits (by decide) (by decide) whole))
  · exact .inr (.inl (by simpa using point))
  · exact .inr (.inr (isDigit_pad digits))

/-- The value of a row holds neither a blank nor a line break. -/
def Solid (text : String) : Prop := ' ' ∉ text.toList ∧ '\n' ∉ text.toList

theorem solid_repr (n : Int) : Solid n.repr :=
  ⟨Delimited.Foreign.notMem (by decide) n, Delimited.Foreign.notMem (by decide) n⟩

theorem solid_doubleText (x : ℚ) : Solid (doubleText x) := by
  constructor
  · intro member
    rcases doubleText_plain x member with sign | point | digit
    · cases sign
    · cases point
    · cases digit
  · intro member
    rcases doubleText_plain x member with sign | point | digit
    · cases sign
    · cases point
    · cases digit

/-! ## What the calls add up to -/

/-- A call that adds to a series. -/
structure Sample (V : Type) where
  name : String
  labels : Labels
  value : V

namespace MetricsCall

def name : MetricsCall → String
  | .increment name _ _ | .setGauge name _ | .recordLatency name _ _ => name

def incremented : MetricsCall → Option (Sample Int)
  | .increment name labels value => some ⟨name, labels, value⟩
  | .setGauge _ _ | .recordLatency _ _ _ => none

def timed : MetricsCall → Option (Sample ℚ)
  | .recordLatency name labels ms => some ⟨name, labels, ms⟩
  | .increment _ _ _ | .setGauge _ _ => none

def gauged : MetricsCall → Option (String × ℚ)
  | .setGauge name value => some (name, value)
  | .increment _ _ _ | .recordLatency _ _ _ => none

/-- The series of a call can be read back from the page. -/
def Plain : MetricsCall → Prop
  | .increment name labels _ | .recordLatency name labels _ => PlainSeries name labels
  | .setGauge name _ => '\n' ∉ name.toList

/-- The series of a counter or of a histogram. -/
def series : MetricsCall → Option (String × Labels)
  | .increment name labels _ | .recordLatency name labels _ => some (name, labels)
  | .setGauge _ _ => none

end MetricsCall

/-- The values of a series, in the order of the calls. -/
def valuesOf {V : Type} (samples : List (Sample V)) (name : String) (labels : Labels) : List V :=
  (samples.filter fun sample => decide (sample.name = name) && decide (sample.labels = labels)).map Sample.value

def increments (calls : List MetricsCall) (name : String) (labels : Labels) : List Int :=
  valuesOf (calls.filterMap MetricsCall.incremented) name labels

def timings (calls : List MetricsCall) (name : String) (labels : Labels) : List ℚ :=
  valuesOf (calls.filterMap MetricsCall.timed) name labels

def settings (calls : List MetricsCall) (name : String) : List ℚ :=
  ((calls.filterMap MetricsCall.gauged).filter fun setting => decide (setting.1 = name)).map Prod.snd

theorem exists_of_valuesOf {V : Type} {samples : List (Sample V)} {name : String} {labels : Labels}
    (some : valuesOf samples name labels ≠ []) : ∃ sample ∈ samples, sample.name = name ∧ sample.labels = labels := by
  obtain ⟨value, member⟩ := List.exists_mem_of_ne_nil _ some
  obtain ⟨sample, chosen, _⟩ := List.mem_map.mp member
  obtain ⟨stored, same⟩ := List.mem_filter.mp chosen
  simp only [Bool.and_eq_true, decide_eq_true_eq] at same
  exact ⟨sample, stored, same⟩

/-- A call of another name adds nothing. -/
theorem increments_other {call : MetricsCall} {name : String} (other : call.name ≠ name) (labels : Labels) :
    increments [call] name labels = [] := by
  cases call <;> simp_all [increments, valuesOf, MetricsCall.incremented, MetricsCall.name]

theorem settings_other {call : MetricsCall} {name : String} (other : call.name ≠ name) : settings [call] name = [] := by
  cases call <;> simp_all [settings, MetricsCall.gauged, MetricsCall.name]

@[simp] theorem increments_append (first second : List MetricsCall) (name : String) (labels : Labels) :
    increments (first ++ second) name labels = increments first name labels ++ increments second name labels := by
  simp [increments, valuesOf]

@[simp] theorem settings_append (first second : List MetricsCall) (name : String) :
    settings (first ++ second) name = settings first name ++ settings second name := by
  simp [settings]

/-- A table that gathers samples under the keys of their series holds for each
series what its own values come to. -/
theorem lookup_series {V W : Type} (add : Option W → V → W) {samples : List (Sample V)}
    (plain : ∀ sample ∈ samples, PlainSeries sample.name sample.labels) {key : String} {total : W} :
    (gather (fun sample : Sample V => serializeKey sample.name sample.labels) (fun old sample => add old sample.value) ∅
      samples).lookup key = some total ↔ ∃ name labels, key = serializeKey name labels ∧
        (valuesOf samples name labels).foldl (fun old value => some (add old value)) none = some total := by
  have own {sample : Sample V} (member : sample ∈ samples) :
      (samples.filter fun other => decide (serializeKey other.name other.labels = serializeKey sample.name sample.labels)) =
        samples.filter fun other => decide (other.name = sample.name) && decide (other.labels = sample.labels) := by
    refine List.filter_congr fun other stored => ?_
    rw [← Bool.decide_and]
    refine decide_eq_decide.mpr ⟨serializeKey_injective (plain other stored) (plain sample member), ?_⟩
    rintro ⟨names, labels⟩
    rw [names, labels]
  have folded (chosen : List (Sample V)) : chosen.foldl (fun value sample => some (add value sample.value)) none =
      (chosen.map Sample.value).foldl (fun old value => some (add old value)) none := by
    rw [List.foldl_map]
  rw [lookup_gather, AList.lookup_empty]
  constructor
  · intro found
    cases chosen : samples.filter fun sample => decide (serializeKey sample.name sample.labels = key) with
    | nil =>
      rw [chosen] at found
      cases found
    | cons sample rest =>
      have stored : sample ∈ samples.filter fun sample => decide (serializeKey sample.name sample.labels = key) := by
        rw [chosen]
        exact List.mem_cons_self
      obtain ⟨member, same⟩ := List.mem_filter.mp stored
      have same : serializeKey sample.name sample.labels = key := of_decide_eq_true same
      subst same
      rw [own member, folded] at found
      exact ⟨sample.name, sample.labels, rfl, found⟩
  · rintro ⟨name, labels, rfl, total⟩
    cases chosen : samples.filter fun sample => decide (sample.name = name) && decide (sample.labels = labels) with
    | nil =>
      rw [valuesOf, chosen] at total
      cases total
    | cons sample rest =>
      have stored : sample ∈ samples.filter fun sample => decide (sample.name = name) && decide (sample.labels = labels) := by
        rw [chosen]
        exact List.mem_cons_self
      obtain ⟨member, same⟩ := List.mem_filter.mp stored
      simp only [Bool.and_eq_true, decide_eq_true_eq] at same
      obtain ⟨rfl, rfl⟩ := same
      rw [own member, folded]
      exact total

namespace MetricsRegistry

theorem foldl_counters (m : MetricsRegistry) (calls : List MetricsCall) : (calls.foldl call m).counters =
    gather (fun sample : Sample Int => serializeKey sample.name sample.labels) (fun old sample => old.getD 0 + sample.value)
      m.counters (calls.filterMap MetricsCall.incremented) := by
  induction calls generalizing m with
  | nil => rfl
  | cons first rest ih =>
    rw [List.foldl_cons, ih]
    cases first <;> rfl

theorem foldl_histograms (m : MetricsRegistry) (calls : List MetricsCall) : (calls.foldl call m).histograms =
    gather (fun sample : Sample ℚ => serializeKey sample.name sample.labels)
      (fun old sample => (old.getD {}).record sample.value) m.histograms (calls.filterMap MetricsCall.timed) := by
  induction calls generalizing m with
  | nil => rfl
  | cons first rest ih =>
    rw [List.foldl_cons, ih]
    cases first <;> rfl

theorem foldl_gauges (m : MetricsRegistry) (calls : List MetricsCall) : (calls.foldl call m).gauges =
    gather Prod.fst (fun _ setting => setting.2) m.gauges (calls.filterMap MetricsCall.gauged) := by
  induction calls generalizing m with
  | nil => rfl
  | cons first rest ih =>
    rw [List.foldl_cons, ih]
    cases first <;> rfl

end MetricsRegistry

/-- Values gathered from a start are there as soon as there is one. -/
theorem foldl_from {V W : Type} (add : W → V → W) (start : W) (values : List V) {total : W} :
    values.foldl (fun old value => some (add (old.getD start) value)) none = some total ↔
      values ≠ [] ∧ total = values.foldl add start := by
  cases values with
  | nil => simp
  | cons first rest =>
    have later : rest.foldl (fun old value => some (add (old.getD start) value)) (some (add start first)) =
        some (rest.foldl add (add start first)) := foldl_some (fun old value => add (old.getD start) value) rest
    rw [List.foldl_cons, Option.getD_none, later]
    simp [eq_comm]

theorem foldl_record (stats : HistogramStats) (values : List ℚ) :
    (values.foldl HistogramStats.record stats).count = stats.count + values.length ∧
      (values.foldl HistogramStats.record stats).sum = stats.sum + values.sum := by
  induction values generalizing stats with
  | nil => simp
  | cons ms rest ih =>
    obtain ⟨count, sum⟩ := ih (stats.record ms)
    rw [List.foldl_cons, count, sum, List.length_cons, List.sum_cons]
    simp only [HistogramStats.record]
    push_cast
    exact ⟨by ring, by ring⟩

/-! ## The rows of the page -/

/-- The counters of the page: each series that was incremented, once, with its total. -/
structure CountersReported (calls : List MetricsCall) (listed : List (String × String)) : Prop where
  once : (listed.map Prod.fst).Pairwise (· < ·)
  total : ∀ row, row ∈ listed ↔ ∃ name labels, increments calls name labels ≠ [] ∧
    row = (serializeKey name labels, (increments calls name labels).sum.repr)

/-- The gauges of the page: each one that was set, once, with its last value. -/
structure GaugesReported (calls : List MetricsCall) (listed : List (String × String)) : Prop where
  once : (listed.map Prod.fst).Pairwise (· < ·)
  last : ∀ row, row ∈ listed ↔ ∃ name value, (settings calls name).getLast? = some value ∧ row = (name, doubleText value)

/-- The histograms of the page: for each series its count and its sum, once. -/
structure TimingsReported (calls : List MetricsCall) (listed : List (String × String)) : Prop where
  once : (listed.map Prod.fst).Nodup
  timed : ∀ row, row ∈ listed ↔ ∃ name labels, timings calls name labels ≠ [] ∧
    (row = (serializeKey name labels ++ "_count", ((timings calls name labels).length : Int).repr) ∨
      row = (serializeKey name labels ++ "_sum", doubleText (timings calls name labels).sum))

section page
variable {calls : List MetricsCall} (plain : ∀ call ∈ calls, call.Plain)

theorem map_inOrder_once {V : Type} (table : Table String V) (text : V → String) :
    (((inOrder table).map fun kv => (kv.1, text kv.2)).map Prod.fst).Pairwise (· < ·) := by
  rw [List.map_map]
  exact pairwise_inOrder table

theorem append_right {first second suffix : String} (same : first ++ suffix = second ++ suffix) : first = second := by
  have text := congrArg String.toList same
  rw [String.toList_append, String.toList_append] at text
  exact String.toList_injective (List.append_cancel_right text)

/-- The two rows of a histogram are told apart by their ends. -/
theorem ends (first second : String) : first ++ "_count" ≠ second ++ "_sum" := by
  intro same
  have last := congrArg (fun text => text.toList.getLast?) same
  simp at last

theorem lookup_gauges (name : String) {value : ℚ} :
    (MetricsRegistry.after calls).gauges.lookup name = some value ↔ (settings calls name).getLast? = some value := by
  have last (chosen : List (String × ℚ)) (old : Option ℚ) :
      chosen.foldl (fun _ setting => some setting.2) old = ((chosen.map Prod.snd).getLast?.or old) := by
    induction chosen generalizing old with
    | nil => rfl
    | cons setting rest ih =>
      rw [List.foldl_cons, ih, List.map_cons, List.getLast?_cons]
      cases (rest.map Prod.snd).getLast? <;> rfl
  have gathered : (MetricsRegistry.after calls).gauges.lookup name = (settings calls name).getLast? := by
    rw [MetricsRegistry.after, MetricsRegistry.foldl_gauges, lookup_gather, last, settings]
    exact Option.or_none
  rw [gathered]

theorem gauges_reported : GaugesReported calls (MetricsRegistry.after calls).gaugeRows where
  once := map_inOrder_once _ _
  last row := by
    rw [MetricsRegistry.gaugeRows, List.mem_map]
    constructor
    · rintro ⟨⟨name, value⟩, member, rfl⟩
      exact ⟨name, value, (lookup_gauges name).mp (mem_inOrder.mp member), rfl⟩
    · rintro ⟨name, value, set, rfl⟩
      exact ⟨(name, value), mem_inOrder.mpr ((lookup_gauges name).mpr set), rfl⟩

include plain

theorem incremented_plain : ∀ sample ∈ calls.filterMap MetricsCall.incremented, PlainSeries sample.name sample.labels := by
  intro sample member
  obtain ⟨call, stored, same⟩ := List.mem_filterMap.mp member
  cases call <;> cases same
  exact plain _ stored

theorem timed_plain : ∀ sample ∈ calls.filterMap MetricsCall.timed, PlainSeries sample.name sample.labels := by
  intro sample member
  obtain ⟨call, stored, same⟩ := List.mem_filterMap.mp member
  cases call <;> cases same
  exact plain _ stored

theorem lookup_counters {key : String} {total : Int} :
    (MetricsRegistry.after calls).counters.lookup key = some total ↔ ∃ name labels, key = serializeKey name labels ∧
      increments calls name labels ≠ [] ∧ total = (increments calls name labels).sum := by
  rw [MetricsRegistry.after, MetricsRegistry.foldl_counters]
  refine (lookup_series (fun old value => old.getD 0 + value) (incremented_plain plain)).trans (exists_congr fun name => exists_congr fun labels => and_congr_right fun _ => ?_)
  rw [foldl_from, ← List.sum_eq_foldl]
  rfl

theorem lookup_histograms {key : String} {stats : HistogramStats} :
    (MetricsRegistry.after calls).histograms.lookup key = some stats ↔ ∃ name labels, key = serializeKey name labels ∧
      timings calls name labels ≠ [] ∧ stats = (timings calls name labels).foldl HistogramStats.record {} := by
  rw [MetricsRegistry.after, MetricsRegistry.foldl_histograms]
  refine (lookup_series (fun (old : Option HistogramStats) value => (old.getD {}).record value) (timed_plain plain)).trans (exists_congr fun name => exists_congr fun labels => and_congr_right fun _ => ?_)
  rw [foldl_from]
  rfl

theorem counters_reported : CountersReported calls (MetricsRegistry.after calls).counterRows where
  once := map_inOrder_once _ _
  total row := by
    rw [MetricsRegistry.counterRows, List.mem_map]
    constructor
    · rintro ⟨⟨key, total⟩, member, rfl⟩
      obtain ⟨name, labels, rfl, some, rfl⟩ := (lookup_counters plain).mp (mem_inOrder.mp member)
      exact ⟨name, labels, some, rfl⟩
    · rintro ⟨name, labels, some, rfl⟩
      exact ⟨(serializeKey name labels, (increments calls name labels).sum),
        mem_inOrder.mpr ((lookup_counters plain).mpr ⟨name, labels, rfl, some, rfl⟩), rfl⟩

theorem timings_reported : TimingsReported calls (MetricsRegistry.after calls).histogramRows where
  once := by
    have keys : ((MetricsRegistry.after calls).histogramRows.map Prod.fst) =
        ((inOrder (MetricsRegistry.after calls).histograms).map Prod.fst).flatMap fun key => [key ++ "_count", key ++ "_sum"] := by
      rw [MetricsRegistry.histogramRows, List.map_flatMap, List.flatMap_map]
      rfl
    have distinct := (pairwise_inOrder (MetricsRegistry.after calls).histograms).imp LT.lt.ne
    rw [keys, List.nodup_flatMap]
    refine ⟨fun key _ => by simp [ends key key], distinct.imp fun {first second} different => ?_⟩
    simp only [Function.onFun, List.disjoint_left, List.mem_cons, List.not_mem_nil, or_false]
    rintro text (rfl | rfl) (same | same)
    · exact different (append_right same)
    · exact ends first second same
    · exact ends second first same.symm
    · exact different (append_right same)
  timed row := by
    have stats (name : String) (labels : Labels) :
        ((timings calls name labels).foldl HistogramStats.record {}).count = ((timings calls name labels).length : Int) ∧
          ((timings calls name labels).foldl HistogramStats.record {}).sum = (timings calls name labels).sum := by
      have folded := foldl_record {} (timings calls name labels)
      simpa using folded
    rw [MetricsRegistry.histogramRows, List.mem_flatMap]
    constructor
    · rintro ⟨⟨key, stored⟩, member, here⟩
      obtain ⟨name, labels, rfl, some, rfl⟩ := (lookup_histograms plain).mp (mem_inOrder.mp member)
      rw [(stats name labels).1, (stats name labels).2] at here
      exact ⟨name, labels, some, by simpa using here⟩
    · rintro ⟨name, labels, some, here⟩
      refine ⟨(serializeKey name labels, (timings calls name labels).foldl HistogramStats.record {}),
        mem_inOrder.mpr ((lookup_histograms plain).mpr ⟨name, labels, rfl, some, rfl⟩), ?_⟩
      rw [(stats name labels).1, (stats name labels).2]
      simpa using here

end page

/-- A page whose lines are whole is read as its rows. -/
theorem scrape_toPrometheus {m : MetricsRegistry} (whole : ∀ row ∈ m.rows, '\n' ∉ row.1.toList ∧ Solid row.2) :
    scrape m.toPrometheus = m.rows := by
  have text : m.toPrometheus.toList = write ' ' '\n' (m.rows.map fun row => (row.1.toList, row.2.toList)) := by
    rw [MetricsRegistry.toPrometheus, String.toList_join, List.flatMap_map, write, List.flatMap_map]
    simp [line]
  have apart : ∀ row ∈ m.rows.map fun row => (row.1.toList, row.2.toList),
      '\n' ∉ row.1 ∧ '\n' ∉ row.2 ∧ ' ' ∉ row.2 := by
    intro row member
    obtain ⟨stored, inside, rfl⟩ := List.mem_map.mp member
    exact ⟨(whole stored inside).1, (whole stored inside).2.2, (whole stored inside).2.1⟩
  rw [scrape, text, read_write (by decide) apart, List.map_map]
  conv_rhs => rw [← List.map_id m.rows]
  exact List.map_congr_left fun row _ => Prod.ext String.ofList_toList String.ofList_toList

theorem rows_whole {calls : List MetricsCall} (plain : ∀ call ∈ calls, call.Plain) :
    ∀ row ∈ (MetricsRegistry.after calls).rows, '\n' ∉ row.1.toList ∧ Solid row.2 := by
  intro row member
  rw [MetricsRegistry.rows, List.mem_append, List.mem_append] at member
  rcases member with (counter | gauge) | histogram
  · obtain ⟨name, labels, some, rfl⟩ := ((counters_reported plain).total row).mp counter
    obtain ⟨sample, stored, rfl, rfl⟩ := exists_of_valuesOf some
    exact ⟨(incremented_plain plain sample stored).newline_notMem, solid_repr _⟩
  · obtain ⟨name, value, last, rfl⟩ := (gauges_reported.last row).mp gauge
    have member : value ∈ settings calls name := List.mem_of_getLast? last
    obtain ⟨setting, chosen, _⟩ := List.mem_map.mp member
    obtain ⟨stored, same⟩ := List.mem_filter.mp chosen
    obtain ⟨call, made, gauged⟩ := List.mem_filterMap.mp stored
    cases call <;> cases gauged
    have same : _ = name := of_decide_eq_true same
    exact ⟨same ▸ plain _ made, solid_doubleText value⟩
  · obtain ⟨name, labels, some, here⟩ := ((timings_reported plain).timed row).mp histogram
    obtain ⟨sample, stored, rfl, rfl⟩ := exists_of_valuesOf some
    have free := (timed_plain plain sample stored).newline_notMem
    rcases here with rfl | rfl
    · exact ⟨by simp [free], solid_repr _⟩
    · exact ⟨by simp [free], solid_doubleText _⟩

/-- No two series of a process share a key. -/
def KeysApart (calls : List MetricsCall) : Prop :=
  ∀ first ∈ calls.filterMap MetricsCall.series, ∀ second ∈ calls.filterMap MetricsCall.series,
    serializeKey first.1 first.2 = serializeKey second.1 second.2 → first = second

theorem keys_apart {calls : List MetricsCall} (plain : ∀ call ∈ calls, call.Plain) : KeysApart calls := by
  have plainSeries : ∀ series ∈ calls.filterMap MetricsCall.series, PlainSeries series.1 series.2 := by
    intro series member
    obtain ⟨call, made, same⟩ := List.mem_filterMap.mp member
    cases call <;> cases same
    · exact plain _ made
    · exact plain _ made
  intro first inside second also same
  obtain ⟨names, labels⟩ := serializeKey_injective (plainSeries first inside) (plainSeries second also) same
  exact Prod.ext names labels

/-- The page lists what the calls of the process come to, whatever their order:
every series with its own total, under a key of its own, and nothing else. -/
theorem metrics_page {calls : List MetricsCall} (plain : ∀ call ∈ calls, call.Plain) :
    KeysApart calls ∧ ∃ counters gauges histograms,
      scrape (MetricsRegistry.after calls).toPrometheus = counters ++ gauges ++ histograms ∧
        CountersReported calls counters ∧ GaugesReported calls gauges ∧ TimingsReported calls histograms :=
  ⟨keys_apart plain, _, _, _, scrape_toPrometheus (rows_whole plain), counters_reported plain, gauges_reported,
    timings_reported plain⟩

def rejections : List MetricsCall :=
  [.increment "job_rejected_total" (.single "reason" "resource_exhausted") 1, .setGauge "job_active_count" 4,
    .recordLatency "db_pool_wait_time_ms" .empty (5 / 2),
    .increment "job_rejected_total" (.single "reason" "resource_exhausted") 1]

theorem metrics_page_rejections : KeysApart rejections ∧ ∃ counters gauges histograms,
    scrape (MetricsRegistry.after rejections).toPrometheus = counters ++ gauges ++ histograms ∧
      CountersReported rejections counters ∧ GaugesReported rejections gauges ∧
      TimingsReported rejections histograms := by
  refine metrics_page fun call member => ?_
  have series : PlainSeries "job_rejected_total" (.single "reason" "resource_exhausted") :=
    ⟨by decide, by simp [Labels.single]⟩
  have timed : PlainSeries "db_pool_wait_time_ms" .empty := ⟨by decide, by simp [Labels.empty]⟩
  simp only [rejections, List.mem_cons, List.not_mem_nil, or_false] at member
  rcases member with rfl | rfl | rfl | rfl
  · exact series
  · show '\n' ∉ _
    decide
  · exact timed
  · exact series

example : (MetricsRegistry.after rejections).toPrometheus =
    "job_rejected_total\x7breason=\"resource_exhausted\"\x7d 2\njob_active_count 4.000000\n" ++
      "db_pool_wait_time_ms_count 1\ndb_pool_wait_time_ms_sum 2.500000\n" := by
  decide +kernel

end TelemetryLab.Obs
