import Mathlib
import TelemetryLab.Lib.RangePartition
import TelemetryLab.Models.CalendarTime

/-! The monthly partitions of `host_telemetry_archival`: the schema of `db/init.sql`
and `DbClient::EnsurePartition`.

The bounds of a partition are read as midnight in UTC, the time zone of the server.
A statement that fails leaves the table as it was; its error is only logged.
-/

set_option autoImplicit false
namespace TelemetryLab.Datasets
open Decimal Models RangePartition

/-- A row by its record and its `ingestion_time` in microseconds. -/
structure ArchivalRow where
  recordId : Int
  ingestionTime : Int
  deriving DecidableEq, Repr

abbrev Archive : Type := Store (List Char) Int ArchivalRow

/-- `host_telemetry_archival_{:04d}_{:02d}` -/
def partName (year mon : Int) : List Char :=
  "host_telemetry_archival_".toList ++ (zeroPad 4 year.toNat ++ '_' :: zeroPad 2 mon.toNat)

/-- The point of time that the text `{:04d}-{:02d}-01` of a date means, in microseconds. -/
def firstOf (year mon : Int) : Int := timegm ⟨year - 1900, mon - 1, 1, 0, 0, 0⟩ * 1000000

/-- The state of the table after `EnsurePartition`, or why there is no partition. -/
def ensurePartition (tp : Int) (archive : Archive) : Except Refusal Archive :=
  -- `to_time_t` cuts off the fraction of a second
  let tm := tmOf (gmtime (tp.tdiv 1000000000))
  let year := tm.tmYear + 1900
  let endMon := tm.tmMon + 2
  let bounds := if endMon > 12 then (year + 1, 1) else (year, endMon)
  archive.create ArchivalRow.ingestionTime (partName year (tm.tmMon + 1)) (firstOf year (tm.tmMon + 1))
    (firstOf bounds.1 bounds.2)

def initialArchive : Archive where
  parts := [
    ⟨"host_telemetry_archival_2026_01".toList, firstOf 2026 1, firstOf 2026 2, []⟩,
    ⟨"host_telemetry_archival_2026_02".toList, firstOf 2026 2, firstOf 2026 3, []⟩]
  others := []

inductive Access where
  | ensurePartition (tp : Int)
  | insert (row : ArchivalRow)
  /-- A `DELETE` with any condition on the rows. -/
  | delete (gone : ArchivalRow → Bool)

def Access.run (archive : Archive) : Access → Archive
  | .ensurePartition tp =>
    match Datasets.ensurePartition tp archive with
    | .ok next => next
    | .error _ => archive
  | .insert row => archive.insert ArchivalRow.ingestionTime row
  | .delete gone => archive.delete gone

/-- The same access to a table that is not partitioned. -/
def Access.plain (rows : List ArchivalRow) : Access → List ArchivalRow
  | .ensurePartition _ => rows
  | .insert row => row :: rows
  | .delete gone => rows.filter fun row => !gone row

/-! ## Months -/

/-- The months, counted from the first one of the year 0. -/
def monthOf (seconds : Int) : Int := 12 * (gmtime seconds).year + ((gmtime seconds).month - 1 : Int)

def monthStart (month : Int) : Int := timegm ⟨month / 12 - 1900, month % 12, 1, 0, 0, 0⟩

theorem monthStart_eq (month : Int) :
    monthStart month = (yearStart (month / 12) + daysOf (month / 12) (month % 12).toNat - epochDay) * 86400 := by
  have whole : month % 12 / 12 = 0 := by omega
  have within : (month % 12 % 12).toNat = (month % 12).toNat := by omega
  simp only [monthStart, timegm, whole, within, sub_add_cancel, add_zero]
  omega

/-- A month ends where the next one begins. -/
theorem monthStart_succ (month : Int) :
    monthStart (month + 1) = monthStart month + daysIn (month / 12) ((month % 12).toNat + 1) * 86400 := by
  rw [monthStart_eq, monthStart_eq]
  rcases eq_or_ne (month % 12) 11 with last | inside
  · have year : (month + 1) / 12 = month / 12 + 1 := by omega
    have first : ((month + 1) % 12).toNat = 0 := by omega
    have december : (month % 12).toNat = 11 := by omega
    have whole : daysOf (month / 12) 12 = daysOf (month / 12) 11 + daysIn (month / 12) (11 + 1) := rfl
    have none : daysOf (month / 12 + 1) 0 = 0 := rfl
    rw [year, first, december, yearStart_succ, whole, none]
    push_cast
    ring
  · have year : (month + 1) / 12 = month / 12 := by omega
    have next : ((month + 1) % 12).toNat = (month % 12).toNat + 1 := by omega
    rw [year, next, daysOf]
    push_cast
    ring

theorem daysIn_pos (year : Int) (month : Nat) : 0 < daysIn year month := by
  unfold daysIn
  split
  · split <;> decide
  · split <;> decide

theorem monthStart_strictMono : StrictMono monthStart := by
  apply strictMono_int_of_lt_succ
  intro month
  have days := daysIn_pos (month / 12) ((month % 12).toNat + 1)
  rw [monthStart_succ]
  omega

theorem monthStart_monthOf (seconds : Int) :
    monthStart (monthOf seconds) ≤ seconds ∧ seconds < monthStart (monthOf seconds + 1) := by
  obtain ⟨few, started, inside⟩ := monthIndex_spec (seconds / 86400 + epochDay)
  obtain ⟨placed, -⟩ := yearDay_spec (seconds / 86400 + epochDay)
  have month : monthOf seconds =
      12 * yearOf (seconds / 86400 + epochDay) + monthIndex (seconds / 86400 + epochDay) := by
    simp only [monthOf, gmtime]
    omega
  have year : monthOf seconds / 12 = yearOf (seconds / 86400 + epochDay) := by omega
  have index : (monthOf seconds % 12).toNat = monthIndex (seconds / 86400 + epochDay) := by omega
  rw [monthStart_succ, monthStart_eq, year, index]
  omega

/-- Each point of time lies in one month. -/
theorem monthOf_eq_iff (seconds month : Int) :
    monthOf seconds = month ↔ monthStart month ≤ seconds ∧ seconds < monthStart (month + 1) := by
  obtain ⟨started, inside⟩ := monthStart_monthOf seconds
  constructor
  · rintro rfl
    exact ⟨started, inside⟩
  · rintro ⟨after, before⟩
    have below := monthStart_strictMono.lt_iff_lt.mp (started.trans_lt before)
    have above := monthStart_strictMono.lt_iff_lt.mp (after.trans_lt inside)
    omega

/-! ## What `EnsurePartition` asks for -/

/-- The name of the partition of a month. -/
def monthName (month : Int) : List Char := partName (month / 12) (month % 12 + 1)

/-- The bounds of the statement are those of the month that the time lies in. -/
theorem ensurePartition_eq (tp : Int) (archive : Archive) :
    ensurePartition tp archive =
      let month := monthOf (tp.tdiv 1000000000)
      archive.create ArchivalRow.ingestionTime (monthName month) (monthStart month * 1000000)
        (monthStart (month + 1) * 1000000) := by
  generalize times : tp.tdiv 1000000000 = seconds
  obtain ⟨first, last⟩ := (gmtime seconds).monthBounds
  have year : monthOf seconds / 12 = (gmtime seconds).year := by
    unfold monthOf
    omega
  have index : monthOf seconds % 12 = (gmtime seconds).month - 1 := by
    unfold monthOf
    omega
  have started : firstOf (gmtime seconds).year (gmtime seconds).month = monthStart (monthOf seconds) * 1000000 := by
    rw [firstOf, monthStart, year, index]
  have ended : (if ((gmtime seconds).month - 1 + 2 : Int) > 12 then ((gmtime seconds).year + 1, (1 : Int))
      else ((gmtime seconds).year, ((gmtime seconds).month - 1 + 2 : Int))) =
        ((monthOf seconds + 1) / 12, (monthOf seconds + 1) % 12 + 1) := by
    split
    next past => exact Prod.ext (by dsimp only; omega) (by dsimp only; omega)
    next within => exact Prod.ext (by dsimp only; omega) (by dsimp only; omega)
  simp only [ensurePartition, times, tmOf, sub_add_cancel]
  rw [ended, monthName, year, index, sub_add_cancel, started]
  simp only [firstOf, add_sub_cancel_right, monthStart]

/-- A name belongs to one month, since the years that the clock reaches have four digits. -/
theorem monthName_injective {month other : Int} (first : 0 ≤ month ∧ month < 120000)
    (second : 0 ≤ other ∧ other < 120000) (same : monthName month = monthName other) : month = other := by
  have rest := List.append_cancel_left same
  rw [zeroPad_of_lt (by omega), zeroPad_of_lt (by omega), zeroPad_of_lt (by omega), zeroPad_of_lt (by omega)] at rest
  obtain ⟨years, tail⟩ := List.append_inj rest (by simp)
  have year := (pad_inj (by omega) (by omega)).mp years
  have index := (pad_inj (by omega) (by omega)).mp (List.cons.inj tail).2
  omega

theorem monthOf_bounds {tp : Int} (represented : Representable tp) :
    0 ≤ monthOf (tp.tdiv 1000000000) ∧ monthOf (tp.tdiv 1000000000) < 120000 := by
  have whole : Representable (tp.tdiv 1000000000 * 1000000000) := by
    have smaller := Int.natAbs_tdiv_le_natAbs tp 1000000000
    obtain ⟨low, high⟩ := represented
    have sign : Int.sign 1000000000 = 1 := rfl
    unfold Representable
    rw [Int.tdiv_eq_ediv, sign]
    omega
  obtain ⟨first, last⟩ := year_of_representable whole
  obtain ⟨some, most⟩ := (gmtime (tp.tdiv 1000000000)).monthBounds
  unfold monthOf
  omega

/-! ## Runs -/

/-- The name and the bounds of the partition of a month. -/
def monthRange (month : Int) : List Char × Int × Int :=
  (monthName month, monthStart month * 1000000, monthStart (month + 1) * 1000000)

/-- The partitions are those of some months, and hold the rows of the plain table. -/
structure Monthly (archive : Archive) (rows : List ArchivalRow) : Prop where
  sorted : Sorted ArchivalRow.ingestionTime archive
  months : ∀ range ∈ archive.ranges, ∃ month, (0 ≤ month ∧ month < 120000) ∧ range = monthRange month
  rows : archive.rows.Perm rows

theorem initialArchive_monthly : Monthly initialArchive [] where
  sorted := by
    have empty : ∀ p ∈ initialArchive.parts, p.rows = [] := by decide
    refine ⟨by decide, fun p member row inside => ?_, fun row inside => nomatch inside⟩
    rw [empty p member] at inside
    cases inside
  months := by
    have ranges : initialArchive.ranges = [monthRange 24312, monthRange 24313] := by decide
    rw [ranges]
    intro range member
    rcases List.mem_cons.mp member with rfl | later
    · exact ⟨24312, by decide, rfl⟩
    · exact ⟨24313, by decide, List.mem_singleton.mp later⟩
  rows := List.Perm.refl _

theorem Monthly.ensured {archive next : Archive} {rows : List ArchivalRow} (now : Monthly archive rows) {tp : Int}
    (represented : Representable tp) (ensured : ensurePartition tp archive = .ok next) : Monthly next rows := by
  rw [ensurePartition_eq] at ensured
  refine ⟨Store.create_sorted now.sorted ensured, ?_, (Store.create_rows ensured).symm ▸ now.rows⟩
  rcases Store.create_eq_ok ensured with ⟨-, rfl⟩ | ⟨-, -, -, rfl⟩
  · exact now.months
  · intro range member
    rw [Store.ranges, List.map_append, List.mem_append] at member
    rcases member with before | new
    · exact now.months range before
    · exact ⟨_, monthOf_bounds represented, List.mem_singleton.mp new⟩

theorem Monthly.run {archive : Archive} {rows : List ArchivalRow} (now : Monthly archive rows) (access : Access)
    (represented : ∀ tp, access = .ensurePartition tp → Representable tp) :
    Monthly (access.run archive) (access.plain rows) := by
  cases access with
  | ensurePartition tp =>
    simp only [Access.run, Access.plain]
    split
    next next ensured => exact now.ensured (represented tp rfl) ensured
    · exact now
  | insert row =>
    refine ⟨Store.insert_sorted now.sorted row, ?_, (Store.insert_rows row archive).trans (now.rows.cons row)⟩
    rw [Access.run, Store.insert_ranges]
    exact now.months
  | delete gone =>
    refine ⟨Store.delete_sorted now.sorted gone, ?_, ?_⟩
    · rw [Access.run, Store.delete_ranges]
      exact now.months
    · rw [Access.run, Store.delete_rows]
      exact now.rows.filter _

theorem holds_iff {p : Part (List Char) Int ArchivalRow} {month : Int}
    (range : (p.name, p.low, p.high) = monthRange month) (t : Int) : p.Holds t ↔ monthOf (t / 1000000) = month := by
  have low : p.low = monthStart month * 1000000 := congrArg (fun range => range.2.1) range
  have high : p.high = monthStart (month + 1) * 1000000 := congrArg (fun range => range.2.2) range
  rw [monthOf_eq_iff, Part.Holds, low, high]
  omega

/-- The ranges of different months do not meet. -/
theorem monthStart_apart {month other : Int} (different : month ≠ other) :
    monthStart (month + 1) ≤ monthStart other ∨ monthStart (other + 1) ≤ monthStart month := by
  rcases lt_or_gt_of_ne different with before | after
  · exact .inl (monthStart_strictMono.monotone before)
  · exact .inr (monthStart_strictMono.monotone after)

namespace Monthly

variable {archive : Archive} {rows : List ArchivalRow} (now : Monthly archive rows)

include now

theorem range_of_part {p : Part (List Char) Int ArchivalRow} (member : p ∈ archive.parts) :
    ∃ month, (0 ≤ month ∧ month < 120000) ∧ (p.name, p.low, p.high) = monthRange month :=
  now.months _ (List.mem_map_of_mem member)

/-- `EnsurePartition` fails exactly when the table has rows of the month but no partition for them. -/
theorem ensurePartition_iff {tp : Int} (represented : Representable tp) :
    (∃ next, ensurePartition tp archive = .ok next) ↔
      (∃ p ∈ archive.parts, p.name = monthName (monthOf (tp.tdiv 1000000000))) ∨
        ∀ row ∈ rows, monthOf (row.ingestionTime / 1000000) ≠ monthOf (tp.tdiv 1000000000) := by
  have bounds := monthOf_bounds represented
  rw [ensurePartition_eq]
  generalize monthOf (tp.tdiv 1000000000) = month at bounds ⊢
  by_cases present : ∃ p ∈ archive.parts, p.name = monthName month
  · exact iff_of_true ⟨archive, if_pos present⟩ (.inl present)
  have other : ∀ p ∈ archive.parts, ∃ different, different ≠ month ∧ (p.name, p.low, p.high) = monthRange different := by
    intro p member
    obtain ⟨different, -, range⟩ := now.range_of_part member
    refine ⟨different, ?_, range⟩
    rintro rfl
    exact present ⟨p, member, congrArg Prod.fst range⟩
  have apart : ∀ p ∈ archive.parts, p.Apart (⟨monthName month, monthStart month * 1000000,
      monthStart (month + 1) * 1000000, []⟩ : Part (List Char) Int ArchivalRow) := by
    intro p member
    obtain ⟨different, unequal, range⟩ := other p member
    have low : p.low = monthStart different * 1000000 := congrArg (fun range => range.2.1) range
    have high : p.high = monthStart (different + 1) * 1000000 := congrArg (fun range => range.2.2) range
    have separate := monthStart_apart unequal
    rw [Part.Apart, low, high]
    dsimp only
    omega
  have proper : monthStart month * 1000000 < monthStart (month + 1) * 1000000 := by
    have grows := monthStart_strictMono (lt_add_one month)
    omega
  rw [Store.create_iff (fun p member same => present ⟨p, member, same⟩) proper apart, or_iff_right present]
  have inMonth (t : Int) : monthStart month * 1000000 ≤ t ∧ t < monthStart (month + 1) * 1000000 ↔
      monthOf (t / 1000000) = month := by
    rw [monthOf_eq_iff]
    omega
  simp only [inMonth]
  constructor
  · intro clear row member
    rcases List.mem_append.mp (now.rows.symm.subset member) with inPart | inDefault
    · obtain ⟨p, inside, stored⟩ := List.mem_flatMap.mp inPart
      obtain ⟨different, unequal, range⟩ := other p inside
      rw [(holds_iff range _).mp (now.sorted.placed p inside row stored)]
      exact unequal
    · exact clear row inDefault
  · exact fun clear row member => clear row (now.rows.subset (List.mem_append_right _ member))

end Monthly

/-- In every run from the schema of `init.sql` the partitioned table holds the rows of
the plain table, those of a month in the partition of that month if there is one and
in the default partition otherwise. `EnsurePartition` fails exactly for a month that has
no partition but rows already, which stand in the default partition then. -/
theorem partitions_follow_months (accesses : List Access)
    (represented : ∀ tp, .ensurePartition tp ∈ accesses → Representable tp) :
    let archive := accesses.foldl Access.run initialArchive
    let rows := accesses.foldl Access.plain []
    archive.rows.Perm rows ∧
    (∀ p ∈ archive.parts, ∃ month, p.name = monthName month ∧
      (∀ other, 0 ≤ other ∧ other < 120000 → p.name = monthName other → other = month) ∧
      (∀ row ∈ p.rows, monthOf (row.ingestionTime / 1000000) = month) ∧
      ∀ row ∈ archive.others, monthOf (row.ingestionTime / 1000000) ≠ month) ∧
    ∀ tp, Representable tp →
      ((∃ next, ensurePartition tp archive = .ok next) ↔
        (∃ p ∈ archive.parts, p.name = monthName (monthOf (tp.tdiv 1000000000))) ∨
          ∀ row ∈ rows, monthOf (row.ingestionTime / 1000000) ≠ monthOf (tp.tdiv 1000000000)) := by
  intro archive rows
  have all (accesses : List Access) (represented : ∀ tp, .ensurePartition tp ∈ accesses → Representable tp)
      (archive : Archive) (rows : List ArchivalRow) (now : Monthly archive rows) :
      Monthly (accesses.foldl Access.run archive) (accesses.foldl Access.plain rows) := by
    induction accesses generalizing archive rows with
    | nil => exact now
    | cons access rest ih =>
      exact ih (fun tp member => represented tp (List.mem_cons_of_mem _ member)) _ _
        (now.run access fun tp same => represented tp (same ▸ List.mem_cons_self))
  have now : Monthly archive rows := all accesses represented _ _ initialArchive_monthly
  refine ⟨now.rows, fun p member => ?_, fun tp => now.ensurePartition_iff⟩
  obtain ⟨month, inYears, range⟩ := now.range_of_part member
  have name : p.name = monthName month := congrArg Prod.fst range
  refine ⟨month, name, fun other years also => monthName_injective years inYears (also.symm.trans name),
    fun row stored => ?_, fun row inDefault same => ?_⟩
  · exact (holds_iff range _).mp (now.sorted.placed p member row stored)
  · exact now.sorted.others row inDefault p member ((holds_iff range _).mpr same)

/-- A row of March 2026 comes before its partition, and keeps it out. -/
theorem partitions_follow_months_tooLate :
    let march : Int := 1772323200
    let archive := [Access.insert ⟨1, march * 1000000⟩].foldl Access.run initialArchive
    archive.rows.Perm [⟨1, march * 1000000⟩] ∧ ¬ ∃ next, ensurePartition (march * 1000000000) archive = .ok next := by
  intro march archive
  obtain ⟨same, -, ensured⟩ := partitions_follow_months [.insert ⟨1, march * 1000000⟩] (by simp)
  refine ⟨same, fun added => ?_⟩
  rcases (ensured (march * 1000000000) (by decide)).mp added with ⟨p, member, name⟩ | none
  · revert p
    decide
  · exact none _ List.mem_cons_self (by decide)

end TelemetryLab.Datasets
