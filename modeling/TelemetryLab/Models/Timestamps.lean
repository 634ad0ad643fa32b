import Mathlib.Algebra.Order.Ring.Int
import Mathlib.Data.String.Basic
import TelemetryLab.Lib.Decimal

/-! The texts of timestamps, as `completed_at` is read from the database.

The columns are of type `TIMESTAMPTZ`; the server prints them in the ISO style,
in the time zone of the session. The infinite timestamps are left out.
-/

set_option autoImplicit false
namespace TelemetryLab.Models
open Decimal

/-! ## The calendar -/

def isLeap (year : Int) : Bool := year % 4 = 0 ∧ (year % 100 ≠ 0 ∨ year % 400 = 0)

def daysIn (year : Int) (month : Nat) : Nat :=
  if month = 2 then (if isLeap year then 29 else 28)
  else if month = 4 ∨ month = 6 ∨ month = 9 ∨ month = 11 then 30
  else 31

/-- The days of the first months of a year. -/
def daysOf (year : Int) : Nat → Nat
  | 0 => 0
  | months + 1 => daysOf year months + daysIn year (months + 1)

/-- The first day of a year, counted from the first day of the year 1. -/
def yearStart (year : Int) : Int := 365 * (year - 1) + (year - 1) / 4 - (year - 1) / 100 + (year - 1) / 400

/-- A local time of the Gregorian calendar. The year 0 is 1 BC. -/
structure Timestamp where
  year : Int
  month : Nat
  day : Nat
  hour : Nat
  minute : Nat
  second : Nat
  microsecond : Nat
  monthBounds : 1 ≤ month ∧ month ≤ 12
  dayBounds : 1 ≤ day ∧ day ≤ daysIn year month
  hourBound : hour < 24
  minuteBound : minute < 60
  secondBound : second < 60
  microsecondBound : microsecond < 1000000

namespace Timestamp

def dayOfYear (time : Timestamp) : Nat := daysOf time.year (time.month - 1) + (time.day - 1)

def dayNumber (time : Timestamp) : Int := yearStart time.year + time.dayOfYear

/-- The microseconds of the day. -/
def clock (time : Timestamp) : Nat :=
  ((time.hour * 60 + time.minute) * 60 + time.second) * 1000000 + time.microsecond

/-- The point of time in microseconds, of a local time at an offset in seconds. -/
def instant (offset : Int) (time : Timestamp) : Int :=
  time.dayNumber * 86400000000 + time.clock - offset * 1000000

/-! ## The text -/

/-- The sign and as many fields as the offset needs. -/
def offsetText (offset : Int) : List Char :=
  let seconds := offset.natAbs
  (if 0 ≤ offset then '+' else '-') :: (zeroPad 2 (seconds / 3600) ++
    (if seconds % 60 ≠ 0 then ':' :: (zeroPad 2 (seconds / 60 % 60) ++ ':' :: zeroPad 2 (seconds % 60))
    else if seconds / 60 % 60 ≠ 0 then ':' :: zeroPad 2 (seconds / 60 % 60)
    else []))

def fractionText (microsecond : Nat) : List Char := if microsecond = 0 then [] else '.' :: trimmed 6 microsecond

def characters (offset : Int) (time : Timestamp) : List Char :=
  zeroPad 4 (if 0 < time.year then time.year else 1 - time.year).toNat ++ '-' ::
    (zeroPad 2 time.month ++ '-' :: (zeroPad 2 time.day ++ ' ' :: (zeroPad 2 time.hour ++ ':' ::
      (zeroPad 2 time.minute ++ ':' :: (zeroPad 2 time.second ++ (fractionText time.microsecond ++
        (offsetText offset ++ (if time.year ≤ 0 then [' ', 'B', 'C'] else []))))))))

def text (offset : Int) (time : Timestamp) : String := .ofList (time.characters offset)

end Timestamp

/-! ## The order of time -/

section Calendar

theorem daysOf_mono (year : Int) : Monotone (daysOf year) :=
  monotone_nat_of_le_succ fun _ => Nat.le_add_right _ _

theorem yearStart_succ (year : Int) : yearStart (year + 1) = yearStart year + daysOf year 12 := by
  have sum : daysOf year 12 = if isLeap year then 366 else 365 := by
    simp only [daysOf, daysIn]
    cases isLeap year with
    | true => rfl
    | false => rfl
  rw [sum, yearStart, yearStart]
  by_cases leap : year % 4 = 0 ∧ (year % 100 ≠ 0 ∨ year % 400 = 0)
  · simp only [isLeap, leap]
    simp
    omega
  · simp only [isLeap, leap]
    simp
    omega

theorem yearStart_grows (year later : Int) (before : year < later) :
    yearStart year + daysOf year 12 ≤ yearStart later := by
  induction later, before using Int.leInduction with
  | base => exact (yearStart_succ year).ge
  | succ later _ ih =>
    rw [yearStart_succ later]
    omega

theorem daysOf_grows (year : Int) (month later : Nat) (before : month < later) :
    daysOf year month + daysIn year (month + 1) ≤ daysOf year later :=
  daysOf_mono year before

end Calendar

namespace Timestamp

section Order

variable (a b time : Timestamp)

theorem dayOfYear_lt : time.dayOfYear < daysOf time.year 12 := by
  obtain ⟨first, last⟩ := time.monthBounds
  obtain ⟨some, fits⟩ := time.dayBounds
  have inside := daysOf_grows time.year (time.month - 1) 12 (by omega)
  rw [Nat.sub_add_cancel first] at inside
  rw [dayOfYear]
  omega

theorem dayOfYear_lt_iff (same : a.year = b.year) :
    a.dayOfYear < b.dayOfYear ↔ a.month < b.month ∨ a.month = b.month ∧ a.day < b.day := by
  obtain ⟨firstMonth, -⟩ := a.monthBounds
  obtain ⟨otherMonth, -⟩ := b.monthBounds
  obtain ⟨firstDay, firstFits⟩ := a.dayBounds
  obtain ⟨otherDay, otherFits⟩ := b.dayBounds
  have places := within_lt_iff (daysOf_grows a.year) (Nat.zero_le (a.day - 1))
    (show a.day - 1 < daysIn a.year (a.month - 1 + 1) by rw [Nat.sub_add_cancel firstMonth]; omega)
    (Nat.zero_le (b.day - 1))
    (show b.day - 1 < daysIn a.year (b.month - 1 + 1) by rw [Nat.sub_add_cancel otherMonth, same]; omega)
  rw [dayOfYear, dayOfYear, ← same, places]
  omega

theorem dayNumber_lt_iff : a.dayNumber < b.dayNumber ↔
    a.year < b.year ∨ a.year = b.year ∧ (a.month < b.month ∨ a.month = b.month ∧ a.day < b.day) := by
  have places := within_lt_iff yearStart_grows (Int.natCast_nonneg a.dayOfYear) (Int.ofNat_lt.mpr a.dayOfYear_lt)
    (Int.natCast_nonneg b.dayOfYear) (Int.ofNat_lt.mpr b.dayOfYear_lt)
  rw [dayNumber, dayNumber, places, Int.ofNat_lt]
  apply or_congr_right
  apply and_congr_right
  exact dayOfYear_lt_iff a b

theorem dayNumber_eq_iff : a.dayNumber = b.dayNumber ↔ a.year = b.year ∧ a.month = b.month ∧ a.day = b.day := by
  have forth := dayNumber_lt_iff a b
  have back := dayNumber_lt_iff b a
  omega

theorem clock_lt : time.clock < 86400000000 := by
  have := time.hourBound
  have := time.minuteBound
  have := time.secondBound
  have := time.microsecondBound
  rw [clock]
  omega

theorem clock_lt_iff : a.clock < b.clock ↔
    a.hour < b.hour ∨ a.hour = b.hour ∧ (a.minute < b.minute ∨ a.minute = b.minute ∧
      (a.second < b.second ∨ a.second = b.second ∧ a.microsecond < b.microsecond)) := by
  rw [clock, clock, mixed_lt_iff a.microsecondBound b.microsecondBound, mixed_lt_iff a.secondBound b.secondBound,
    mixed_lt_iff a.minuteBound b.minuteBound]
  have := a.minuteBound
  have := b.minuteBound
  have := a.secondBound
  have := b.secondBound
  omega

/-- Earlier is earlier in the first field in which two times differ. -/
theorem instant_lt_iff (offset : Int) : a.instant offset < b.instant offset ↔
    a.year < b.year ∨ a.year = b.year ∧ (a.month < b.month ∨ a.month = b.month ∧ (a.day < b.day ∨ a.day = b.day ∧
      (a.hour < b.hour ∨ a.hour = b.hour ∧ (a.minute < b.minute ∨ a.minute = b.minute ∧
        (a.second < b.second ∨ a.second = b.second ∧ a.microsecond < b.microsecond))))) := by
  have days := dayNumber_lt_iff a b
  have same := dayNumber_eq_iff a b
  have clocks := clock_lt_iff a b
  have first := a.clock_lt
  have second := b.clock_lt
  have places : a.instant offset < b.instant offset ↔
      a.dayNumber < b.dayNumber ∨ a.dayNumber = b.dayNumber ∧ a.clock < b.clock := by
    rw [instant, instant]
    omega
  rw [places, days, same, clocks, or_and_assoc, or_and_assoc]

end Order

/-! ## The order of the texts -/

theorem offsetText_eq (offset : Int) : ∃ sign rest, offsetText offset = sign :: rest ∧ sign < '.' := by
  refine ⟨_, _, rfl, ?_⟩
  split <;> decide

/-- The sign of the offset is below the point, and both are below the digits. -/
theorem fraction_lt_iff {n m : Nat} {sign : Char} (low : sign < '.') (rest : List Char) (first : n < 1000000)
    (second : m < 1000000) :
    fractionText n ++ sign :: rest < fractionText m ++ sign :: rest ↔ n < m := by
  have digits : sign < '0' := low.trans (by decide)
  have irreflexive : ∀ c : Char, ¬ c < c := fun c => lt_irrefl c
  rw [fractionText, fractionText]
  by_cases none : n = 0
  · by_cases other : m = 0
    · simp [none, other]
    · simp [none, other, List.cons_lt_cons_iff, low, Nat.pos_of_ne_zero other]
  · by_cases other : m = 0
    · simp [none, other, List.cons_lt_cons_iff, low.not_gt, low.ne']
    · rw [if_neg none, if_neg other, List.cons_append, List.cons_append, cons_lt_cons_self_iff irreflexive]
      exact trimmed_append_lt_iff digits rest first second

theorem field_lt_iff {n m : Nat} {c : Char} {x y : List Char} (first : n < 100) (second : m < 100) :
    zeroPad 2 n ++ c :: x < zeroPad 2 m ++ c :: y ↔ n < m ∨ n = m ∧ x < y := by
  have irreflexive : ∀ c : Char, ¬ c < c := fun c => lt_irrefl c
  rw [zeroPad_of_lt first, zeroPad_of_lt second, pad_append_lt_iff first second, cons_lt_cons_self_iff irreflexive]

theorem day_lt (time : Timestamp) : time.day < 100 := by
  obtain ⟨-, fits⟩ := time.dayBounds
  have few : daysIn time.year time.month ≤ 31 := by
    rw [daysIn]
    split
    · split <;> decide
    · split <;> decide
  omega

theorem characters_of_fourDigits (offset : Int) {time : Timestamp} (bounds : 1 ≤ time.year ∧ time.year ≤ 9999) :
    time.characters offset = pad 4 time.year.toNat ++ '-' :: (zeroPad 2 time.month ++ '-' :: (zeroPad 2 time.day ++
      ' ' :: (zeroPad 2 time.hour ++ ':' :: (zeroPad 2 time.minute ++ ':' :: (pad 2 time.second ++
        (fractionText time.microsecond ++ offsetText offset)))))) := by
  have fits : time.year.toNat < 10 ^ 4 := by omega
  have some : time.second < 10 ^ 2 := time.secondBound.trans (by decide)
  rw [characters, if_pos (by omega : 0 < time.year), if_neg (by omega : ¬ time.year ≤ 0), List.append_nil,
    zeroPad_of_lt fits, zeroPad_of_lt some]

/-- Times of four-digit years are in the order of their texts. -/
theorem text_lt_iff {a b : Timestamp} (offset : Int) (first : 1 ≤ a.year ∧ a.year ≤ 9999)
    (second : 1 ≤ b.year ∧ b.year ≤ 9999) : a.text offset < b.text offset ↔ a.instant offset < b.instant offset := by
  obtain ⟨sign, rest, shown, low⟩ := offsetText_eq offset
  have irreflexive : ∀ c : Char, ¬ c < c := fun c => lt_irrefl c
  have one : a.year.toNat < 10 ^ 4 := by omega
  have two : b.year.toNat < 10 ^ 4 := by omega
  have years : (a.year.toNat < b.year.toNat ↔ a.year < b.year) ∧ (a.year.toNat = b.year.toNat ↔ a.year = b.year) := by
    omega
  obtain ⟨-, firstMonth⟩ := a.monthBounds
  obtain ⟨-, secondMonth⟩ := b.monthBounds
  have firstHour := a.hourBound
  have secondHour := b.hourBound
  have firstMinute := a.minuteBound
  have secondMinute := b.minuteBound
  have firstSecond : a.second < 10 ^ 2 := a.secondBound.trans (by decide)
  have secondSecond : b.second < 10 ^ 2 := b.secondBound.trans (by decide)
  rw [instant_lt_iff, text, text, String.lt_iff_toList_lt, String.toList_ofList, String.toList_ofList,
    characters_of_fourDigits offset first, characters_of_fourDigits offset second, shown]
  rw [pad_append_lt_iff one two, cons_lt_cons_self_iff irreflexive, field_lt_iff (by omega) (by omega),
    field_lt_iff a.day_lt b.day_lt, field_lt_iff (by omega) (by omega), field_lt_iff (by omega) (by omega),
    pad_append_lt_iff firstSecond secondSecond, fraction_lt_iff low rest a.microsecondBound b.microsecondBound,
    years.1, years.2]

end Timestamp

end TelemetryLab.Models
