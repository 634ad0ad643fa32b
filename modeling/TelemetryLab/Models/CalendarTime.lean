import Mathlib.Tactic.Ring
import TelemetryLab.Models.Timestamps

/-! Broken-down time: `std::get_time` and `std::put_time`, `timegm` and `gmtime_r`,
as `ParseTime` in `generator.cpp` and `time_resolution.h` use them.

A numeric field takes up to its full width of digits. A field that ends with the
text ends the reading, without an error, and leaves the later fields as they were.
-/

set_option autoImplicit false
namespace TelemetryLab.Models
open Decimal

/-- `std::tm`: years from 1900, months from 0. -/
structure Tm where
  tmYear : Int := 0
  tmMon : Int := 0
  tmMday : Int := 0
  tmHour : Int := 0
  tmMin : Int := 0
  tmSec : Int := 0
  deriving DecidableEq, Repr

/-- The first day of 1970, counted from the first day of the year 1. -/
def epochDay : Int := 719162

/-- Seconds since the epoch; fields out of their range carry over. -/
def timegm (tm : Tm) : Int :=
  let year := tm.tmYear + 1900 + tm.tmMon / 12
  let day := yearStart year + daysOf year (tm.tmMon % 12).toNat + tm.tmMday - 1 - epochDay
  ((day * 24 + tm.tmHour) * 60 + tm.tmMin) * 60 + tm.tmSec

/-! ## Reading -/

inductive Directive where
  | Y
  | m
  | d
  | H
  | M
  | S
  deriving DecidableEq, Repr

inductive Format where
  | directive (directive : Directive)
  | literal (c : Char)
  deriving DecidableEq, Repr

namespace Directive

def width : Directive → Nat
  | .Y => 4
  | .m | .d | .H | .M | .S => 2

def range : Directive → Nat × Nat
  | .Y => (0, 9999)
  | .m => (1, 12)
  | .d => (1, 31)
  | .H => (0, 23)
  | .M => (0, 59)
  | .S => (0, 60)

def store (tm : Tm) (value : Nat) : Directive → Tm
  | .Y => { tm with tmYear := value - 1900 }
  | .m => { tm with tmMon := value - 1 }
  | .d => { tm with tmMday := value }
  | .H => { tm with tmHour := value }
  | .M => { tm with tmMin := value }
  | .S => { tm with tmSec := value }

end Directive

def isDigit (c : Char) : Bool := 48 ≤ c.toNat ∧ c.toNat ≤ 57

/-- The digits at the front, at most so many of them, and what follows. -/
def takeDigits : Nat → List Char → List Nat × List Char
  | 0, input => ([], input)
  | _, [] => ([], [])
  | width + 1, c :: rest =>
    if isDigit c then
      let (digits, more) := takeDigits width rest
      ((c.toNat - 48) :: digits, more)
    else ([], c :: rest)

def ofDigits (digits : List Nat) : Nat := digits.foldl (fun value digit => value * 10 + digit) 0

def isSpace (c : Char) : Bool := c = ' ' ∨ (9 ≤ c.toNat ∧ c.toNat ≤ 13)

/-- `%d` skips one character of white space. -/
def Directive.skip : Directive → List Char → List Char
  | .d, c :: input => if isSpace c then input else c :: input
  | _, input => input

def extractNum (directive : Directive) (input : List Char) : Option (Nat × List Char) :=
  let (digits, rest) := takeDigits directive.width (directive.skip input)
  let value := ofDigits digits
  if digits = [] ∨ value < directive.range.1 ∨ directive.range.2 < value then none else some (value, rest)

/-- `std::time_get::get`: the time read so far, and whether the reading fails. -/
def getTime : List Format → List Char → Tm → Tm × Bool
  | [], _, tm => (tm, false)
  | _ :: _, [], tm => (tm, true)
  | .literal c :: format, e :: input, tm =>
    if c.toLower = e.toLower then getTime format input tm else (tm, true)
  | .directive directive :: format, e :: input, tm =>
    match extractNum directive (e :: input) with
    | none => (tm, true)
    -- at the end of the text the stream is at its end, which is not a failure
    | some (value, []) => (directive.store tm value, false)
    | some (value, more) => getTime format more (directive.store tm value)

/-- `ss >> std::get_time(&tm, format)`, which skips white space first. -/
def inputTime (format : List Format) (text : List Char) : Tm × Bool :=
  getTime format (text.dropWhile isSpace) {}

/-- `"%Y-%m-%dT%H:%M:%S"` -/
def isoFormat : List Format :=
  [.directive .Y, .literal '-', .directive .m, .literal '-', .directive .d, .literal 'T',
    .directive .H, .literal ':', .directive .M, .literal ':', .directive .S]

/-! ## Writing -/

/-- The year that a day lies in: next to the quotient by the mean length of a year. -/
def yearOf (day : Int) : Int :=
  let guess := day * 400 / 146097 + 1
  if day < yearStart guess then guess - 1 else if day < yearStart (guess + 1) then guess else guess + 1

/-- The months, of the first ones, that are over by a day of the year. -/
def monthsBefore (year : Int) (day : Nat) : Nat → Nat
  | 0 => 0
  | months + 1 => if daysOf year (months + 1) ≤ day then months + 1 else monthsBefore year day months

theorem yearOf_spec (day : Int) : yearStart (yearOf day) ≤ day ∧ day < yearStart (yearOf day + 1) := by
  have low : yearStart (day * 400 / 146097) ≤ day := by
    rw [yearStart]
    omega
  have high : day < yearStart (day * 400 / 146097 + 1 + 1 + 1) := by
    rw [yearStart]
    omega
  rw [yearOf]
  split
  next before =>
    rw [add_sub_cancel_right]
    exact ⟨low, before⟩
  next after =>
    split
    next before => exact ⟨not_lt.mp after, before⟩
    next late =>
      exact ⟨not_lt.mp late, high⟩

theorem monthsBefore_spec (year : Int) (day months : Nat) :
    monthsBefore year day months ≤ months ∧ daysOf year (monthsBefore year day months) ≤ day ∧
      (monthsBefore year day months < months → day < daysOf year (monthsBefore year day months + 1)) := by
  induction months with
  | zero => exact ⟨le_rfl, Nat.zero_le day, fun above => absurd above (lt_irrefl 0)⟩
  | succ months ih =>
    rw [monthsBefore]
    split
    next started => exact ⟨le_rfl, started, fun above => absurd above (lt_irrefl _)⟩
    next later =>
      obtain ⟨few, started, next⟩ := ih
      refine ⟨Nat.le_succ_of_le few, started, fun _ => ?_⟩
      rcases Nat.lt_or_eq_of_le few with fewer | all
      · exact next fewer
      · rw [all]
        exact not_le.mp later

/-- The place of a day in its year. -/
def yearDay (day : Int) : Nat := (day - yearStart (yearOf day)).toNat

def monthIndex (day : Int) : Nat := monthsBefore (yearOf day) (yearDay day) 11

theorem yearDay_spec (day : Int) :
    yearStart (yearOf day) + yearDay day = day ∧ yearDay day < daysOf (yearOf day) 12 := by
  obtain ⟨first, last⟩ := yearOf_spec day
  rw [yearStart_succ] at last
  rw [yearDay]
  omega

theorem monthIndex_spec (day : Int) : monthIndex day ≤ 11 ∧ daysOf (yearOf day) (monthIndex day) ≤ yearDay day ∧
    yearDay day < daysOf (yearOf day) (monthIndex day) + daysIn (yearOf day) (monthIndex day + 1) := by
  obtain ⟨few, started, next⟩ := monthsBefore_spec (yearOf day) (yearDay day) 11
  refine ⟨few, started, ?_⟩
  rcases Nat.lt_or_eq_of_le few with fewer | all
  · exact next fewer
  · have inside := (yearDay_spec day).2
    change yearDay day < daysOf (yearOf day) (monthsBefore (yearOf day) (yearDay day) 11 + 1)
    rw [all]
    exact inside

/-- A whole second has no microseconds. -/
theorem noMicrosecond : 0 < 1000000 := by decide

/-- The fields of a point of time, in UTC. -/
def gmtime (seconds : Int) : Timestamp :=
  let day := seconds / 86400 + epochDay
  let clock := (seconds % 86400).toNat
  { year := yearOf day
    month := monthIndex day + 1
    day := yearDay day - daysOf (yearOf day) (monthIndex day) + 1
    hour := clock / 3600
    minute := clock / 60 % 60
    second := clock % 60
    microsecond := 0
    monthBounds := by
      have few := (monthIndex_spec day).1
      omega
    dayBounds := by
      obtain ⟨-, started, inside⟩ := monthIndex_spec day
      omega
    hourBound := by omega
    minuteBound := by omega
    secondBound := by omega
    microsecondBound := noMicrosecond }

theorem gmtime_dayNumber (seconds : Int) : (gmtime seconds).dayNumber = seconds / 86400 + epochDay := by
  obtain ⟨-, started, -⟩ := monthIndex_spec (seconds / 86400 + epochDay)
  have placed := (yearDay_spec (seconds / 86400 + epochDay)).1
  rw [Timestamp.dayNumber, Timestamp.dayOfYear]
  simp only [gmtime, Nat.add_sub_cancel]
  omega

def tmOf (time : Timestamp) : Tm :=
  ⟨time.year - 1900, time.month - 1, time.day, time.hour, time.minute, time.second⟩

/-- The broken-down time of a point of time is that point again. -/
theorem timegm_gmtime (seconds : Int) : timegm (tmOf (gmtime seconds)) = seconds := by
  have number := gmtime_dayNumber seconds
  obtain ⟨first, last⟩ := (gmtime seconds).monthBounds
  obtain ⟨some, -⟩ := (gmtime seconds).dayBounds
  have noYear : ((gmtime seconds).month - 1 : Int) / 12 = 0 := by omega
  have month : (((gmtime seconds).month - 1 : Int) % 12).toNat = (gmtime seconds).month - 1 := by omega
  have clock : ((gmtime seconds).hour * 60 + (gmtime seconds).minute) * 60 + (gmtime seconds).second =
      (seconds % 86400).toNat := by
    simp only [gmtime]
    omega
  rw [Timestamp.dayNumber, Timestamp.dayOfYear] at number
  simp only [timegm, tmOf, noYear, month, sub_add_cancel, add_zero]
  omega

/-- `std::put_time(&tm, "%Y-%m-%dT%H:%M:%S")`; a year has four digits in the range of the clock. -/
def putTime (time : Timestamp) : List Char :=
  zeroPad 4 time.year.toNat ++ '-' :: (zeroPad 2 time.month ++ '-' :: (zeroPad 2 time.day ++
    'T' :: (zeroPad 2 time.hour ++ ':' :: (zeroPad 2 time.minute ++ ':' :: zeroPad 2 time.second))))

def formatIsoTime (seconds : Int) : String := .ofList (putTime (gmtime seconds) ++ ['Z'])

/-! ## Points of time -/

/-- A computation on points of time leaves the 64 bits of their nanoseconds. -/
inductive Overflow where
  | overflow
  deriving DecidableEq, Repr

def Representable (nanoseconds : Int) : Prop := -2 ^ 63 ≤ nanoseconds ∧ nanoseconds < 2 ^ 63

instance (nanoseconds : Int) : Decidable (Representable nanoseconds) := inferInstanceAs (Decidable (_ ∧ _))

/-- The result of an addition or a multiplication of nanoseconds. -/
def timePoint (nanoseconds : Int) : Except Overflow Int :=
  if Representable nanoseconds then .ok nanoseconds else .error .overflow

theorem timePoint_eq_ok {nanoseconds t : Int} :
    timePoint nanoseconds = .ok t ↔ Representable nanoseconds ∧ nanoseconds = t := by
  unfold timePoint
  split
  next represented => simp [represented]
  next outside => simp [outside]

def fromTimeT (seconds : Int) : Except Overflow Int := timePoint (seconds * 1000000000)

/-- `ParseTime` before the conversion: what is read of the text, whether or not it fails. -/
def parseTime (iso : String) : Int := timegm (inputTime (isoFormat ++ [.literal 'Z']) iso.toList).1

def trimZ (text : List Char) : List Char := if text.getLast? = some 'Z' then text.dropLast else text

/-- `ParseIsoTime` before the conversion. -/
def parseIsoTime (iso : String) : Option Int :=
  if iso = "" then none
  else
    match inputTime isoFormat (trimZ iso.toList) with
    | (_, true) => none
    | (tm, false) => some (timegm tm)

/-! ## A written time is read back -/

section RoundTrip

theorem toNat_digitChar {d : Nat} (fits : d < 10) : d.digitChar.toNat = 48 + d :=
  Nat.toNat_digitChar_of_lt_ten fits

theorem isDigit_digitChar {d : Nat} (fits : d < 10) : isDigit d.digitChar = true := by
  rw [isDigit, toNat_digitChar fits]
  simp
  omega

theorem isSpace_digitChar {d : Nat} (fits : d < 10) : isSpace d.digitChar = false := by
  have code := toNat_digitChar fits
  have other : d.digitChar ≠ ' ' := by
    intro same
    rw [same] at code
    change 32 = 48 + d at code
    omega
  rw [isSpace, code]
  simp [other]
  omega

theorem takeDigits_pad (width n : Nat) (rest : List Char) :
    ∃ digits, takeDigits width (pad width n ++ rest) = (digits, rest) ∧ digits.length = width ∧
      ∀ value, digits.foldl (fun value digit => value * 10 + digit) value = value * 10 ^ width + n % 10 ^ width := by
  induction width generalizing n with
  | zero => exact ⟨[], rfl, rfl, fun value => by simp [Nat.mod_one]⟩
  | succ width ih =>
    have fits : n / 10 ^ width % 10 < 10 := Nat.mod_lt _ (by decide)
    obtain ⟨digits, taken, long, value⟩ := ih (n % 10 ^ width)
    refine ⟨n / 10 ^ width % 10 :: digits, ?_, by simp [long], fun first => ?_⟩
    · rw [pad, List.cons_append, takeDigits, if_pos (isDigit_digitChar fits), taken, toNat_digitChar fits,
        Nat.add_sub_cancel_left]
    · rw [List.foldl_cons, value, Nat.mod_mod, Nat.pow_succ, Nat.mod_mul]
      ring

theorem skip_pad (directive : Directive) (n : Nat) (rest : List Char) :
    directive.skip (pad directive.width n ++ rest) = pad directive.width n ++ rest := by
  cases directive with
  | d =>
    have leading : n / 10 % 10 < 10 := Nat.mod_lt _ (by decide)
    show (if isSpace (n / 10 % 10).digitChar then _ else _) = _
    rw [isSpace_digitChar leading]
    rfl
  | Y | m | H | M | S => rfl

theorem extractNum_pad (directive : Directive) {n : Nat} (fits : n < 10 ^ directive.width)
    (bounds : directive.range.1 ≤ n ∧ n ≤ directive.range.2) (rest : List Char) :
    extractNum directive (pad directive.width n ++ rest) = some (n, rest) := by
  obtain ⟨digits, taken, long, value⟩ := takeDigits_pad directive.width n rest
  have read : ofDigits digits = n := by
    rw [ofDigits, value, Nat.zero_mul, Nat.zero_add, Nat.mod_eq_of_lt fits]
  simp only [extractNum, skip_pad, taken, read]
  rw [if_neg]
  rintro (rfl | low | high)
  · cases directive <;> cases long
  · omega
  · omega

theorem getTime_literal (c : Char) (format : List Format) (input : List Char) (tm : Tm) :
    getTime (.literal c :: format) (c :: input) tm = getTime format input tm := if_pos rfl

/-- A field of full width, followed by something. -/
theorem getTime_pad (directive : Directive) {n : Nat} (fits : n < 10 ^ directive.width)
    (bounds : directive.range.1 ≤ n ∧ n ≤ directive.range.2) (format : List Format) (c : Char) (rest : List Char)
    (tm : Tm) : getTime (.directive directive :: format) (pad directive.width n ++ c :: rest) tm =
      getTime format (c :: rest) (directive.store tm n) := by
  have read := extractNum_pad directive fits bounds (c :: rest)
  cases shape : pad directive.width n ++ c :: rest with
  | nil => simp at shape
  | cons e input =>
    rw [shape] at read
    rw [getTime, read]

theorem getTime_pad_last (directive : Directive) {n : Nat} (fits : n < 10 ^ directive.width)
    (bounds : directive.range.1 ≤ n ∧ n ≤ directive.range.2) (tm : Tm) :
    getTime [.directive directive] (pad directive.width n) tm = (directive.store tm n, false) := by
  have read := extractNum_pad directive fits bounds []
  rw [List.append_nil] at read
  cases shape : pad directive.width n with
  | nil => cases directive <;> simp [pad, Directive.width] at shape
  | cons e input =>
    rw [shape] at read
    rw [getTime, read]

theorem daysIn_le (year : Int) (month : Nat) : daysIn year month ≤ 31 := by
  rw [daysIn]
  split
  · split <;> decide
  · split <;> decide

theorem getTime_putTime {time : Timestamp} (year : 0 ≤ time.year ∧ time.year ≤ 9999) :
    getTime isoFormat (putTime time) {} = (tmOf time, false) := by
  obtain ⟨firstMonth, lastMonth⟩ := time.monthBounds
  obtain ⟨firstDay, lastDay⟩ := time.dayBounds
  have days := daysIn_le time.year time.month
  have hours := time.hourBound
  have minutes := time.minuteBound
  have seconds := time.secondBound
  have fourDigits : time.year.toNat < 10 ^ 4 := by omega
  have twoDigits : ∀ n : Nat, n < 100 → zeroPad 2 n = pad 2 n := fun n below => zeroPad_of_lt below
  rw [putTime, zeroPad_of_lt fourDigits, twoDigits _ (by omega), twoDigits _ (by omega), twoDigits _ (by omega),
    twoDigits _ (by omega), twoDigits _ (by omega), isoFormat]
  refine (getTime_pad .Y fourDigits ⟨Nat.zero_le _, by change _ ≤ 9999; omega⟩ _ _ _ _).trans ?_
  rw [getTime_literal]
  refine (getTime_pad .m (by change _ < 100; omega) ⟨firstMonth, lastMonth⟩ _ _ _ _).trans ?_
  rw [getTime_literal]
  refine (getTime_pad .d (by change _ < 100; omega) ⟨firstDay, by change _ ≤ 31; omega⟩ _ _ _ _).trans ?_
  rw [getTime_literal]
  refine (getTime_pad .H (by change _ < 100; omega) ⟨Nat.zero_le _, by change _ ≤ 23; omega⟩ _ _ _ _).trans ?_
  rw [getTime_literal]
  refine (getTime_pad .M (by change _ < 100; omega) ⟨Nat.zero_le _, by change _ ≤ 59; omega⟩ _ _ _ _).trans ?_
  rw [getTime_literal]
  refine (getTime_pad_last .S (by change _ < 100; omega) ⟨Nat.zero_le _, by change _ ≤ 60; omega⟩ _).trans ?_
  simp only [Directive.store, tmOf, Int.toNat_of_nonneg year.1]

theorem dropWhile_putTime {time : Timestamp} (year : 0 ≤ time.year ∧ time.year ≤ 9999) :
    (putTime time).dropWhile isSpace = putTime time := by
  have fourDigits : time.year.toNat < 10 ^ 4 := by omega
  have leading : time.year.toNat / 10 ^ 3 % 10 < 10 := Nat.mod_lt _ (by decide)
  rw [putTime, zeroPad_of_lt fourDigits, pad, List.cons_append,
    List.dropWhile_cons_of_neg (by rw [isSpace_digitChar leading]; decide)]

theorem parseIsoTime_formatIsoTime {seconds : Int}
    (year : 0 ≤ (gmtime seconds).year ∧ (gmtime seconds).year ≤ 9999) :
    parseIsoTime (formatIsoTime seconds) = some seconds := by
  have trimmed : trimZ (putTime (gmtime seconds) ++ ['Z']) = putTime (gmtime seconds) := by
    rw [trimZ, List.getLast?_concat, if_pos rfl, List.dropLast_concat]
  have written : formatIsoTime seconds ≠ "" := by
    intro empty
    have long := congrArg String.length empty
    simp [formatIsoTime] at long
  rw [parseIsoTime, if_neg written, formatIsoTime, String.toList_ofList, trimmed, inputTime, dropWhile_putTime year,
    getTime_putTime year]
  simp only [timegm_gmtime]

/-- The clock ranges over a few centuries. -/
theorem year_of_representable {seconds : Int} (represented : Representable (seconds * 1000000000)) :
    0 ≤ (gmtime seconds).year ∧ (gmtime seconds).year ≤ 9999 := by
  obtain ⟨first, last⟩ := yearOf_spec (seconds / 86400 + epochDay)
  obtain ⟨low, high⟩ := represented
  change 0 ≤ yearOf (seconds / 86400 + epochDay) ∧ yearOf (seconds / 86400 + epochDay) ≤ 9999
  generalize yearOf (seconds / 86400 + epochDay) = year at *
  rw [yearStart] at first last
  rw [epochDay] at first last
  omega

end RoundTrip

end TelemetryLab.Models
