/-
AlertConformance.Time.Calendar — days of the Gregorian calendar.

Days are numbered: January 1 of the year 1, a Monday, is day 1. The
calendar is extended backwards to that day.

* `dayNumber?` — a date by year, month and day.
* `weekDayNumber?` — a date by year, week and day of the week, where the
  first week of a year is the one with its first Thursday.
-/
namespace AlertConformance.Calendar

/-! ## Years and months -/

def isLeapYear (year : Nat) : Bool := year % 4 = 0 && (year % 100 ≠ 0 || year % 400 = 0)

/-- The last year that has a number of four digits. -/
def maxYear : Nat := 9999

def yearLength (year : Nat) : Nat := if isLeapYear year then 366 else 365

def monthLength (year : Nat) : (month : Nat) → Nat
  | 2 => if isLeapYear year then 29 else 28
  | 4 | 6 | 9 | 11 => 30
  | _ => 31

/-- The days before a year. -/
def daysBeforeYear (year : Nat) : Nat :=
  let past := year - 1
  365 * past + past / 4 - past / 100 + past / 400

/-- The days of a year before a month. -/
def daysBeforeMonth (year month : Nat) : Nat :=
  (List.range (month - 1)).foldl (fun days earlier => days + monthLength year (earlier + 1)) 0

/-! ## Dates -/

/-- The number of a date. -/
def dayNumber (year month day : Nat) : Nat :=
  daysBeforeYear year + daysBeforeMonth year month + day

/-- Whether a year has a month with a day. -/
def isDate (year month day : Nat) : Bool :=
  1 ≤ year && year ≤ maxYear && 1 ≤ month && month ≤ 12 &&
    1 ≤ day && day ≤ monthLength year month

/-- The number of a date that the calendar has. -/
def dayNumber? (year month day : Nat) : Option Nat :=
  if isDate year month day then some (dayNumber year month day) else none

/-- The number of the last date. -/
def maxDayNumber : Nat := dayNumber maxYear 12 31

/-- The number of January 1, 1970. -/
def epochDay : Nat := dayNumber 1970 1 1

/-! ## Weeks -/

/-- The day of the week on which a year starts, Monday being 0. -/
def firstWeekday (year : Nat) : Nat := daysBeforeYear year % 7

/-- The number of the Monday of the first week of a year. -/
def firstMonday (year : Nat) : Int :=
  let start : Int := daysBeforeYear year + 1 - firstWeekday year
  if 3 < firstWeekday year then start + 7 else start

/-- A year has 53 weeks when it has 53 Thursdays. -/
def weeksInYear (year : Nat) : Nat :=
  if firstWeekday year = 3 || (firstWeekday year = 2 && isLeapYear year) then 53 else 52

/-- The number of a day of a week, Monday being 1. -/
def weekDayNumber? (year week day : Nat) : Option Nat :=
  if 1 ≤ year && 1 ≤ week && week ≤ weeksInYear year && 1 ≤ day && day ≤ 7 then
    let number := firstMonday year + (week - 1) * 7 + (day - 1)
    if 1 ≤ number && number ≤ maxDayNumber then some number.toNat else none
  else none

end AlertConformance.Calendar
