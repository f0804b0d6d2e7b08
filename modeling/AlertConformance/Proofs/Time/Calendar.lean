/-
AlertConformance.Proofs.Time.Calendar — dates and the numbers of their days.

The calendar numbers its days by counting years and months. A date can also
be stepped by hand: to the next day of the month, or else to the first of
the next month or year. Both ways agree, leap years included.

* `daysBeforeYear_succ`, `daysBeforeMonth_succ` — a year and a month later.
* `Date.next`, `Date.previous` — the dates around a date.
* `Date.number_next`, `Date.number_previous` — they have the numbers around
  its number.
* `Date.number_le` — no date comes after the last one.
-/
import AlertConformance.Time.Calendar
import Mathlib.Tactic.IntervalCases

namespace AlertConformance

namespace Calendar

variable {year month : Nat}

/-! ## Years and months -/

/-- The multiples of a number up to a year. -/
theorem div_eq_pred_div_add (hyear : 1 ≤ year) (every : Nat) :
    year / every = (year - 1) / every + if year % every = 0 then 1 else 0 := by
  obtain ⟨past, rfl⟩ := Nat.exists_eq_add_of_le' hyear
  rw [Nat.add_sub_cancel, Nat.succ_div]
  simp only [Nat.dvd_iff_mod_eq_zero]

/-- A year is longer when it is the fourth one, unless it is the hundredth
one, unless it is the four hundredth one. -/
theorem daysBeforeYear_succ (hyear : 1 ≤ year) :
    daysBeforeYear (year + 1) = daysBeforeYear year + yearLength year := by
  have hless : (year - 1) / 100 ≤ (year - 1) / 4 := Nat.div_le_div_left (by decide) (by decide)
  have hhundredth : year % 400 = 0 → year % 100 = 0 := by omega
  have hfourth : year % 100 = 0 → year % 4 = 0 := by omega
  simp only [daysBeforeYear, yearLength, isLeapYear, Nat.add_sub_cancel, div_eq_pred_div_add hyear 4,
    div_eq_pred_div_add hyear 100, div_eq_pred_div_add hyear 400, Bool.and_eq_true, Bool.or_eq_true,
    decide_eq_true_eq]
  generalize (year - 1) / 4 = fourths at *
  generalize (year - 1) / 100 = hundredths at *
  generalize (year - 1) / 400 = fourHundredths at *
  split_ifs
  all_goals omega

theorem daysBeforeMonth_succ (hmonth : 1 ≤ month) :
    daysBeforeMonth year (month + 1) = daysBeforeMonth year month + monthLength year month := by
  obtain ⟨past, rfl⟩ := Nat.exists_eq_add_of_le' hmonth
  simp [daysBeforeMonth, List.range_succ, List.foldl_append]

theorem daysBeforeMonth_one (year : Nat) : daysBeforeMonth year 1 = 0 := rfl

/-- The months fill the year. -/
theorem daysBeforeMonth_december (year : Nat) :
    daysBeforeMonth year 12 + monthLength year 12 = yearLength year := by
  have hmonths : daysBeforeMonth year 12 + monthLength year 12 = 337 + monthLength year 2 := by
    simp [daysBeforeMonth, List.range_succ, monthLength]
    omega
  rw [hmonths, yearLength, monthLength]
  split
  · rfl
  · rfl

theorem monthLength_le (year month : Nat) : monthLength year month ≤ 31 := by
  unfold monthLength
  repeat' split
  all_goals decide

/-- A month ends before the next one starts. -/
theorem daysBeforeMonth_add_le (hmonth : 1 ≤ month) {later : Nat} (h : month < later) :
    daysBeforeMonth year month + monthLength year month ≤ daysBeforeMonth year later := by
  induction later, h using Nat.le_induction with
  | base => exact (daysBeforeMonth_succ hmonth).ge
  | succ later hlater ih =>
    rw [daysBeforeMonth_succ (by omega)]
    omega

end Calendar

open Calendar

/-! ## Dates -/

/-- A date by its year, month and day. -/
structure Date where
  year : Nat
  month : Nat
  day : Nat
  deriving DecidableEq, Repr

namespace Date

variable {date : Date}

/-- A date that the calendar has. -/
def IsValid (date : Date) : Prop := isDate date.year date.month date.day = true

instance (date : Date) : Decidable date.IsValid :=
  inferInstanceAs (Decidable (isDate date.year date.month date.day = true))

/-- The number of the day. -/
def number (date : Date) : Nat := dayNumber date.year date.month date.day

/-- The day after a date. -/
def next (date : Date) : Date :=
  if date.day < monthLength date.year date.month then { date with day := date.day + 1 }
  else if date.month < 12 then ⟨date.year, date.month + 1, 1⟩
  else ⟨date.year + 1, 1, 1⟩

/-- The day before a date. -/
def previous (date : Date) : Date :=
  if 1 < date.day then { date with day := date.day - 1 }
  else if 1 < date.month then
    ⟨date.year, date.month - 1, monthLength date.year (date.month - 1)⟩
  else ⟨date.year - 1, 12, 31⟩

theorem isValid_iff :
    date.IsValid ↔ (1 ≤ date.year ∧ date.year ≤ maxYear) ∧ (1 ≤ date.month ∧ date.month ≤ 12) ∧
      1 ≤ date.day ∧ date.day ≤ monthLength date.year date.month := by
  simp only [IsValid, isDate, Bool.and_eq_true, decide_eq_true_eq]
  tauto

theorem dayNumber?_of_isValid (h : date.IsValid) :
    dayNumber? date.year date.month date.day = some date.number := if_pos h

/-- **The next day** has the next number. -/
theorem number_next (h : date.IsValid) : date.next.number = date.number + 1 := by
  obtain ⟨⟨hyear, -⟩, ⟨hmonth, hlast⟩, -, hday⟩ := isValid_iff.mp h
  obtain ⟨year, month, day⟩ := date
  simp only at hyear hmonth hlast hday
  simp only [number, dayNumber, next]
  split
  · -- within the month
    simp only
    omega
  split
  · -- the end of a month
    simp only [daysBeforeMonth_succ hmonth]
    omega
  · -- the end of a year
    obtain rfl : month = 12 := by omega
    have hyearEnd := daysBeforeMonth_december year
    simp only [daysBeforeYear_succ hyear, daysBeforeMonth_one]
    omega

example : (⟨2000, 2, 28⟩ : Date).next = ⟨2000, 2, 29⟩ := by decide

example : (⟨1900, 2, 28⟩ : Date).next = ⟨1900, 3, 1⟩ := by decide

/-- **The day before** has the number before. -/
theorem number_previous (h : date.IsValid) (hprevious : date.previous.IsValid) :
    date.previous.number + 1 = date.number := by
  obtain ⟨-, ⟨hmonth, -⟩, hday, hlength⟩ := isValid_iff.mp h
  obtain ⟨⟨hyear, -⟩, -⟩ := isValid_iff.mp hprevious
  obtain ⟨year, month, day⟩ := date
  simp only at hmonth hday hlength
  simp only [number, dayNumber, previous]
  split
  · -- within the month
    simp only
    omega
  rename_i hfirst
  split
  · -- the start of a month
    rename_i hlater
    obtain ⟨past, rfl⟩ : ∃ past, month = past + 1 := ⟨month - 1, by omega⟩
    have hpast : 1 ≤ past := Nat.lt_succ_iff.mp hlater
    simp only [Nat.add_sub_cancel, daysBeforeMonth_succ hpast]
    omega
  · -- the start of a year
    rename_i hjanuary
    simp only [previous, if_neg hfirst, if_neg hjanuary] at hyear
    obtain ⟨past, rfl⟩ : ∃ past, year = past + 1 := ⟨year - 1, by omega⟩
    obtain rfl : month = 1 := by omega
    have hyearEnd : daysBeforeMonth past 12 + 31 = yearLength past := daysBeforeMonth_december past
    simp only [Nat.add_sub_cancel] at hyear
    simp only [Nat.add_sub_cancel, daysBeforeYear_succ hyear, daysBeforeMonth_one]
    omega

/-- The last date has the greatest number. -/
theorem number_le (h : date.IsValid) : date.number ≤ maxDayNumber := by
  obtain ⟨⟨hyear, hlastYear⟩, ⟨hmonth, hlastMonth⟩, -, hday⟩ := isValid_iff.mp h
  have hmonthEnd : daysBeforeMonth date.year date.month + monthLength date.year date.month ≤
      yearLength date.year := by
    rw [← daysBeforeMonth_december]
    rcases Nat.lt_or_eq_of_le hlastMonth with hless | heq
    · exact (daysBeforeMonth_add_le hmonth hless).trans (Nat.le_add_right _ _)
    · rw [heq]
  have hyearEnd := daysBeforeYear_succ hyear
  have hend : daysBeforeYear (date.year + 1) ≤ maxDayNumber := by
    have hmax : maxDayNumber = daysBeforeYear (maxYear + 1) := by decide
    rw [hmax]
    unfold daysBeforeYear maxYear at *
    simp only
    omega
  simp only [number, dayNumber]
  omega

end Date

end AlertConformance
