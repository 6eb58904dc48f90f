/-! The calendar: lengths of months, days counted from a fixed day, weeks of a year. -/
namespace IteratedDilemma.Calendar
set_option autoImplicit false

def isLeap (year : Nat) : Bool :=
  year % 4 == 0 && (year % 100 != 0 || year % 400 == 0)

/-- The days of a month, which counts from 1. -/
def monthLength (year month : Nat) : Nat :=
  if month = 2 then if isLeap year then 29 else 28
  else if month = 4 ∨ month = 6 ∨ month = 9 ∨ month = 11 then 30
  else 31

/-- A day of the calendar. -/
structure Day where
  year : Nat
  month : Nat
  day : Nat
deriving DecidableEq

/-- The days since March 1 of year 0. A year that starts in March ends in its leap day. -/
def Day.number (d : Day) : Nat :=
  let year := if d.month ≤ 2 then d.year - 1 else d.year
  let month := if d.month ≤ 2 then d.month + 9 else d.month - 3
  year * 365 + year / 4 - year / 100 + year / 400 + (153 * month + 2) / 5 + (d.day - 1)

/-- The day that lies so many days after March 1 of year 0. -/
def Day.ofNumber (n : Nat) : Day :=
  let cycle := n / 146097
  let inCycle := n % 146097
  let year := (inCycle - inCycle / 1460 + inCycle / 36524 - inCycle / 146096) / 365
  let inYear := inCycle - (365 * year + year / 4 - year / 100)
  let month := (5 * inYear + 2) / 153
  { year := cycle * 400 + year + if 10 ≤ month then 1 else 0
    month := if month < 10 then month + 3 else month - 9
    day := inYear - (153 * month + 2) / 5 + 1 }

/-- The day of the week, Monday being 0. -/
def Day.weekday (d : Day) : Nat :=
  (d.number + 2) % 7

/-- The number of the Monday on which week 1 of a year starts: the week with its first Thursday. -/
def firstMonday (year : Nat) : Nat :=
  let first : Day := ⟨year, 1, 1⟩
  if first.weekday ≤ 3 then first.number - first.weekday else first.number + (7 - first.weekday)

/-- A year has 53 weeks if it starts on a Thursday, or on a Wednesday and is a leap year. -/
def weeksOf (year : Nat) : Nat :=
  let start := (Day.mk year 1 1).weekday
  if start = 3 ∨ start = 2 ∧ isLeap year then 53 else 52

/-- A day of a numbered week. -/
def ofWeek (year week weekday : Nat) : Day :=
  Day.ofNumber (firstMonday year + (week - 1) * 7 + (weekday - 1))

example : Day.ofNumber (Day.mk 2024 2 29).number = ⟨2024, 2, 29⟩ ∧
    (Day.mk 2024 1 1).weekday = 0 ∧ ofWeek 2020 53 7 = ⟨2021, 1, 3⟩ := by decide +kernel

end IteratedDilemma.Calendar
