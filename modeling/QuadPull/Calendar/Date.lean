import QuadPull.Number.Natural
import QuadPull.Text.Digit

namespace QuadPull.Calendar

def isLeap (year : Nat) : Bool := year % 4 == 0 && (year % 100 != 0 || year % 400 == 0)

def daysInMonth (year month : Nat) : Nat :=
  match month with
  | 2 => if isLeap year then 29 else 28
  | 4 | 6 | 9 | 11 => 30
  | _ => 31

def IsDay (year month day : Nat) : Prop :=
  1 ≤ year ∧ year ≤ 9999 ∧ 1 ≤ month ∧ month ≤ 12 ∧ 1 ≤ day ∧ day ≤ daysInMonth year month

instance (year month day : Nat) : Decidable (IsDay year month day) := by
  unfold IsDay; infer_instance

structure Date where
  year : Nat
  month : Nat
  day : Nat
  isDay : IsDay year month day
  deriving DecidableEq

namespace Date

def of? (year month day : Nat) : Option Date :=
  if h : IsDay year month day then some ⟨year, month, day, h⟩ else none

def daysBeforeYear (year : Nat) : Nat :=
  let y := year - 1
  365 * y + y / 4 - y / 100 + y / 400

def daysBeforeMonth (year month : Nat) : Nat :=
  Number.total ((List.range (month - 1)).map fun m => daysInMonth year (m + 1))

def dayNumber (d : Date) : Nat := daysBeforeYear d.year + daysBeforeMonth d.year d.month + d.day

def yearOfDay (n : Nat) : Nat :=
  let guess := (400 * n) / 146097
  ([guess + 2, guess + 1, guess].find? fun y => daysBeforeYear y < n).getD 0

def ofDayNumber? (n : Nat) : Option Date := do
  let year := yearOfDay n
  let rest := n - daysBeforeYear year
  let month ← ((List.range 12).map (12 - ·)).find? fun m => daysBeforeMonth year m < rest
  of? year month (rest - daysBeforeMonth year month)

def newYearWeekday (year : Nat) : Nat := daysBeforeYear year % 7

/-- The weeks of a year: 53 when it starts on a Thursday, or on a Wednesday in a leap year. -/
def weeksInYear (year : Nat) : Nat :=
  let w := newYearWeekday year
  if w == 3 || (w == 2 && isLeap year) then 53 else 52

/-- The date of a weekday in a week of a year. The first week is the one with the first Thursday. -/
def ofWeek? (year week weekday : Nat) : Option Date := do
  guard (1 ≤ year && year ≤ 9999 && 1 ≤ week && week ≤ weeksInYear year)
  guard (1 ≤ weekday && weekday ≤ 7)
  let newYear := daysBeforeYear year + 1
  let w := newYearWeekday year
  let monday := if w ≤ 3 then newYear - w else newYear + 7 - w
  ofDayNumber? (monday + 7 * (week - 1) + weekday - 1)

def iso (d : Date) : List Char :=
  Text.padded 4 d.year ++ '-' :: Text.padded 2 d.month ++ '-' :: Text.padded 2 d.day

end QuadPull.Calendar.Date
