/-!
# Dates and day numbers

Dates of the Gregorian calendar, extended to all years from 1 on. Day 0 is 1 January of year 1.
-/
namespace CronLint.Calendar

structure Date where
  year : Nat
  month : Nat
  day : Nat
  deriving DecidableEq, Repr

def isLeapYear (y : Nat) : Bool := y % 4 == 0 && (y % 100 != 0 || y % 400 == 0)

def monthLengths (leap : Bool) : List Nat :=
  [31, if leap then 29 else 28, 31, 30, 31, 30, 31, 31, 30, 31, 30, 31]

def daysInMonth (y m : Nat) : Nat := ((monthLengths (isLeapYear y))[m - 1]?).getD 0

def daysBeforeYear (y : Nat) : Nat :=
  365 * (y - 1) + (y - 1) / 4 - (y - 1) / 100 + (y - 1) / 400

def daysBeforeMonth (y m : Nat) : Nat :=
  ((monthLengths (isLeapYear y)).take (m - 1)).foldr (· + ·) 0

def Date.dayNumber (d : Date) : Nat :=
  daysBeforeYear d.year + daysBeforeMonth d.year d.month + (d.day - 1)

def Date.exists? (d : Date) : Bool :=
  1 ≤ d.year && 1 ≤ d.month && d.month ≤ 12 && 1 ≤ d.day && d.day ≤ daysInMonth d.year d.month

/-- The year of a day. The mean length of a year gives it up to one. -/
def yearOfDay (n : Nat) : Nat :=
  let y := n * 400 / 146097 + 1
  if daysBeforeYear (y + 1) ≤ n then y + 1
  else if n < daysBeforeYear y then y - 1
  else y

/-- The month and day of the month that lie `days` after the start of month `m`, if `lengths` are
the lengths of the months from `m` on. -/
def monthAndDay : (lengths : List Nat) → (m days : Nat) → Nat × Nat
  | [], m, days => (m, days + 1)
  | length :: lengths, m, days =>
    if days < length then (m, days + 1) else monthAndDay lengths (m + 1) (days - length)

def Date.ofDayNumber (n : Nat) : Date :=
  let y := yearOfDay n
  let (m, d) := monthAndDay (monthLengths (isLeapYear y)) 1 (n - daysBeforeYear y)
  ⟨y, m, d⟩

def weekday (n : Nat) : Nat := (n + 1) % 7

def lastYear : Nat := 9999

def dayCount : Nat := 3652059

theorem daysBeforeYear_afterLast : daysBeforeYear (lastYear + 1) = dayCount := by decide

/-- The day on which the count of computer time starts, 1 January 1970. -/
def epochDay : Nat := 719162

example : (⟨1970, 1, 1⟩ : Date).dayNumber = epochDay := by decide

end CronLint.Calendar
