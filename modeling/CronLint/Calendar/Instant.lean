import CronLint.Calendar.Date

/-!
# Instants

An instant is a reading of a wall clock to the microsecond, with the clock's offset from UTC if it
is known. Instants with known offsets are compared by where they lie in time, instants without by
their readings, and one of each kind not at all.
-/
namespace CronLint.Calendar

inductive CalendarError where
  /-- The result lies outside the calendar. -/
  | outOfRange
  /-- A date was asked for in a year that the calendar does not have. -/
  | noSuchYear (year : Int)
  /-- An instant with a known offset was compared with one without. -/
  | mixedClocks
  deriving DecidableEq, Repr

def CalendarError.message : CalendarError → String
  | .outOfRange => "date value out of range"
  | .noSuchYear year => "year " ++ toString year ++ " is out of range"
  | .mixedClocks => "can't compare offset-naive and offset-aware datetimes"

def microsPerSecond : Int := 1000000
def microsPerMinute : Int := 60 * microsPerSecond
def microsPerHour : Int := 60 * microsPerMinute
def microsPerDay : Int := 24 * microsPerHour

def calendarEnd : Int := dayCount * microsPerDay

/-- `wall` counts the microseconds on the clock since the start of year 1; `offset` is the number
of seconds by which the clock is ahead of UTC. -/
structure Instant where
  wall : Int
  offset : Option Int
  deriving DecidableEq, Repr

namespace Instant

def utc (wall : Int) : Instant := ⟨wall, some 0⟩

def ofWall (wall : Int) (offset : Option Int) : Except CalendarError Instant :=
  if 0 ≤ wall ∧ wall < calendarEnd then .ok ⟨wall, offset⟩ else .error .outOfRange

/-- Where the instant lies in time, in microseconds; an unknown offset counts as zero. -/
def micros (t : Instant) : Int := t.wall - t.offset.getD 0 * microsPerSecond

@[simp] theorem micros_utc (wall : Int) : (utc wall).micros = wall := by
  simp [utc, micros]

/-- The same instant on a UTC clock. A reading without an offset is taken as UTC. -/
def toUtc (t : Instant) : Except CalendarError Instant := ofWall t.micros (some 0)

/-- The instant `micros` microseconds later on the same clock. -/
def plus (t : Instant) (micros : Int) : Except CalendarError Instant :=
  ofWall (t.wall + micros) t.offset

def elapsed (s t : Instant) : Except CalendarError Int :=
  if s.offset.isSome = t.offset.isSome then .ok (t.micros - s.micros) else .error .mixedClocks

def isBefore (s t : Instant) : Except CalendarError Bool :=
  (elapsed s t).map fun d => decide (0 < d)

def truncateToMinute (t : Instant) : Instant := { t with wall := t.wall - t.wall % microsPerMinute }

def date (t : Instant) : Date := Date.ofDayNumber (t.wall / microsPerDay).toNat

def microOfDay (t : Instant) : Nat := (t.wall % microsPerDay).toNat
def hour (t : Instant) : Nat := t.microOfDay / 3600000000
def minute (t : Instant) : Nat := t.microOfDay / 60000000 % 60
def second (t : Instant) : Nat := t.microOfDay / 1000000 % 60
def microsecond (t : Instant) : Nat := t.microOfDay % 1000000

def hourOfDay (t : Instant) : Fin 24 where
  val := t.hour
  isLt := by
    have hday : microsPerDay = 24 * 3600000000 := rfl
    unfold hour microOfDay
    rw [hday]
    omega

def wallAt (d : Date) (microOfDay : Nat) : Int := d.dayNumber * microsPerDay + microOfDay

/-- The same day and time `years` later. A 29 February that the year does not have becomes
1 March. -/
def addYears (t : Instant) (years : Int) : Except CalendarError Instant :=
  let d := t.date
  let year := d.year + years
  if year < -2147483648 ∨ 2147483647 < year then .error .outOfRange
  else if year < 1 ∨ lastYear < year then .error (.noSuchYear year)
  else
    let same : Date := { d with year := year.toNat }
    let d := if same.exists? then same else ⟨year.toNat, 3, 1⟩
    .ok { t with wall := wallAt d t.microOfDay }

end Instant

/-- The longest span of time that can be handled, in whole days. -/
def maxSpanDays : Int := 999999999

def spanOfSeconds (seconds : Int) : Except CalendarError Int :=
  let days := seconds / 86400
  if -maxSpanDays ≤ days ∧ days ≤ maxSpanDays then .ok (seconds * microsPerSecond)
  else .error .outOfRange

end CronLint.Calendar
