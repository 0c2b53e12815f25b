import CronLint.Recurrence.Upcoming

/-!
# Schedulers

A scheduler accepts or rejects expressions and lists the upcoming runs of those it accepts.
`calendarScheduler` is the one that reckons with the calendar. It knows no runs before 1970 and none
after year 9999. `replay` answers from given lists.
-/
namespace CronLint

open Calendar

inductive ScheduleError where
  | rejected (r : Rejection)
  | calendar (e : CalendarError)
  deriving DecidableEq, Repr

/-- `next expression start count horizon` lists up to `count` runs after `start`, none of them
later than the horizon. -/
structure Scheduler where
  validate : String → Except Rejection Unit
  next : String → Instant → Int → Option Instant → Except ScheduleError (List Instant)

namespace Scheduler

def firstMinute : Nat := epochDay * 1440
def lastMinute : Nat := dayCount * 1440 - 1

def minuteInstant (minute : Nat) : Instant := .utc (minute * microsPerMinute)

/-- The first minute that starts after an instant on a UTC clock, and from which on jobs may run. -/
def minuteAfter (start : Instant) : Nat :=
  max firstMinute (start.wall / microsPerMinute + 1).toNat

/-- The last minute that starts no later than the horizon. -/
def minuteUntil : Option Instant → Nat
  | none => lastMinute
  | some horizon => min lastMinute (horizon.wall / microsPerMinute).toNat

/-- The runs of a recurrence after `start`. From the last second of the calendar on no next second
is left to look at. -/
def project (r : Recurrence) (start : Instant) (count : Int) (horizon : Option Instant) :
    Except CalendarError (List Instant) := do
  if count ≤ 0 then return []
  let horizon ← match horizon with
    | none => pure none
    | some h => some <$> h.toUtc
  let start ← start.toUtc
  if calendarEnd - microsPerSecond ≤ start.wall then throw .outOfRange
  return (r.upcoming (minuteAfter start) (minuteUntil horizon) count.toNat).map minuteInstant

end Scheduler

def calendarScheduler : Scheduler where
  validate e := ((Recurrence.ofExpression e).map fun _ => ()).mapError GrammarFault.toRejection
  next e start count horizon :=
    match Recurrence.ofExpression e with
    | .error fault => .error (.rejected fault.toRejection)
    | .ok r => (Scheduler.project r start count horizon).mapError .calendar

/-- A scheduler that rejects the expressions in `rejections` and gives all others the runs in
`runs`, whatever the start and the horizon. -/
def Scheduler.replay (rejections : List (String × Rejection))
    (runs : List (String × List Instant)) : Scheduler where
  validate e :=
    match lastValue? rejections e with
    | some r => .error r
    | none => .ok ()
  next e _ count _ :=
    match lastValue? rejections e with
    | some r => .error (.rejected r)
    | none => .ok (((lastValue? runs e).getD []).take count.toNat)

end CronLint
