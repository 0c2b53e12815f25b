import CronLint.Scheduler

/-!
# Windows of time

A window is half-open: it includes its start and excludes its end.
-/
namespace CronLint

open Calendar

structure Window where
  start : Instant
  stop : Instant
  deriving DecidableEq, Repr

namespace Window

def ofLength (start : Instant) (length : Int) : Except CalendarError Window :=
  (start.plus length).map fun stop => ⟨start, stop⟩

def sameClock (w : Window) (t : Instant) : Bool := w.stop.offset.isSome == t.offset.isSome

def reaches (w : Window) (t : Instant) : Bool :=
  w.sameClock t && decide (t.micros < w.stop.micros)

/-- The runs within the window, up to the first run at or after its end. -/
def clip (w : Window) (times : List Instant) : Except CalendarError (List Instant) :=
  let reached := times.takeWhile w.reaches
  if (times[reached.length]?).all w.sameClock then
    .ok (reached.filter fun t => decide (w.start.micros ≤ t.micros))
  else .error .mixedClocks

end Window

def reckon (x : Except CalendarError α) : Except ScheduleError α := x.mapError .calendar

end CronLint
