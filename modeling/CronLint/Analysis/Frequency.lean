import CronLint.Analysis.Window

/-!
# Frequencies

How often an expression runs in the day and in the hour after a reference instant. The reference is
fixed, so that the numbers do not depend on when a check is made.
-/
namespace CronLint

open Calendar

def referenceInstant : Instant := .utc (Instant.wallAt ⟨2025, 1, 1⟩ 0)

/-- The most runs that are asked for; more than a day or an hour has minutes. -/
def dailyLimit : Int := 2000
def hourlyLimit : Int := 100

namespace Scheduler

/-- The runs in the window of a length after the reference. The scheduler lists runs after its
start, so it is asked from a second earlier on. -/
def runsWithin (s : Scheduler) (reference : Instant) (length limit : Int) (expression : String) :
    Except ScheduleError (List Instant) := do
  let window ← reckon (Window.ofLength reference length)
  let start ← reckon (reference.plus (-microsPerSecond))
  let times ← s.next expression start limit (some window.stop)
  reckon (window.clip times)

def runsOnDay (s : Scheduler) (reference : Instant) (expression : String) :
    Except ScheduleError (List Instant) :=
  s.runsWithin reference microsPerDay dailyLimit expression

def runsPerDay (s : Scheduler) (reference : Instant) (expression : String) :
    Except ScheduleError Nat :=
  (s.runsOnDay reference expression).map List.length

def runsPerHour (s : Scheduler) (reference : Instant) (expression : String) :
    Except ScheduleError Nat :=
  (s.runsWithin reference microsPerHour hourlyLimit expression).map List.length

def frequency (s : Scheduler) (reference : Instant) (expression : String) :
    Except ScheduleError (Nat × Nat) := do
  return (← s.runsPerDay reference expression, ← s.runsPerHour reference expression)

end Scheduler

end CronLint
