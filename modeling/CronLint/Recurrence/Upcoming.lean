import CronLint.Recurrence.Basic

/-!
# Upcoming runs

`next?` finds the first run in a stretch of minutes, and `upcoming` the first so many runs. The
search goes through days, and through hours and minutes only on a day with runs.
-/
namespace CronLint.Recurrence

open Calendar

/-- The first minute of the day, at or after `minute`, at which jobs run. -/
def firstTime? (r : Recurrence) (minute : Nat) : Option Nat :=
  let hours := r.sets.hour.values
  let minutes := r.sets.minute.values
  let sameHour :=
    if hours.contains (minute / 60) then
      (minutes.find? fun m => minute % 60 ≤ m).map fun m => minute / 60 * 60 + m
    else none
  match sameHour with
  | some t => some t
  | none => do
    let h ← hours.find? fun h => minute / 60 < h
    let m ← minutes.head?
    return h * 60 + m

def firstDay? (r : Recurrence) : (count day : Nat) → Option Nat
  | 0, _ => none
  | count + 1, day => if r.onDay day then some day else firstDay? r count (day + 1)

def next? (r : Recurrence) (first last : Nat) : Option Nat :=
  let day := first / 1440
  let today := if r.onDay day then r.firstTime? (first % 1440) else none
  let run := match today with
    | some t => some (day * 1440 + t)
    | none => do
      let d ← r.firstDay? (last / 1440 - day) (day + 1)
      return d * 1440 + (← r.firstTime? 0)
  run.filter fun t => t ≤ last

/-- The first `count` runs from minute `first` to minute `last`, after those in `found`, which are
in reverse. -/
def upcomingAfter (r : Recurrence) (last : Nat) :
    (count first : Nat) → (found : List Nat) → List Nat
  | 0, _, found => found.reverse
  | count + 1, first, found =>
    match r.next? first last with
    | none => found.reverse
    | some t => upcomingAfter r last count (t + 1) (t :: found)

def upcoming (r : Recurrence) (first last count : Nat) : List Nat :=
  r.upcomingAfter last count first []

end CronLint.Recurrence
