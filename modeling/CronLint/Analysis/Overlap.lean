import CronLint.Analysis.Grouping
import CronLint.Analysis.Window
import CronLint.Calendar.Iso
import CronLint.Crontab.Entry
import CronLint.Json

/-!
# Overlaps

The runs of all jobs in a window, brought together by minute. A minute in which several jobs run is
an overlap. Jobs are told apart by their identifiers, and jobs that the scheduler rejects are left
out.
-/
namespace CronLint

open Calendar

/-- A minute in which the jobs with these identifiers run. -/
structure Overlap where
  time : Instant
  jobIds : List String
  deriving DecidableEq, Repr

def Overlap.count (o : Overlap) : Nat := o.jobIds.length

structure Overlaps where
  all : List Overlap
  worst : List Overlap
  deriving DecidableEq, Repr

namespace Overlaps

def totalWindows (o : Overlaps) : Nat := o.all.length

def worstLimit : Nat := 10

def maxConcurrent (o : Overlaps) : Nat := (o.worst.head?.map Overlap.count).getD 0

end Overlaps

/-- The runs of one job in a window, or none if the scheduler rejects its expression. -/
def Scheduler.runsInWindow (s : Scheduler) (window : Window) (limit : Int) (expression : String) :
    Except CalendarError (List Instant) :=
  match s.next expression window.start limit (some window.stop) with
  | .error (.rejected _) => .ok []
  | .error (.calendar e) => .error e
  | .ok times => window.clip times

/-- The minutes in which the jobs run, in the order of the jobs, each with the job's identifier. -/
def Scheduler.hits (s : Scheduler) (window : Window) (limit : Int) :
    List Job → Except CalendarError (List (Instant × String))
  | [] => .ok []
  | job :: jobs => do
    if job.valid then
      let times ← s.runsInWindow window limit job.expression
      return times.map (fun t => (t.truncateToMinute, job.id)) ++ (← hits s window limit jobs)
    else hits s window limit jobs

/-- The overlap that the hits of one minute make, if they are of several jobs. -/
def overlapOfHits? (hits : List (Instant × String)) : Option Overlap :=
  let ids := (hits.map (·.2)).eraseDups
  match hits with
  | [] => none
  | (time, _) :: _ => if 1 < ids.length then some ⟨time, ids⟩ else none

/-- More jobs come first, and earlier minutes among equals. -/
def worseOrEqual (a b : Overlap) : Bool :=
  b.count < a.count || (a.count == b.count && a.time.micros ≤ b.time.micros)

def overlapsOfHits (hits : List (Instant × String)) : Overlaps :=
  let all := (groupByKey (fun hit : Instant × String => hit.1.micros) hits).filterMap overlapOfHits?
  ⟨all, (all.mergeSort worseOrEqual).take Overlaps.worstLimit⟩

theorem one_lt_count_of_overlapOfHits? {hits : List (Instant × String)} {o : Overlap}
    (h : overlapOfHits? hits = some o) : 1 < o.count := by
  cases hits with
  | nil => cases h
  | cons hit rest =>
    simp only [overlapOfHits?] at h
    split at h
    · cases h
      assumption
    · cases h

theorem one_lt_count_of_mem_overlapsOfHits {hits : List (Instant × String)} {o : Overlap}
    (h : o ∈ (overlapsOfHits hits).all) : 1 < o.count := by
  obtain ⟨group, -, hgroup⟩ := List.mem_filterMap.mp h
  exact one_lt_count_of_overlapOfHits? hgroup

theorem worst_eq_nil_of_maxConcurrent_le {hits : List (Instant × String)}
    (h : (overlapsOfHits hits).maxConcurrent ≤ 1) : (overlapsOfHits hits).worst = [] := by
  cases hworst : (overlapsOfHits hits).worst with
  | nil => rfl
  | cons o rest =>
    have ho : o ∈ (overlapsOfHits hits).worst := by simp [hworst]
    have hall := List.mem_mergeSort.mp (List.mem_of_mem_take ho)
    have hmany := one_lt_count_of_mem_overlapsOfHits hall
    simp only [Overlaps.maxConcurrent, hworst, List.head?_cons, Option.map_some,
      Option.getD_some] at h
    omega

/-- The overlaps in the window of a length that starts with the minute of `now`. Each job is asked
for one run more than the window has whole minutes. The minutes are counted exactly, where a machine
that divides in floating point counts one more if the window is centuries long and ends just before
a whole minute. -/
def Scheduler.overlaps (s : Scheduler) (jobs : List Job) (length : Int) (now : Instant) :
    Except CalendarError Overlaps := do
  let window ← Window.ofLength now.truncateToMinute length
  return overlapsOfHits (← s.hits window (length / microsPerMinute + 1) jobs)

end CronLint
