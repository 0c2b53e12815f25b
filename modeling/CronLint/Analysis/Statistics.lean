import CronLint.Analysis.Frequency
import CronLint.Analysis.Grouping
import CronLint.Crontab.Entry
import CronLint.Json
import CronLint.Number.Rounding

/-!
# Statistics of a crontab

How often the jobs run in the day after a reference instant, which hours are busy, and how many
minutes several jobs share. Jobs marked invalid and jobs that the scheduler rejects count in the
number of jobs only.
-/
namespace CronLint

open Calendar

structure JobFrequency where
  jobId : String
  expression : String
  runsPerDay : Nat
  runsPerHour : Nat
  deriving DecidableEq, Repr

structure HourCount where
  hour : Nat
  runs : Nat
  jobs : Nat
  deriving DecidableEq, Repr

structure JobRuns where
  frequency : JobFrequency
  runs : List Instant
  deriving DecidableEq, Repr

/-- The statistics of a crontab. Runs and jobs are counted for each of the 24 hours. -/
structure Statistics where
  totalJobs : Nat := 0
  totalRunsPerDay : Nat := 0
  totalRunsPerHour : Nat := 0
  frequencies : List JobFrequency := []
  hourHistogram : Vector Nat 24 := .replicate 24 0
  hourJobs : Vector Nat 24 := .replicate 24 0
  maxConcurrent : Nat := 0
  collisionMinutes : Nat := 0
  deriving DecidableEq, Repr

/-! ### Going through the jobs -/

/-- What a scheduler says about a job, unless it rejects it. -/
def Scheduler.jobRuns (s : Scheduler) (reference : Instant) (job : Job) :
    Except ScheduleError JobRuns := do
  let (perDay, perHour) ← s.frequency reference job.expression
  let runs ← s.runsOnDay reference job.expression
  return ⟨⟨job.id, job.expression, perDay, perHour⟩, runs⟩

def Scheduler.jobRuns? (s : Scheduler) (reference : Instant) (job : Job) :
    Except CalendarError (Option JobRuns) :=
  if job.valid then
    match s.jobRuns reference job with
    | .error (.rejected _) => .ok none
    | .error (.calendar e) => .error e
    | .ok r => .ok (some r)
  else .ok none

def countHour (counts : Vector Nat 24) (hour : Fin 24) : Vector Nat 24 :=
  counts.set hour (counts[hour] + 1)

/-- What has been counted of the jobs so far. Which minutes they share is known only at the end, so
the minutes of all runs are kept. -/
structure Census where
  statistics : Statistics := {}
  minutes : List Instant := []
  deriving DecidableEq, Repr

namespace Census

/-- Counts one more job, with its runs if there are any to count. A job counts once in each hour in
which it runs. -/
def next (c : Census) (found : Option JobRuns) : Census :=
  let s := { c.statistics with totalJobs := c.statistics.totalJobs + 1 }
  match found with
  | none => { c with statistics := s }
  | some r =>
    let hours := r.runs.map Instant.hourOfDay
    { statistics :=
        { s with
          totalRunsPerDay := s.totalRunsPerDay + r.frequency.runsPerDay
          totalRunsPerHour := s.totalRunsPerHour + r.frequency.runsPerHour
          frequencies := s.frequencies ++ [r.frequency]
          hourHistogram := hours.foldl countHour s.hourHistogram
          hourJobs := hours.eraseDups.foldl countHour s.hourJobs }
      minutes := c.minutes ++ r.runs.map Instant.truncateToMinute }

/-- For every minute with runs their number, in order of time. -/
def runsByMinute (minutes : List Instant) : List Nat :=
  (groupByKey Instant.micros minutes).map List.length

/-- The statistics with the minutes that have more than one run. -/
def finish (c : Census) : Statistics :=
  { c.statistics with
    maxConcurrent := (runsByMinute c.minutes).foldl max 0
    collisionMinutes := (runsByMinute c.minutes).countP fun n => decide (1 < n) }

end Census

def Scheduler.statistics (s : Scheduler) (reference : Instant) (jobs : List Job) :
    Except CalendarError Statistics :=
  (jobs.foldlM (fun c job => (s.jobRuns? reference job).map c.next) {}).map Census.finish

/-! ### Rankings -/

/-- The first elements of a list, or all but the last ones if the count is negative. -/
def cut (count : Int) (l : List α) : List α :=
  if 0 ≤ count then l.take count.toNat else l.take (l.length - (-count).toNat)

namespace Statistics

def minutesPerDay : Nat := 1440

def collisionFrequency (s : Statistics) : Nat := percentHundredths s.collisionMinutes minutesPerDay

/-- The jobs with the most runs a day; jobs with equally many keep their order. -/
def mostFrequent (s : Statistics) (limit : Int) : List JobFrequency :=
  cut limit (s.frequencies.mergeSort fun a b => decide (b.runsPerDay ≤ a.runsPerDay))

/-- The jobs with the fewest runs a day; jobs with equally many keep their order. -/
def leastFrequent (s : Statistics) (limit : Int) : List JobFrequency :=
  cut limit (s.frequencies.mergeSort fun a b => decide (a.runsPerDay ≤ b.runsPerDay))

/-- Whether an hour is at least as busy as another one, and earlier if they are equally busy. -/
def busierOrEqual (a b : HourCount) : Bool :=
  b.runs < a.runs || (a.runs == b.runs && a.hour ≤ b.hour)

/-- The hours with runs, the busiest first and the earlier of equally busy ones before the later. -/
def busyHours (s : Statistics) : List HourCount :=
  let hours := (List.finRange 24).map fun h => ⟨h, s.hourHistogram[h], s.hourJobs[h]⟩
  (hours.filter fun c => c.runs != 0).mergeSort busierOrEqual

/-- The busiest hours, all of them without a limit. -/
def busiestHours (s : Statistics) : (limit : Option Int := none) → List HourCount
  | none => s.busyHours
  | some limit => cut limit s.busyHours

end Statistics

def JobFrequency.toJson (f : JobFrequency) : JsonValue :=
  .object [("jobId", .text f.jobId), ("expression", .text f.expression),
    ("runsPerDay", .integer f.runsPerDay), ("runsPerHour", .integer f.runsPerHour)]

def HourCount.toJson (c : HourCount) : JsonValue :=
  .object [("hour", .integer c.hour), ("runCount", .integer c.runs), ("jobCount", .integer c.jobs)]

/-- The statistics as a JSON object whose rankings are cut to `top` entries. -/
def Statistics.toJson (s : Statistics) (top : Int) : JsonValue :=
  let counts := fun l : List Nat => JsonValue.list (l.map fun (n : Nat) => .integer n)
  .object [("totalJobs", .integer s.totalJobs), ("totalRunsPerDay", .integer s.totalRunsPerDay),
    ("totalRunsPerHour", .integer s.totalRunsPerHour),
    ("jobFrequencies", .list (s.frequencies.map JobFrequency.toJson)),
    ("mostFrequent", .list ((s.mostFrequent top).map JobFrequency.toJson)),
    ("leastFrequent", .list ((s.leastFrequent top).map JobFrequency.toJson)),
    ("hourHistogram", counts s.hourHistogram.toList),
    ("busiestHours", .list ((s.busiestHours (some top)).map HourCount.toJson)),
    ("maxConcurrent", .integer s.maxConcurrent),
    ("collisionFrequency", .hundredths s.collisionFrequency)]

end CronLint
