import CronLint.Proofs.Counting
import CronLint.Proofs.OverlapWindows
import CronLint.Proofs.RunCounts
import CronLint.Proofs.RunningTotals

/-!
# The statistics of a day

The jobs that count are the valid ones that the scheduler accepts. Each of them has a record. A run
is one of these jobs at a minute of the day at which its fields match; all figures count runs, or
the jobs or the minutes that have some. No run is counted twice or left out, so the totals agree
with the records and with the hours.
-/
namespace CronLint

open Calendar

/-! ### The runs of a day -/

namespace Window

variable {reference t : Instant} {length : Int}

/-- The time after a reference. -/
def after (reference : Instant) (length : Int) : Window := ⟨reference, reference.shift length⟩

/-- The number of the first whole minute that is not before an instant. -/
def firstMinute (reference : Instant) : Int :=
  (reference.micros + (microsPerMinute - 1)) / microsPerMinute

end Window

def Job.minutesIn (job : Job) (w : Window) : Set Instant := {t | w.HasMinute t ∧ job.RunsAt t}

/-- The runs of jobs in a window, told by the place of the job and the minute. -/
def runsOf (jobs : List Job) (w : Window) : Set (Fin jobs.length × Instant) :=
  {p | p.2 ∈ jobs[p.1].minutesIn w}

/-- What was found for a job are its runs on the day, and how many there are in the day and in its
first hour. -/
structure JobRuns.AreOf (r : JobRuns) (job : Job) (reference : Instant) : Prop where
  frequency : r.frequency = ⟨job.id, job.expression,
    (job.minutesIn (.after reference microsPerDay)).ncard,
    (job.minutesIn (.after reference microsPerHour)).ncard⟩
  nodup : r.runs.Nodup
  mem_iff : ∀ t, t ∈ r.runs ↔ t ∈ job.minutesIn (.after reference microsPerDay)

namespace Scheduler

variable {s : Scheduler} {reference : Instant} {job : Job} {jobs : List Job}

end Scheduler

/-! ### The figures -/

namespace JobRuns.AreOf

variable {r : JobRuns} {job : Job} {reference t : Instant}

end JobRuns.AreOf

namespace Census

variable {jobs : List Job} {g : Job → JobRuns} {reference t : Instant} {n : Nat} {h : Fin 24}

theorem mem_runs_iff (hg : ∀ job ∈ jobs, (g job).AreOf job reference) (i : Fin jobs.length)
    (t : Instant) :
    t ∈ (g jobs[i]).runs ↔ (i, t) ∈ runsOf jobs (.after reference microsPerDay) :=
  (hg _ (List.getElem_mem _)).mem_iff t

end Census

end CronLint
