import Mathlib.Data.List.ReduceOption
import CronLint.Analysis.Statistics
import CronLint.Proofs.Counting
import CronLint.Proofs.Outcomes

/-!
# Running totals

The statistics of a crontab are kept up while its jobs are gone through. What has been counted after
some jobs depends on the number of these jobs and on the runs found for them only: every figure is a
sum over the runs, or a count. A job without runs to count adds to the number of jobs and to nothing
else.
-/
namespace CronLint

open Calendar

/-! ### A loop that may fail -/

/-- Looking something up for each element and going on from there is to look everything up and then
to go through what was found. -/
theorem foldlM_map_eq {α β γ ε : Type} (f : α → Except ε β) (g : γ → β → γ) (l : List α) (c : γ) :
    l.foldlM (fun c a => (f a).map (g c)) c = (readAll f l).map fun found => found.foldl g c := by
  induction l generalizing c with
  | nil => rfl
  | cons a rest ih =>
    rw [List.foldlM_cons, readAll]
    cases f a with
    | error err => rfl
    | ok b =>
      change rest.foldlM (fun c a => (f a).map (g c)) (g c b) = _
      rw [ih]
      cases readAll f rest <;> rfl

/-! ### Counts for the hours -/

theorem getElem_countHour (counts : Vector Nat 24) (hour : Fin 24) {i : Nat} (hi : i < 24) :
    (countHour counts hour)[i] = counts[i] + if hour = ⟨i, hi⟩ then 1 else 0 := by
  unfold countHour
  rw [Vector.getElem_set]
  by_cases heq : hour = ⟨i, hi⟩
  · subst heq
    simp
  · have hne : hour.val ≠ i := fun hval => heq (Fin.ext hval)
    rw [if_neg hne, if_neg heq, Nat.add_zero]

theorem getElem_foldl_countHour (hours : List (Fin 24)) (counts : Vector Nat 24) {i : Nat}
    (hi : i < 24) : (hours.foldl countHour counts)[i] = counts[i] + hours.count ⟨i, hi⟩ := by
  induction hours generalizing counts with
  | nil => simp
  | cons hour rest ih =>
    rw [List.foldl_cons, ih, getElem_countHour, List.count_cons, Nat.add_right_comm, Nat.add_assoc]
    simp

namespace JobRuns

def runsIn (r : JobRuns) (h : Fin 24) : Nat := r.runs.countP fun t => decide (t.hourOfDay = h)

theorem count_hours (r : JobRuns) (h : Fin 24) :
    (r.runs.map Instant.hourOfDay).count h = r.runsIn h := by
  rw [List.count, List.countP_map]
  rfl

def minutes (r : JobRuns) : List Instant := r.runs.map Instant.truncateToMinute

end JobRuns

namespace Census

/-- What has been counted of so many jobs after these runs were found for some of them. -/
def ofRuns (jobs : Nat) (rs : List JobRuns) : Census where
  statistics :=
    { totalJobs := jobs
      totalRunsPerDay := (rs.map fun r => r.frequency.runsPerDay).sum
      totalRunsPerHour := (rs.map fun r => r.frequency.runsPerHour).sum
      frequencies := rs.map JobRuns.frequency
      hourHistogram := .ofFn fun h => (rs.map fun r => r.runsIn h).sum
      hourJobs := .ofFn fun h => rs.countP fun r => decide (0 < r.runsIn h) }
  minutes := rs.flatMap JobRuns.minutes

theorem ofRuns_nil : ofRuns 0 [] = {} := rfl

theorem next_none (jobs : Nat) (rs : List JobRuns) :
    (ofRuns jobs rs).next none = ofRuns (jobs + 1) rs := rfl

/-- Each run counts for its hour, and the job for each hour that has one of its runs. -/
theorem next_some (jobs : Nat) (rs : List JobRuns) (r : JobRuns) :
    (ofRuns jobs rs).next (some r) = ofRuns (jobs + 1) (rs ++ [r]) := by
  have hruns : (r.runs.map Instant.hourOfDay).foldl countHour
      (ofRuns jobs rs).statistics.hourHistogram =
        (ofRuns (jobs + 1) (rs ++ [r])).statistics.hourHistogram := by
    apply Vector.ext
    intro i hi
    rw [getElem_foldl_countHour, JobRuns.count_hours]
    simp [ofRuns]
  have hjobs : (r.runs.map Instant.hourOfDay).eraseDups.foldl countHour
      (ofRuns jobs rs).statistics.hourJobs =
        (ofRuns (jobs + 1) (rs ++ [r])).statistics.hourJobs := by
    apply Vector.ext
    intro i hi
    rw [getElem_foldl_countHour, count_eraseDups, JobRuns.count_hours]
    simp [ofRuns]
  unfold next
  dsimp only
  rw [hruns, hjobs]
  simp [ofRuns, JobRuns.minutes]

theorem foldl_next (found : List (Option JobRuns)) (jobs : Nat) (rs : List JobRuns) :
    found.foldl next (ofRuns jobs rs) =
      ofRuns (jobs + found.length) (rs ++ found.reduceOption) := by
  induction found generalizing jobs rs with
  | nil => simp
  | cons o rest ih =>
    cases o with
    | none => rw [List.foldl_cons, next_none, ih, List.reduceOption_cons_of_none,
        List.length_cons, Nat.add_right_comm, Nat.add_assoc]
    | some r => rw [List.foldl_cons, next_some, ih, List.reduceOption_cons_of_some,
        List.length_cons, List.append_assoc, List.singleton_append, Nat.add_right_comm,
        Nat.add_assoc]

end Census

/-- How many runs lie in one minute is told by where in time the minutes lie. -/
theorem Census.exists_runsByMinute_eq (minutes : List Instant) :
    ∃ keys, IsKeys Instant.micros minutes keys ∧ Census.runsByMinute minutes =
      keys.map fun k => minutes.countP fun t => decide (t.micros = k) := by
  obtain ⟨keys, hkeys, hgroups⟩ := exists_groupByKey_eq Instant.micros minutes
  refine ⟨keys, hkeys, ?_⟩
  rw [runsByMinute, hgroups, List.map_map]
  exact List.map_congr_left fun k _ => List.countP_eq_length_filter.symm

/-! ### The figures -/

theorem Scheduler.statistics_eq (s : Scheduler) (reference : Instant) (jobs : List Job) :
    s.statistics reference jobs = (readAll (s.jobRuns? reference) jobs).map fun found =>
      (Census.ofRuns found.length found.reduceOption).finish := by
  unfold statistics
  rw [foldlM_map_eq, ← Census.ofRuns_nil]
  cases readAll (s.jobRuns? reference) jobs with
  | error err => rfl
  | ok found => simp only [Except.map, Census.foldl_next, Nat.zero_add, List.nil_append]

theorem readAll_of_forall {α β ε : Type} {f : α → Except ε β} {g : α → β} {l : List α}
    (h : ∀ a ∈ l, f a = .ok (g a)) : readAll f l = .ok (l.map g) := by
  rw [readAll_eq_ok_iff, List.forall₂_map_right_iff, List.forall₂_same]
  exact h

theorem reduceOption_map_eq {α β : Type} (f : α → Option β) (l : List α) :
    (l.map f).reduceOption = l.filterMap f := by
  rw [List.reduceOption, List.filterMap_map]
  rfl

/-- The figures are told by what is found for each job. -/
theorem Scheduler.statistics_of_found {s : Scheduler} {reference : Instant} {jobs : List Job}
    {found : Job → Option JobRuns} (h : ∀ job ∈ jobs, s.jobRuns? reference job = .ok (found job)) :
    s.statistics reference jobs =
      .ok (Census.ofRuns jobs.length (jobs.filterMap found)).finish := by
  rw [statistics_eq, readAll_of_forall h]
  simp only [Except.map, List.length_map, reduceOption_map_eq]

end CronLint
