import CronLint.Proofs.OverlapRanking
import CronLint.Proofs.RunningTotals

/-!
# Skipped jobs and the order of jobs

Three questions about a job are put to the scheduler. If one of them is rejected, the job is skipped
as if it were not there. The figures add up over the other jobs, so it does not matter in which
order they come.
-/
namespace CronLint

open Calendar

namespace Scheduler

variable {s : Scheduler} {reference : Instant} {job : Job} {jobs : List Job} {stats : Statistics}

/-- One of the questions about the runs of an expression is rejected. -/
def Rejects (s : Scheduler) (reference : Instant) (expression : String) : Prop :=
  ∃ r, s.runsPerDay reference expression = .error (.rejected r) ∨
    s.runsPerHour reference expression = .error (.rejected r) ∨
    s.runsOnDay reference expression = .error (.rejected r)

/-- The runs of a job, none if it is skipped or leaves the calendar. -/
def foundRuns? (s : Scheduler) (reference : Instant) (job : Job) : Option JobRuns :=
  (s.jobRuns? reference job).toOption.join

def record? (s : Scheduler) (reference : Instant) (job : Job) : Option JobFrequency :=
  (s.foundRuns? reference job).map JobRuns.frequency

/-! ### Whether there are figures -/

theorem exists_jobRuns?_iff : (∃ o, s.jobRuns? reference job = .ok o) ↔
    (job.valid = true → ∀ err, s.jobRuns reference job ≠ .error (.calendar err)) := by
  unfold jobRuns?
  split_ifs with hvalid
  · cases hruns : s.jobRuns reference job with
    | ok r => simp [hvalid]
    | error fault => cases fault <;> simp [hvalid]
  · simp [hvalid]

theorem jobRuns?_eq_found (h : ∃ o, s.jobRuns? reference job = .ok o) :
    s.jobRuns? reference job = .ok (s.foundRuns? reference job) := by
  obtain ⟨o, ho⟩ := h
  rw [foundRuns?, ho]
  rfl

/-- Once there are statistics, they are told by what is found for the jobs. -/
theorem statistics_eq_ok_iff : s.statistics reference jobs = .ok stats ↔
    (∀ job ∈ jobs, ∃ o, s.jobRuns? reference job = .ok o) ∧
      (Census.ofRuns jobs.length (jobs.filterMap (s.foundRuns? reference))).finish = stats := by
  constructor
  · intro h
    have hall : ∀ job ∈ jobs, ∃ o, s.jobRuns? reference job = .ok o := by
      intro job hjob
      rw [statistics_eq, map_eq_ok_iff] at h
      obtain ⟨found, hfound, -⟩ := h
      exact exists_of_readAll hfound hjob
    rw [statistics_of_found fun job hjob => jobRuns?_eq_found (hall job hjob)] at h
    exact ⟨hall, Except.ok.inj h⟩
  · rintro ⟨hall, rfl⟩
    exact statistics_of_found fun job hjob => jobRuns?_eq_found (hall job hjob)

/-! ### Skipped jobs -/

theorem jobRuns_eq_ok_iff {r : JobRuns} : s.jobRuns reference job = .ok r ↔
    ∃ perDay perHour runs, s.runsPerDay reference job.expression = .ok perDay ∧
      s.runsPerHour reference job.expression = .ok perHour ∧
      s.runsOnDay reference job.expression = .ok runs ∧
      ⟨⟨job.id, job.expression, perDay, perHour⟩, runs⟩ = r := by
  simp only [jobRuns, frequency, bind_eq_ok_iff, pure_eq_ok_iff]
  constructor
  · rintro ⟨_, ⟨perDay, hday, perHour, hhour, rfl⟩, runs, hruns, rfl⟩
    exact ⟨perDay, perHour, runs, hday, hhour, hruns, rfl⟩
  · rintro ⟨perDay, perHour, runs, hday, hhour, hruns, rfl⟩
    exact ⟨_, ⟨perDay, hday, perHour, hhour, rfl⟩, runs, hruns, rfl⟩

theorem foundRuns?_eq_none (h : job.valid = false ∨ s.Rejects reference job.expression) :
    s.foundRuns? reference job = none := by
  unfold foundRuns? jobRuns?
  obtain hinvalid | ⟨r, hrejected⟩ := h
  · rw [if_neg (by simp [hinvalid])]
    rfl
  · split_ifs
    · cases hruns : s.jobRuns reference job with
      | error fault => cases fault <;> rfl
      | ok found =>
        obtain ⟨perDay, perHour, runs, hday, hhour, honDay, -⟩ := jobRuns_eq_ok_iff.mp hruns
        rw [hday, hhour, honDay] at hrejected
        simp at hrejected
    · rfl

theorem filterMap_filter_of_skipped {kept : Job → Bool}
    (h : ∀ job ∈ jobs, kept job = false →
      job.valid = false ∨ s.Rejects reference job.expression) :
    (jobs.filter kept).filterMap (s.foundRuns? reference) =
      jobs.filterMap (s.foundRuns? reference) := by
  rw [List.filterMap_filter]
  apply List.filterMap_congr
  intro job hjob
  cases hkept : kept job with
  | true => rfl
  | false => exact (foundRuns?_eq_none (h job hjob hkept)).symm

theorem frequencies_of_statistics (h : s.statistics reference jobs = .ok stats) :
    stats.frequencies = jobs.filterMap (s.record? reference) := by
  obtain ⟨-, rfl⟩ := statistics_eq_ok_iff.mp h
  change (jobs.filterMap _).map JobRuns.frequency = _
  rw [List.map_filterMap]
  rfl

end Scheduler

/-! ### The order of jobs -/

theorem Census.runsByMinute_perm {minutes minutes' : List Instant} (h : minutes'.Perm minutes) :
    runsByMinute minutes' = runsByMinute minutes := by
  obtain ⟨keys, hkeys, hcounts⟩ := exists_runsByMinute_eq minutes
  obtain ⟨keys', hkeys', hcounts'⟩ := exists_runsByMinute_eq minutes'
  obtain rfl : keys' = keys := hkeys'.eq hkeys fun k => by simp only [h.mem_iff]
  rw [hcounts, hcounts']
  exact List.map_congr_left fun k _ => h.countP_eq _

/-- Only the records are told in the order of the runs. -/
theorem Census.finish_perm {rs rs' : List JobRuns} (h : rs'.Perm rs) (n : Nat) :
    (ofRuns n rs').finish =
      { (ofRuns n rs).finish with frequencies := rs'.map JobRuns.frequency } := by
  have hminutes : runsByMinute (rs'.flatMap JobRuns.minutes) =
      runsByMinute (rs.flatMap JobRuns.minutes) := runsByMinute_perm (h.flatMap_right _)
  have hcount (h' : Fin 24) : (rs'.countP fun r => decide (0 < r.runsIn h')) =
      rs.countP fun r => decide (0 < r.runsIn h') := h.countP_eq _
  have hsum (f : JobRuns → Nat) : (rs'.map f).sum = (rs.map f).sum := (h.map f).sum_eq
  simp only [finish, ofRuns, hminutes, hcount, hsum]

/-- There are statistics unless a valid job leaves the calendar. Jobs that are invalid or rejected
can be left out, which changes the number of jobs and no other figure. In another order of the jobs,
their records come in this order, and all other figures are the same. -/
theorem Scheduler.statistics_skip_and_reorder (s : Scheduler) (reference : Instant)
    (jobs : List Job) :
    ((∃ stats, s.statistics reference jobs = .ok stats) ↔ ∀ job ∈ jobs, job.valid = true →
      ∀ err, s.jobRuns reference job ≠ .error (.calendar err)) ∧
    ∀ stats, s.statistics reference jobs = .ok stats →
      stats.totalJobs = jobs.length ∧
      stats.frequencies = jobs.filterMap (s.record? reference) ∧
      (∀ kept : Job → Bool, (∀ job ∈ jobs, kept job = false →
        job.valid = false ∨ s.Rejects reference job.expression) →
          s.statistics reference (jobs.filter kept) =
            .ok { stats with totalJobs := (jobs.filter kept).length }) ∧
      ∀ jobs', jobs'.Perm jobs → ∃ stats', s.statistics reference jobs' = .ok stats' ∧
        stats' = { stats with frequencies := jobs'.filterMap (s.record? reference) } ∧
        stats'.frequencies.Perm stats.frequencies ∧
        ∀ limit, stats'.busiestHours limit = stats.busiestHours limit := by
  constructor
  · simp only [statistics_eq_ok_iff, exists_and_left, exists_eq', and_true, exists_jobRuns?_iff]
  · intro stats hstats
    have hfrequencies := frequencies_of_statistics hstats
    obtain ⟨hall, rfl⟩ := statistics_eq_ok_iff.mp hstats
    refine ⟨rfl, hfrequencies, ?_, ?_⟩
    · intro kept hkept
      rw [statistics_eq_ok_iff, filterMap_filter_of_skipped hkept]
      exact ⟨fun job hjob => hall job (List.mem_of_mem_filter hjob), rfl⟩
    · intro jobs' hperm
      have hall' : ∀ job ∈ jobs', ∃ o, s.jobRuns? reference job = .ok o :=
        fun job hjob => hall job (hperm.subset hjob)
      have hstats' := statistics_eq_ok_iff.mpr ⟨hall', rfl⟩
      have hother := Census.finish_perm (hperm.filterMap (s.foundRuns? reference)) jobs.length
      rw [hperm.length_eq, hother] at hstats'
      have hfrequencies' := frequencies_of_statistics hstats'
      refine ⟨_, hstats', ?_, ?_, fun _ => rfl⟩
      · rw [← hfrequencies']
      · rw [hfrequencies, hfrequencies']
        exact hperm.filterMap _

/-- Two jobs that run, one that was invalid when it was read, and one that is rejected. -/
def jobsWithSkipped : List Job :=
  [Scheduler.givenJob 1 "a", Scheduler.givenJob 2 "c",
    { line := 3, expression := "x", fault := some "no fields" }, Scheduler.givenJob 4 "b"]

/-- Without the jobs in lines 2 and 3, and with the last job first, there are as many runs. -/
theorem Scheduler.statistics_skip_and_reorder_given : ∃ stats reversed,
    givenRuns.statistics referenceInstant jobsWithSkipped = .ok stats ∧
    givenRuns.statistics referenceInstant [givenJob 1 "a", givenJob 4 "b"] =
      .ok { stats with totalJobs := 2 } ∧
    givenRuns.statistics referenceInstant jobsWithSkipped.reverse = .ok reversed ∧
    reversed.totalRunsPerDay = stats.totalRunsPerDay ∧
    reversed.frequencies.map JobFrequency.jobId = ["line-4", "line-1"] := by
  obtain ⟨hexists, hfigures⟩ :=
    statistics_skip_and_reorder givenRuns referenceInstant jobsWithSkipped
  have hinCalendar : ∀ job ∈ jobsWithSkipped,
      (givenRuns.jobRuns? referenceInstant job).isOk = true := by
    decide
  obtain ⟨stats, hstats⟩ := hexists.mpr fun job hjob =>
    exists_jobRuns?_iff.mp (exists_of_isOk (hinCalendar job hjob))
  obtain ⟨-, -, hskip, hreorder⟩ := hfigures stats hstats
  have hrejected : givenRuns.Rejects referenceInstant "c" :=
    ⟨⟨.grammar, "c", []⟩, Or.inl (by decide)⟩
  have hkept : ∀ job ∈ jobsWithSkipped, (job.line == 1 || job.line == 4) = false →
      job.valid = false ∨ givenRuns.Rejects referenceInstant job.expression := by
    simp [jobsWithSkipped, givenJob, Job.valid, hrejected]
  obtain ⟨reversed, hreversed, hsame, -⟩ := hreorder _ (List.reverse_perm jobsWithSkipped)
  have hids : (jobsWithSkipped.reverse.filterMap (givenRuns.record? referenceInstant)).map
      JobFrequency.jobId = ["line-4", "line-1"] := by
    decide
  refine ⟨stats, reversed, hstats, hskip _ hkept, hreversed, ?_, ?_⟩
  · rw [hsame]
  · rw [hsame]
    exact hids

end CronLint
