import CronLint.Analysis.Inspection
import CronLint.Proofs.JobBlocks
import CronLint.Proofs.MemoRuns

/-!
# What goes through a check

A job adds a report of its own to the one that goes through the check. That report depends on the
other jobs only through the clock. So the report on all jobs joins the reports on each, taken when
the clock has been read so often, and the memo leaves no trace in it. If the clock stands still and
the parser's scheduler is asked, these are the reports of a validator, which keeps no report, no
memo and no clock. With any clock and any scheduler, the report still accounts for all jobs.
-/
namespace CronLint

open Calendar

namespace Report

theorem join_extend (a b : Report) (issues : List Issue) :
    a.join (b.extend issues) = (a.join b).extend issues := by
  simp [extend_eq, join, Bool.and_assoc]

theorem join_count (a b : Report) (valid invalid : Int) :
    a.join (b.count valid invalid) = (a.join b).count valid invalid := by
  simp [join, count, Int.add_assoc]

theorem demote_extend (r : Report) (issues : List Issue) :
    (r.extend issues).demote = r.demote.extend issues := by
  simp [extend_eq, demote]

/-- The issues of a schedule, added one check after the other to a report that has counted its job
as valid. -/
theorem join_findings (v : Validator) (r : Report) (s : Schedule) (e command : String) (line : Int)
    (empty : Bool) (frequency : List Issue) :
    r.join ((Validator.countsOf empty).extend
      ((v.findings s e command empty frequency).map (·.atLine line))) =
    let found := (r.count 1 0).extend ((Validator.conflictIssues s e).map (·.atLine line))
    ((if empty then found.demote.add ((Validator.emptyIssue e).atLine line) else found).extend
      (frequency.map (·.atLine line))).extend
        ((if v.checks.hygiene && !command.isEmpty then (Hygiene.issues command).map (·.about e)
          else []).map (·.atLine line)) := by
  have hcounts : r.join (Validator.countsOf empty) =
      if empty then (r.count 1 0).demote else r.count 1 0 := by
    cases empty <;> simp [Validator.countsOf, join, count, demote]
  unfold Validator.findings
  rw [join_extend, hcounts]
  simp only [List.map_append, extend_append]
  cases empty with
  | false => rfl
  | true =>
    simp only [if_true, demote_extend]
    rfl

end Report

namespace Inspector

variable {c : Inspector} {p : Progress} {memo : Memo} {s : Schedule} {e command : String}
  {line : Int} {job : Job} {jobs : List Job}

def readingsOf (c : Inspector) (job : Job) : Nat :=
  if job.valid && (c.parser.parse job.expression).isOk then 1 else 0

/-- The report on a job, taken at a reading of the clock. -/
def jobReport (c : Inspector) (reading : Nat) (job : Job) : Except CalendarError Report :=
  (c.stopped reading).jobReportOf job (c.parser.parse job.expression)

/-- The reports on jobs, taken from a reading of the clock on and joined. -/
def jobReports (c : Inspector) : Nat → List Job → Except CalendarError Report
  | _, [] => .ok {}
  | reading, job :: jobs => do
    return (← c.jobReport reading job).join (← c.jobReports (reading + c.readingsOf job) jobs)

def memoAfterJob (c : Inspector) (memo : Memo) (job : Job) : Memo :=
  if job.valid then (c.parser.parseWith memo job.expression).memo else memo

/-! ### One job -/

/-- The checks of a schedule add the report on it to one that has counted the job as valid. -/
theorem checkSchedule_eq (c : Inspector) (r : Report) (memo : Memo) (reading : Nat) (s : Schedule)
    (e : String) (line : Int) (command : String) :
    c.checkSchedule ⟨r.count 1 0, memo, reading⟩ s e line command =
      ((c.stopped reading).scheduleReport s e line command).map fun own =>
        ⟨r.join own, memo, reading + 1⟩ := by
  rw [Validator.scheduleReport_eq]
  unfold checkSchedule Validator.frequencyFindings
  have hchecks : (c.stopped reading).checks = c.checks := rfl
  simp only [bind, Except.bind, pure, Except.pure, hchecks]
  cases (c.stopped reading).isEmptySchedule e with
  | error err => rfl
  | ok empty =>
    have hadd (frequency : List Issue) :=
      congrArg
        (fun report => (Except.ok ⟨report, memo, reading + 1⟩ : Except CalendarError Progress))
        (Report.join_findings (c.stopped reading) r s e command line empty frequency).symm
    cases c.checks.frequency with
    | false => exact hadd []
    | true =>
      cases (c.stopped reading).frequencyIssues s e with
      | error err => rfl
      | ok frequency => exact hadd frequency

/-- With a sound memo, a job adds its own report and reads the clock if it is parsed. -/
theorem checkJob_eq (h : p.memo.Sound c.parser) (job : Job) :
    c.checkJob p job = (c.jobReport p.readings job).map fun own =>
      ⟨p.report.join own, c.memoAfterJob p.memo job, p.readings + c.readingsOf job⟩ := by
  obtain ⟨hresult, -⟩ := h.parseWith job.expression
  have hissue (valid invalid : Int) (issue : Issue) : (p.report.count valid invalid).add issue =
      p.report.join ((Report.count {} valid invalid).add issue) := by
    change _ = p.report.join ((Report.count {} valid invalid).extend [issue])
    rw [Report.join_extend, Report.join_count, Report.join_empty]
    rfl
  unfold checkJob jobReport Validator.jobReportOf memoAfterJob readingsOf Job.valid
  cases hfault : job.fault with
  | some fault =>
    simp only [Except.map, hissue]
    rfl
  | none =>
    simp only [hresult]
    cases hparse : c.parser.parse job.expression with
    | error err =>
      simp only [Except.map, hissue]
      rfl
    | ok s => exact checkSchedule_eq c p.report _ p.readings s _ _ _

theorem memoAfterJob_sound (h : memo.Sound c.parser) (job : Job) :
    (c.memoAfterJob memo job).Sound c.parser := by
  unfold memoAfterJob
  split_ifs
  · exact (h.parseWith job.expression).2
  · exact h

/-! ### All jobs -/

theorem checkEach_eq (h : p.memo.Sound c.parser) (jobs : List Job) :
    c.checkEach p jobs = (c.jobReports p.readings jobs).map fun own =>
      ⟨p.report.join own, jobs.foldl c.memoAfterJob p.memo,
        p.readings + (jobs.map c.readingsOf).sum⟩ := by
  induction jobs generalizing p with
  | nil => simp [checkEach, jobReports, Except.map, pure, Except.pure]
  | cons job jobs ih =>
    have hstep : c.checkEach p (job :: jobs) =
        (c.checkJob p job).bind fun next => c.checkEach next jobs := rfl
    rw [hstep, checkJob_eq h, jobReports]
    cases c.jobReport p.readings job with
    | error err => rfl
    | ok own =>
      simp only [Except.map, bind, Except.bind, pure, Except.pure]
      rw [ih (memoAfterJob_sound h job)]
      cases c.jobReports (p.readings + c.readingsOf job) jobs with
      | error err => rfl
      | ok rest =>
        simp [Except.map, Report.join_assoc, Nat.add_assoc]

/-- The check of jobs, with any scheduler and any clock: their reports are joined, and the overlaps
are added that are found when the clock is read last. -/
theorem checkJobs_eq (h : memo.Sound c.parser) (reading : Nat) (jobs : List Job) :
    c.checkJobs memo reading jobs =
      let last := reading + (jobs.map c.readingsOf).sum
      (c.jobReports reading jobs).bind fun own =>
        ((c.stopped last).overlapFindings jobs).map fun issues =>
          ⟨own.extend issues, jobs.foldl c.memoAfterJob memo,
            last + if c.checks.overlap then overlapReadings jobs else 0⟩ := by
  have hstart : (⟨{}, memo, reading⟩ : Progress).memo.Sound c.parser := h
  have hchecks (n : Nat) : (c.stopped n).checks = c.checks := rfl
  unfold checkJobs
  rw [checkEach_eq hstart]
  cases c.jobReports reading jobs with
  | error err => rfl
  | ok own =>
    simp only [Except.map, bind, Except.bind, Report.empty_join, Validator.overlapFindings, hchecks]
    cases c.checks.overlap with
    | false => rfl
    | true =>
      simp only [if_true]
      cases (c.stopped (reading + (jobs.map c.readingsOf).sum)).overlapIssues jobs <;> rfl

theorem memoAfterJobs_sound (h : memo.Sound c.parser) (jobs : List Job) :
    (jobs.foldl c.memoAfterJob memo).Sound c.parser := by
  induction jobs generalizing memo with
  | nil => exact h
  | cons job jobs ih => exact ih (memoAfterJob_sound h job)

/-- A check leaves the memo sound for the next one. -/
theorem checkJobs_sound (h : memo.Sound c.parser) {reading : Nat}
    (hp : c.checkJobs memo reading jobs = .ok p) : p.memo.Sound c.parser := by
  rw [checkJobs_eq h] at hp
  obtain ⟨own, -, hp⟩ := bind_eq_ok_iff.mp hp
  obtain ⟨issues, -, rfl⟩ := map_eq_ok_iff.mp hp
  exact memoAfterJobs_sound h jobs

/-! ### Counts -/

/-- The tally of jobs whose schedules are looked at from a reading of the clock on. -/
def tally (c : Inspector) : Nat → List Job → Tally
  | _, [] => ⟨0, 0, 0, 0⟩
  | reading, job :: jobs =>
    ((c.stopped reading).tallyOf job (c.parser.parse job.expression)).add
      (c.tally (reading + c.readingsOf job) jobs)

theorem jobReports_accounts {reading : Nat} {report : Report}
    (h : c.jobReports reading jobs = .ok report) : report.Accounts (c.tally reading jobs) := by
  induction jobs generalizing reading report with
  | nil =>
    cases h
    exact .empty
  | cons job jobs ih =>
    obtain ⟨own, hown, h⟩ := bind_eq_ok_iff.mp h
    obtain ⟨rest, hrest, h⟩ := bind_eq_ok_iff.mp h
    obtain rfl := pure_eq_ok_iff.mp h
    exact (Validator.jobReportOf_accounts hown).join (ih hrest)

/-- Whatever the clock shows meanwhile, and whichever scheduler is asked, the report accounts for
all jobs. -/
theorem checkJobs_accounts (h : memo.Sound c.parser) {reading : Nat}
    (hp : c.checkJobs memo reading jobs = .ok p) : p.report.Accounts (c.tally reading jobs) := by
  rw [checkJobs_eq h] at hp
  obtain ⟨own, hown, hp⟩ := bind_eq_ok_iff.mp hp
  obtain ⟨issues, hissues, rfl⟩ := map_eq_ok_iff.mp hp
  exact (jobReports_accounts hown).extend (Validator.isRemark_of_mem_overlapFindings hissues)

end Inspector

/-! ### A clock that stands still -/

namespace Validator

variable (v : Validator) {memo : Memo}

theorem jobReports_inspector (reading : Nat) (jobs : List Job) :
    v.inspector.jobReports reading jobs = v.jobReports jobs := by
  induction jobs generalizing reading with
  | nil => rfl
  | cons job jobs ih =>
    rw [Inspector.jobReports, jobReports_cons, ih]
    rfl

/-- A validator reports what its inspector does, whatever sound memo the inspector starts with and
however often the clock was read. -/
theorem checkJobs_inspector (h : memo.Sound v.parser) (reading : Nat) (jobs : List Job) :
    (v.inspector.checkJobs memo reading jobs).map Progress.report = v.checkJobs jobs := by
  have hstopped (n : Nat) : v.inspector.stopped n = v := rfl
  have hsound : memo.Sound v.inspector.parser := h
  rw [Inspector.checkJobs_eq hsound, jobReports_inspector, checkJobs_eq]
  simp only [hstopped]
  cases v.jobReports jobs with
  | error err => rfl
  | ok own =>
    simp only [Except.bind, bind]
    cases v.overlapFindings jobs <;> rfl

theorem checkExpression_inspector (h : memo.Sound v.parser) (reading : Nat) (e : String) :
    (v.inspector.checkExpression memo reading e).map Progress.report = v.checkExpression e := by
  have hresult : (v.inspector.parser.parseWith memo e).result = v.parser.parse e :=
    (h.parseWith e).1
  unfold Inspector.checkExpression checkExpression
  simp only [hresult]
  cases v.parser.parse e with
  | error err => rfl
  | ok s =>
    dsimp only
    rw [Inspector.checkSchedule_eq]
    have hstopped : v.inspector.stopped reading = v := rfl
    rw [hstopped]
    cases v.scheduleReport s e 0 "" with
    | error err => rfl
    | ok own => simp [Except.map]

end Validator

end CronLint
