import CronLint.Proofs.ReportParts

/-!
# The counts of a report

A job that was refused when it was read, one that cannot be parsed and one whose schedule is empty
bring one error each, and no other check brings any. So a report has as many errors as invalid jobs,
and it is valid if it has none. A job that was accepted when it was read but cannot be parsed is
taken off the valid ones without ever having been among them.
-/
namespace CronLint

open Calendar

/-! ### Errors in a report -/

namespace Issue

theorem countP_isError_eq_zero {issues : List Issue} (h : ∀ i ∈ issues, i.IsRemark) :
    issues.countP isError = 0 := by
  rw [List.countP_eq_zero]
  intro i hi
  simp [(h i hi).notError]

end Issue

namespace Report

def errorCount (r : Report) : Nat := r.issues.countP Issue.isError

theorem errorCount_join (a b : Report) : (a.join b).errorCount = a.errorCount + b.errorCount := by
  simp [errorCount, join]

theorem errorCount_extend (r : Report) (issues : List Issue) :
    (r.extend issues).errorCount = r.errorCount + issues.countP Issue.isError := by
  simp [errorCount, issues_extend]

theorem valid_extend_iff (r : Report) (issues : List Issue) :
    (r.extend issues).valid = true ↔ r.valid = true ∧ issues.countP Issue.isError = 0 := by
  simp [extend_eq]

end Report

/-! ### Tallies -/

/-- How many jobs there are, and how many of them were refused when they were read, cannot be
parsed, or have an empty schedule. -/
structure Tally where
  jobs : Nat
  refused : Nat
  unparsed : Nat
  empty : Nat
  deriving DecidableEq, Repr

def Tally.add (s t : Tally) : Tally :=
  ⟨s.jobs + t.jobs, s.refused + t.refused, s.unparsed + t.unparsed, s.empty + t.empty⟩

/-- The counts of a report, its errors and its verdict are those of a tally. -/
structure Report.Accounts (r : Report) (t : Tally) : Prop where
  total : r.totalJobs = t.jobs
  invalid : r.invalidJobs = t.refused + t.unparsed + t.empty
  errors : r.invalidJobs = r.errorCount
  valid : r.validJobs = r.totalJobs - r.invalidJobs - t.unparsed
  verdict : r.valid = true ↔ r.invalidJobs = 0

namespace Report.Accounts

variable {a b r : Report} {s t : Tally} {issues : List Issue}

theorem empty : Accounts {} ⟨0, 0, 0, 0⟩ := by constructor <;> simp [errorCount]

theorem join (ha : a.Accounts s) (hb : b.Accounts t) : (a.join b).Accounts (s.add t) := by
  have hinvalid := ha.invalid
  have hinvalid' := hb.invalid
  constructor
  · simp [Report.join, Tally.add, ha.total, hb.total]
  · simp only [Report.join, Tally.add]
    omega
  · rw [errorCount_join, Report.join, ha.errors, hb.errors]
    simp
  · simp only [Report.join, Tally.add, ha.valid, hb.valid]
    omega
  · simp only [Report.join, Bool.and_eq_true, ha.verdict, hb.verdict]
    omega

theorem extend (h : r.Accounts t) (hissues : ∀ i ∈ issues, i.IsRemark) :
    (r.extend issues).Accounts t := by
  have hcount := Issue.countP_isError_eq_zero hissues
  have herrors := errorCount_extend r issues
  have hvalid := valid_extend_iff r issues
  rw [extend_eq] at herrors hvalid ⊢
  constructor
  · exact h.total
  · exact h.invalid
  · rw [herrors, hcount]
    exact h.errors
  · exact h.valid
  · rw [hvalid, and_iff_left hcount]
    exact h.verdict

/-- Jobs that are counted, with as many errors as invalid jobs among their issues. -/
theorem of_counts (issues : List Issue)
    (hcount : issues.countP Issue.isError = t.refused + t.unparsed + t.empty) :
    (Report.extend { totalJobs := t.jobs
                     validJobs := t.jobs - (t.refused + t.unparsed + t.empty) - t.unparsed
                     invalidJobs := t.refused + t.unparsed + t.empty } issues).Accounts t := by
  rw [extend_eq]
  constructor
  · rfl
  · rfl
  · simp [errorCount, hcount]
  · rfl
  · have hvalid := valid_extend_iff {} issues
    rw [extend_eq, hcount] at hvalid
    simp only [true_and] at hvalid
    rw [hvalid]
    dsimp only
    omega

end Report.Accounts

namespace Validator

variable {v : Validator} {s : Schedule} {e command : String} {line : Int} {job : Job}
  {jobs : List Job} {report : Report}

/-- Whether a job was accepted when it was read but cannot be parsed. -/
def failsToParse (v : Validator) (job : Job) : Bool :=
  job.valid && !(v.parser.parse job.expression).isOk

def neverRuns (v : Validator) (job : Job) : Bool :=
  job.valid && (v.parser.parse job.expression).isOk &&
    ((v.isEmptySchedule job.expression).toOption.getD false)

def tally (v : Validator) (jobs : List Job) : Tally :=
  ⟨jobs.length, jobs.countP fun job => !job.valid, jobs.countP v.failsToParse,
    jobs.countP v.neverRuns⟩

theorem tally_cons (v : Validator) (job : Job) (jobs : List Job) :
    v.tally (job :: jobs) = (v.tally [job]).add (v.tally jobs) := by
  have hcons (p : Job → Bool) : (job :: jobs).countP p = [job].countP p + jobs.countP p := by
    rw [← List.countP_append, List.singleton_append]
  simp only [tally, Tally.add, hcons, List.length_cons, List.length_nil]
  rw [Tally.mk.injEq]
  omega

/-- The tally of one job, by the outcome of parsing its expression. -/
def tallyOf (v : Validator) (job : Job) (parsed : Except ParseError Schedule) : Tally where
  jobs := 1
  refused := (!job.valid).toNat
  unparsed := (job.valid && !parsed.isOk).toNat
  empty := (job.valid && parsed.isOk &&
    ((v.isEmptySchedule job.expression).toOption.getD false)).toNat

theorem tally_singleton (v : Validator) (job : Job) :
    v.tally [job] = v.tallyOf job (v.parser.parse job.expression) := by
  have hcount (p : Job → Bool) : [job].countP p = (p job).toNat := by
    cases h : p job <;> simp [h]
  simp only [tally, tallyOf, hcount, List.length_singleton, failsToParse, neverRuns]

/-! ### One job -/

/-- An empty schedule is an error, and no other finding is one. -/
theorem countP_isError_findings {empty : Bool} {frequency : List Issue}
    (h : v.frequencyFindings s e = .ok frequency) :
    (v.findings s e command empty frequency).countP Issue.isError = if empty then 1 else 0 := by
  have hconflict : (conflictIssues s e).countP Issue.isError = 0 :=
    Issue.countP_isError_eq_zero fun i => isRemark_of_mem_conflictIssues
  have hfrequency : frequency.countP Issue.isError = 0 :=
    Issue.countP_isError_eq_zero (isRemark_of_mem_frequencyFindings h)
  have hhygiene : ((Hygiene.issues command).map (·.about e)).countP Issue.isError = 0 := by
    apply Issue.countP_isError_eq_zero
    intro i hi
    obtain ⟨issue, hissue, rfl⟩ := List.mem_map.mp hi
    exact (isRemark_of_mem_hygieneIssues hissue).about e
  unfold findings
  rw [List.countP_append, List.countP_append, List.countP_append, hconflict, hfrequency]
  have hempty : (if empty then [emptyIssue e] else []).countP Issue.isError =
      if empty then 1 else 0 := by
    cases empty <;> rfl
  rw [hempty]
  split_ifs <;> simp [hhygiene]

/-- The report on a parsed expression has one error if the schedule is empty, and none otherwise. -/
theorem exists_of_scheduleReport (h : v.scheduleReport s e line command = .ok report) :
    ∃ empty, v.isEmptySchedule e = .ok empty ∧
      report.Accounts ⟨1, 0, 0, if empty then 1 else 0⟩ := by
  obtain ⟨empty, frequency, hempty, hfrequency, rfl⟩ := scheduleReport_eq_ok_iff.mp h
  have hcount : ((v.findings s e command empty frequency).map (·.atLine line)).countP
      Issue.isError = if empty then 1 else 0 := by
    rw [List.countP_map, ← countP_isError_findings hfrequency]
    rfl
  refine ⟨empty, hempty, ?_⟩
  cases empty with
  | true => exact .of_counts (t := ⟨1, 0, 0, 1⟩) _ hcount
  | false => exact .of_counts (t := ⟨1, 0, 0, 0⟩) _ hcount

/-- Each job brings an error unless its schedule is found to have runs. -/
theorem jobReportOf_accounts {parsed : Except ParseError Schedule}
    (h : v.jobReportOf job parsed = .ok report) : report.Accounts (v.tallyOf job parsed) := by
  unfold jobReportOf at h
  cases hfault : job.fault with
  | some fault =>
    have htally : v.tallyOf job parsed = ⟨1, 1, 0, 0⟩ := by simp [tallyOf, Job.valid, hfault]
    simp only [hfault, Except.ok.injEq] at h
    rw [htally, ← h]
    exact .of_counts (t := ⟨1, 1, 0, 0⟩) [_] rfl
  | none =>
    simp only [hfault] at h
    cases parsed with
    | error fault =>
      have htally : v.tallyOf job (.error fault) = ⟨1, 0, 1, 0⟩ := by
        simp [tallyOf, Job.valid, hfault, Except.isOk, Except.toBool]
      simp only [Except.ok.injEq] at h
      rw [htally, ← h]
      exact .of_counts (t := ⟨1, 0, 1, 0⟩) [_] rfl
    | ok s =>
      obtain ⟨empty, hempty, haccounts⟩ := exists_of_scheduleReport h
      have htally : v.tallyOf job (.ok s) = ⟨1, 0, 0, if empty then 1 else 0⟩ := by
        cases empty <;>
          simp [tallyOf, Job.valid, hfault, hempty, Except.isOk, Except.toBool, Except.toOption]
      rw [htally]
      exact haccounts

theorem jobReport_accounts (h : v.jobReport job = .ok report) :
    report.Accounts (v.tally [job]) := by
  rw [tally_singleton]
  exact jobReportOf_accounts h

/-! ### All jobs -/

theorem jobReports_accounts (h : v.jobReports jobs = .ok report) :
    report.Accounts (v.tally jobs) := by
  induction jobs generalizing report with
  | nil =>
    cases h
    exact .empty
  | cons job jobs ih =>
    obtain ⟨a, b, ha, hb, rfl⟩ := jobReports_cons_eq_ok_iff.mp h
    rw [tally_cons]
    exact (jobReport_accounts ha).join (ih hb)

theorem checkJobs_accounts (h : v.checkJobs jobs = .ok report) :
    report.Accounts (v.tally jobs) := by
  obtain ⟨counted, issues, hcounted, hissues, rfl⟩ := checkJobs_eq_ok_iff.mp h
  exact (jobReports_accounts hcounted).extend (isRemark_of_mem_overlapFindings hissues)

/-- There is a report on the jobs of a crontab exactly if no check leaves the calendar, and so
whenever the scheduler answers what it is asked. The report counts every job; invalid are those that
were refused when they were read, those that cannot be parsed and those with an empty schedule, as
many as there are errors. The valid ones are the others, less those that cannot be parsed once
more. -/
theorem checkEntries_accounts (v : Validator) (entries : List Entry) :
    ((∃ report, v.checkEntries entries = .ok report) ↔ v.KeepsToCalendar (jobsOf entries)) ∧
    (v.Answered → ∃ report, v.checkEntries entries = .ok report) ∧
    ∀ report, v.checkEntries entries = .ok report → report.Accounts (v.tally (jobsOf entries)) :=
  ⟨exists_checkJobs_iff, fun h => exists_checkJobs_iff.mpr (h.keepsToCalendar _),
    fun _ h => checkJobs_accounts h⟩

/-- One job of each kind: refused when it was read, not to be parsed, without runs, and sound. -/
def jobOfEachKind : List Job :=
  [{ line := 1, expression := "0 0 * *", fault := some "expected 5 fields, got 4" },
    { line := 2, expression := "61 * * * *" },
    { line := 3, expression := "0 0 30 2 *" },
    { line := 4, expression := "0 0 * * *" }]

/-- A validator with overlap checks at the start of 2025. Its scheduler refuses a minute 61 and
knows one run. -/
def replayValidator : Validator where
  parser := { scheduler := .replay [("61 * * * *", ⟨.outOfRange, "61", []⟩)]
                [("0 0 * * *", [.utc (Instant.wallAt ⟨2025, 1, 2⟩ 0)])] }
  checks := { overlap := true }
  now := .utc (Instant.wallAt ⟨2025, 1, 1⟩ 0)

theorem replayValidator_answered : replayValidator.Answered := by
  have hanswers (start horizon : Instant) : replayValidator.scheduler.AnswersFrom start horizon :=
    Scheduler.replay_answersFrom (by decide) start horizon
  have hlater : replayValidator.now.addYears emptyHorizonYears =
      .ok (.utc (Instant.wallAt ⟨2027, 1, 1⟩ 0)) := by
    decide
  have hwindow : Window.ofLength replayValidator.now.truncateToMinute
      replayValidator.checks.overlapWindow =
        .ok ⟨replayValidator.now, .utc (Instant.wallAt ⟨2025, 1, 2⟩ 0)⟩ := by
    decide
  exact ⟨rfl, ⟨_, hlater, hanswers _ _⟩, fun _ _ _ _ _ => hanswers _ _,
    fun _ => ⟨_, hwindow, hanswers _ _⟩⟩

theorem checkEntries_accounts_jobOfEachKind : ∃ report,
    replayValidator.checkEntries (jobOfEachKind.map fun job => ⟨job.line, "", .job job⟩) =
      .ok report ∧
    report.totalJobs = 4 ∧ report.invalidJobs = 3 ∧ report.errorCount = 3 ∧ report.validJobs = 0 ∧
    report.valid = false := by
  have htally : replayValidator.tally jobOfEachKind = ⟨4, 1, 1, 1⟩ := by decide
  obtain ⟨-, hexists, haccounts⟩ := checkEntries_accounts replayValidator
    (jobOfEachKind.map fun job => ⟨job.line, "", .job job⟩)
  obtain ⟨report, hreport⟩ := hexists replayValidator_answered
  have h := haccounts report hreport
  have hjobs : jobsOf (jobOfEachKind.map fun job => ⟨job.line, "", .job job⟩) = jobOfEachKind := rfl
  rw [hjobs, htally] at h
  have hinvalid : report.invalidJobs = 3 := h.invalid
  refine ⟨report, hreport, h.total, hinvalid, ?_, ?_, ?_⟩
  · have := h.errors
    omega
  · have htotal := h.total
    have hvalid := h.valid
    simp only at htotal hvalid
    omega
  · rw [Bool.eq_false_iff, ne_eq, h.verdict]
    omega

end Validator

end CronLint
