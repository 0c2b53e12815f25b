import CronLint.Proofs.Findings
import CronLint.Proofs.JobCounts

/-!
# The blocks of a report

Every job leaves a block of issues in a report, which tells its line and its expression and does not
depend on the other jobs. The blocks stand in the order of the jobs, so the report on two crontabs
one after the other is the report on the first joined with the report on the second. Only the
overlaps are about several jobs; they come after all blocks and tell neither a line nor an
expression.
-/
namespace CronLint

open Calendar

/-! ### Codes and places of findings -/

namespace Issue

variable {i issue : Issue} {p : Prop} [Decidable p] {e : String}

theorem codes_ite_sublist (p : Prop) [Decidable p] (issue : Issue) :
    ((if p then [issue] else []).map code).Sublist [issue.code] := by
  rw [codes_ite]
  split_ifs
  · exact List.Sublist.refl _
  · exact List.nil_sublist _

theorem expression_of_mem_ite (hissue : issue.expression = e)
    (hi : i ∈ if p then [issue] else []) : i.expression = e := by
  rw [List.mem_ite_nil_right, List.mem_singleton] at hi
  rwa [hi.2]

end Issue

namespace Validator

variable {v : Validator} {s : Schedule} {e command : String} {line : Int} {job : Job}
  {jobs : List Job} {report : Report} {i : Issue} {frequency : List Issue}

/-- The codes of the checks of a schedule, in the order in which they are made. Both kinds of quotes
are looked at. -/
def checkOrder : List Code :=
  [.domDowConflict, .emptySchedule, .redundantPattern, .excessiveRuns, .missingAbsolutePath,
    .missingRedirection, .percentCharacter, .quotingIssue, .quotingIssue]

theorem codes_conflictIssues (s : Schedule) (e : String) :
    ((conflictIssues s e).map Issue.code).Sublist [.domDowConflict] :=
  Issue.codes_ite_sublist ..

theorem codes_unitStepIssues (s : Schedule) (e : String) :
    ((unitStepIssues s e).map Issue.code).Sublist [.redundantPattern] :=
  Issue.codes_ite_sublist ..

theorem codes_excessIssues (limit : Int) (runs : Nat) (e : String) :
    ((excessIssues limit runs e).map Issue.code).Sublist [.excessiveRuns] :=
  Issue.codes_ite_sublist ..

/-- The findings about a frequency, if they are asked for: steps of one, and too many runs if the
scheduler tells their number. -/
theorem frequencyFindings_cases (h : v.frequencyFindings s e = .ok frequency) :
    v.checks.frequency = false ∧ frequency = [] ∨
    v.checks.frequency = true ∧
      ((∃ r, v.scheduler.runsPerDay referenceInstant e = .error (.rejected r)) ∧
        frequency = unitStepIssues s e ∨
      ∃ runs, v.scheduler.runsPerDay referenceInstant e = .ok runs ∧
        frequency = unitStepIssues s e ++ excessIssues v.checks.maxRunsPerDay runs e) := by
  unfold frequencyFindings at h
  split_ifs at h with hon
  · refine Or.inr ⟨hon, ?_⟩
    unfold frequencyIssues at h
    cases hruns : v.scheduler.runsPerDay referenceInstant e with
    | error fault =>
      cases fault with
      | rejected r =>
        simp only [hruns, Except.ok.injEq] at h
        exact Or.inl ⟨⟨r, rfl⟩, h.symm⟩
      | calendar err => simp [hruns] at h
    | ok runs =>
      simp only [hruns, Except.ok.injEq] at h
      exact Or.inr ⟨runs, rfl, h.symm⟩
  · exact Or.inl ⟨by simpa using hon, (Except.ok.inj h).symm⟩

theorem codes_frequencyFindings (h : v.frequencyFindings s e = .ok frequency) :
    (frequency.map Issue.code).Sublist [.redundantPattern, .excessiveRuns] := by
  obtain ⟨-, rfl⟩ | ⟨-, ⟨-, rfl⟩ | ⟨runs, -, rfl⟩⟩ := frequencyFindings_cases h
  · exact List.nil_sublist _
  · exact (codes_unitStepIssues s e).trans (List.sublist_append_left _ _)
  · rw [List.map_append]
    exact (codes_unitStepIssues s e).append (codes_excessIssues _ _ e)

theorem codes_hygieneFindings (command : String) :
    ((Hygiene.issues command).map Issue.code).Sublist
      [.missingAbsolutePath, .missingRedirection, .percentCharacter, .quotingIssue,
        .quotingIssue] := by
  have hif (p : Bool) (code : Code) (message : String) :
      ((Hygiene.issueIf p code message).map Issue.code).Sublist [code] :=
    Issue.codes_ite_sublist ..
  simp only [Hygiene.issues, List.map_append]
  exact ((((hif _ _ _).append (hif _ _ _)).append (hif _ _ _)).append (hif _ _ _)).append
    (hif _ _ _)

theorem codes_findings {empty : Bool} (h : v.frequencyFindings s e = .ok frequency) :
    ((v.findings s e command empty frequency).map Issue.code).Sublist checkOrder := by
  have hempty : ((if empty then [emptyIssue e] else []).map Issue.code).Sublist [.emptySchedule] :=
    Issue.codes_ite_sublist ..
  have hhygiene : ((if v.checks.hygiene && !command.isEmpty then
      (Hygiene.issues command).map (·.about e) else []).map Issue.code).Sublist
        [.missingAbsolutePath, .missingRedirection, .percentCharacter, .quotingIssue,
          .quotingIssue] := by
    split_ifs
    · rw [List.map_map]
      exact codes_hygieneFindings command
    · exact List.nil_sublist _
  unfold findings
  rw [List.map_append, List.map_append, List.map_append]
  have hschedule := ((codes_conflictIssues s e).append hempty).append (codes_frequencyFindings h)
  exact hschedule.append hhygiene

theorem expression_of_mem_frequencyFindings (h : v.frequencyFindings s e = .ok frequency)
    (hi : i ∈ frequency) : i.expression = e := by
  have hunit (hi : i ∈ unitStepIssues s e) : i.expression = e :=
    Issue.expression_of_mem_ite (by rfl) hi
  have hexcess {limit : Int} {runs : Nat} (hi : i ∈ excessIssues limit runs e) : i.expression = e :=
    Issue.expression_of_mem_ite (by rfl) hi
  obtain ⟨-, rfl⟩ | ⟨-, ⟨-, rfl⟩ | ⟨runs, -, rfl⟩⟩ := frequencyFindings_cases h
  · cases hi
  · exact hunit hi
  · exact (List.mem_append.mp hi).elim hunit hexcess

theorem expression_of_mem_findings {empty : Bool} (h : v.frequencyFindings s e = .ok frequency)
    (hi : i ∈ v.findings s e command empty frequency) : i.expression = e := by
  unfold findings at hi
  simp only [List.mem_append, List.mem_ite_nil_right, List.mem_singleton] at hi
  rcases hi with ((hi | ⟨-, rfl⟩) | hi) | ⟨-, hi⟩
  · exact Issue.expression_of_mem_ite (by rfl) hi
  · rfl
  · exact expression_of_mem_frequencyFindings h hi
  · obtain ⟨issue, -, rfl⟩ := List.mem_map.mp hi
    rfl

end Validator

/-! ### One job -/

/-- The issues are what the checks of a job may bring about: the complaint that its expression is
invalid, and nothing else, or findings in the order of the checks. They tell where the job
stands. -/
structure Job.IsBlock (job : Job) (issues : List Issue) : Prop where
  codes : issues.map Issue.code = [.parseError] ∨
    (issues.map Issue.code).Sublist Validator.checkOrder
  line : ∀ i ∈ issues, i.line = job.line
  expression : ∀ i ∈ issues, i.expression = job.expression

namespace Validator

variable {v : Validator} {job : Job} {jobs : List Job} {report : Report} {i : Issue}

theorem isBlock_parseIssue (message : String) (job : Job) :
    job.IsBlock [parseIssue message job.expression job.line] := by
  constructor
  · exact Or.inl rfl
  · intro i hi
    rw [List.mem_singleton.mp hi]
    rfl
  · intro i hi
    rw [List.mem_singleton.mp hi]
    rfl

theorem issues_of_scheduleReport {s : Schedule} {e command : String} {line : Int}
    (h : v.scheduleReport s e line command = .ok report) :
    ∃ empty frequency, v.isEmptySchedule e = .ok empty ∧ v.frequencyFindings s e = .ok frequency ∧
      report.issues = (v.findings s e command empty frequency).map (·.atLine line) := by
  obtain ⟨empty, frequency, hempty, hfrequency, rfl⟩ := scheduleReport_eq_ok_iff.mp h
  have hcounts : (countsOf empty).issues = [] := by cases empty <;> rfl
  refine ⟨empty, frequency, hempty, hfrequency, ?_⟩
  rw [Report.issues_extend, hcounts, List.nil_append]

theorem isBlock_of_scheduleReport {s : Schedule}
    (h : v.scheduleReport s job.expression job.line job.command = .ok report) :
    job.IsBlock report.issues := by
  obtain ⟨empty, frequency, -, hfrequency, hissues⟩ := issues_of_scheduleReport h
  rw [hissues]
  constructor
  · rw [List.map_map]
    exact Or.inr (codes_findings hfrequency)
  · intro i hi
    obtain ⟨issue, -, rfl⟩ := List.mem_map.mp hi
    rfl
  · intro i hi
    obtain ⟨issue, hissue, rfl⟩ := List.mem_map.mp hi
    change issue.expression = job.expression
    exact expression_of_mem_findings hfrequency hissue

theorem isBlock_of_jobReport (h : v.jobReport job = .ok report) : job.IsBlock report.issues := by
  unfold jobReport jobReportOf at h
  cases hfault : job.fault with
  | some fault =>
    simp only [hfault, Except.ok.injEq] at h
    rw [← h]
    exact isBlock_parseIssue _ job
  | none =>
    simp only [hfault] at h
    cases hparse : v.parser.parse job.expression with
    | error fault =>
      simp only [hparse, Except.ok.injEq] at h
      rw [← h]
      exact isBlock_parseIssue _ job
    | ok s =>
      simp only [hparse] at h
      exact isBlock_of_scheduleReport h

/-! ### All jobs -/

theorem jobReports_cons (v : Validator) (job : Job) (jobs : List Job) :
    v.jobReports (job :: jobs) = do
      return (← v.jobReport job).join (← v.jobReports jobs) := by
  simp only [jobReports, readAll]
  cases v.jobReport job with
  | error err => rfl
  | ok a =>
    cases readAll v.jobReport jobs with
    | error err => rfl
    | ok rest =>
      simp only [bind, Except.bind, pure, Except.pure, Except.map, List.foldl_cons,
        Report.empty_join]
      rw [foldl_join]

theorem jobReports_singleton (v : Validator) (job : Job) :
    v.jobReports [job] = v.jobReport job := by
  have hnil : v.jobReports [] = .ok {} := rfl
  rw [jobReports_cons, hnil]
  cases v.jobReport job with
  | error err => rfl
  | ok report => simp [bind, Except.bind, pure, Except.pure]

theorem jobReports_append (v : Validator) (xs ys : List Job) :
    v.jobReports (xs ++ ys) = do
      return (← v.jobReports xs).join (← v.jobReports ys) := by
  induction xs with
  | nil =>
    simp only [List.nil_append, jobReports, readAll]
    cases readAll v.jobReport ys with
    | error err => rfl
    | ok reports => simp [bind, Except.bind, pure, Except.pure, Except.map]
  | cons job xs ih =>
    rw [List.cons_append, jobReports_cons, jobReports_cons, ih]
    cases v.jobReport job with
    | error err => rfl
    | ok a =>
      cases v.jobReports xs with
      | error err => rfl
      | ok b =>
        cases v.jobReports ys with
        | error err => rfl
        | ok c => simp only [bind, Except.bind, pure, Except.pure, Report.join_assoc]

theorem checkJobs_eq (v : Validator) (jobs : List Job) : v.checkJobs jobs = do
    return (← v.jobReports jobs).extend (← v.overlapFindings jobs) := by
  unfold checkJobs overlapFindings
  cases v.jobReports jobs with
  | error err => rfl
  | ok report => cases v.checks.overlap <;> rfl

def withChecks (v : Validator) (c : Checks) : Validator := { v with checks := c }

/-- The validator that looks at each job by itself. -/
def withoutOverlaps (v : Validator) : Validator := v.withChecks { v.checks with overlap := false }

theorem checkJobs_withoutOverlaps (v : Validator) (jobs : List Job) :
    v.withoutOverlaps.checkJobs jobs = v.jobReports jobs := by
  have hreports : v.withoutOverlaps.jobReports jobs = v.jobReports jobs := rfl
  have hoverlaps : v.withoutOverlaps.overlapFindings jobs = .ok [] := rfl
  rw [checkJobs_eq, hreports, hoverlaps]
  cases v.jobReports jobs <;> rfl

/-- An overlap tells neither a line nor an expression. -/
theorem overlapFindings_placeless {issues : List Issue} (h : v.overlapFindings jobs = .ok issues) :
    ∀ i ∈ issues, i.code = .overlapDetected ∧ i.line = 0 ∧ i.expression = "" := by
  unfold overlapFindings at h
  split_ifs at h
  · obtain ⟨-, rfl⟩ | ⟨-, overlaps, -, rfl⟩ := overlapIssues_eq_ok_iff.mp h
    · simp
    · intro i hi
      obtain ⟨o, -, rfl⟩ := List.mem_map.mp hi
      exact ⟨rfl, rfl, rfl⟩
  · cases h
    simp

/-- Without overlaps, the report on the entries of two crontabs joins the reports on each of them:
the issues of the first come before those of the second, the counts are added, and both have to be
valid. Overlaps come after all other issues. The entry of a job brings about a block of issues. -/
theorem checkEntries_join (v : Validator) :
    (∀ xs ys, v.withoutOverlaps.checkEntries (xs ++ ys) = do
      return (← v.withoutOverlaps.checkEntries xs).join (← v.withoutOverlaps.checkEntries ys)) ∧
    (∀ entries, v.checkEntries entries = do
      return (← v.withoutOverlaps.checkEntries entries).extend
        (← v.overlapFindings (jobsOf entries))) ∧
    (∀ entries issues, v.overlapFindings (jobsOf entries) = .ok issues →
      ∀ i ∈ issues, i.code = .overlapDetected ∧ i.line = 0 ∧ i.expression = "") ∧
    ∀ entry job report, entry.job? = some job →
      v.withoutOverlaps.checkEntries [entry] = .ok report → job.IsBlock report.issues := by
  refine ⟨?_, ?_, ?_, ?_⟩
  · intro xs ys
    simp only [checkEntries, checkJobs_withoutOverlaps, jobsOf, List.filterMap_append]
    exact jobReports_append v _ _
  · intro entries
    rw [checkEntries, checkEntries, checkJobs_withoutOverlaps, checkJobs_eq]
  · intro entries issues hissues
    exact overlapFindings_placeless hissues
  · intro entry job report hjob hreport
    have hjobs : jobsOf [entry] = [job] := by simp [jobsOf, hjob]
    rw [checkEntries, checkJobs_withoutOverlaps, hjobs, jobReports_singleton] at hreport
    exact isBlock_of_jobReport hreport

/-- The entry of a job on 30 February with a command that names no path and is not redirected. -/
def neverRunsEntry : Entry :=
  ⟨3, "", .job { line := 3, expression := "0 0 30 2 *", command := "run" }⟩

/-- A validator that looks at commands finds three things there. -/
theorem checkEntries_join_neverRuns : ∃ job report, neverRunsEntry.job? = some job ∧
    (replayValidator.withChecks { hygiene := true, overlap := true }).withoutOverlaps.checkEntries
      [neverRunsEntry] = .ok report ∧
    report.codes = [.emptySchedule, .missingAbsolutePath, .missingRedirection] ∧
    job.IsBlock report.issues := by
  have hcodes : ((replayValidator.withChecks
      { hygiene := true, overlap := true }).withoutOverlaps.checkEntries
        [neverRunsEntry]).map Report.codes =
          .ok [.emptySchedule, .missingAbsolutePath, .missingRedirection] := by
    decide
  obtain ⟨report, hreport, hcodes⟩ := map_eq_ok_iff.mp hcodes
  obtain ⟨-, -, -, hblock⟩ :=
    checkEntries_join (replayValidator.withChecks { hygiene := true, overlap := true })
  exact ⟨_, report, rfl, hreport, hcodes, hblock _ _ _ rfl hreport⟩

end Validator

end CronLint
