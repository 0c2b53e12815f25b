import CronLint.Proofs.JobCounts
import CronLint.Proofs.JobLines
import CronLint.Proofs.MemoRuns

/-!
# Jobs that were read

A job that was read with the parser of a validator carries the complaint that this parser makes
about its expression. The validator comes to the same verdict when it parses the expression once
more, so every job counts either as valid or as invalid.
-/
namespace CronLint

open Calendar

/-! ### Reading -/

namespace Parser

variable {p : Parser} {e : String}

theorem faultOf_eq_none_iff : p.faultOf e = none ↔ ∃ s, p.parse e = .ok s := by
  unfold faultOf
  cases p.parse e with
  | ok s => simp
  | error fault => simp

theorem faultOf_of_error {fault : ParseError} (h : p.parse e = .error fault) :
    p.faultOf e = some fault.message := by
  unfold faultOf
  rw [h]

end Parser

theorem Entry.fault_of_ofLine {p : Parser} {text : List Char} {line : Int} {job : Job}
    (h : (Entry.ofLine p text line).job? = some job) : job.fault = p.faultOf job.expression := by
  unfold Entry.ofLine Entry.job? at h
  cases hshape : LineShape.ofLine text with
  | job expression rest =>
    simp only [hshape, Option.some.injEq] at h
    rw [← h]
    exact Job.fault_ofLine ..
  | _ => simp [hshape] at h

theorem mem_jobsOf_iff {entries : List Entry} {job : Job} :
    job ∈ jobsOf entries ↔ ∃ entry ∈ entries, entry.job? = some job := List.mem_filterMap

theorem length_jobsOf (entries : List Entry) :
    (jobsOf entries).length = entries.countP fun entry => entry.job?.isSome :=
  List.length_filterMap_eq_countP

theorem fault_of_mem_entriesFrom {p : Parser} {first : Int} {lines : List (List Char)}
    {entry : Entry} {job : Job} (h : entry ∈ entriesFrom p first lines)
    (hjob : entry.job? = some job) : job.fault = p.faultOf job.expression := by
  induction lines generalizing first with
  | nil => simp [entriesFrom] at h
  | cons text rest ih =>
    rcases List.mem_cons.mp h with rfl | h
    · exact Entry.fault_of_ofLine hjob
    · exact ih h

/-! ### Messages -/

namespace Validator

variable {v : Validator} {job : Job} {jobs : List Job} {report : Report} {i : Issue}

/-- The report on a job speaks of a failure only if the job fails to be parsed once more. -/
theorem initial_of_mem_jobReport (hparsed : v.failsToParse job = false)
    (h : v.jobReport job = .ok report) (hi : i ∈ report.issues) : i.initial? ≠ some 'F' := by
  unfold jobReport jobReportOf at h
  cases hfault : job.fault with
  | some fault =>
    simp only [hfault, Except.ok.injEq] at h
    rw [← h] at hi
    obtain rfl : i = _ := by simpa [Report.add] using hi
    simp [parseIssue, Issue.initial?, Issue.about, Issue.atLine, Issue.ofCode]
  | none =>
    cases hparse : v.parser.parse job.expression with
    | error fault =>
      simp [failsToParse, Job.valid, hfault, hparse, Except.isOk, Except.toBool] at hparsed
    | ok s =>
      simp only [hfault, hparse] at h
      obtain ⟨empty, frequency, -, hfrequency, rfl⟩ := scheduleReport_eq_ok_iff.mp h
      rw [Report.issues_extend] at hi
      have hcounts : (countsOf empty).issues = [] := by cases empty <;> rfl
      rw [hcounts, List.nil_append] at hi
      obtain ⟨finding, hfinding, rfl⟩ := List.mem_map.mp hi
      obtain hremark | ⟨-, rfl⟩ := isRemark_of_mem_findings hfrequency hfinding
      · exact hremark.initial
      · simp [emptyIssue, Issue.initial?, Issue.about, Issue.atLine, Issue.ofCode]

theorem initial_of_mem_jobReports (hparsed : ∀ job ∈ jobs, v.failsToParse job = false)
    (h : v.jobReports jobs = .ok report) : ∀ i ∈ report.issues, i.initial? ≠ some 'F' := by
  induction jobs generalizing report with
  | nil =>
    cases h
    simp
  | cons job jobs ih =>
    obtain ⟨hjob, hjobs⟩ := List.forall_mem_cons.mp hparsed
    obtain ⟨a, b, ha, hb, rfl⟩ := jobReports_cons_eq_ok_iff.mp h
    intro i hi
    rcases List.mem_append.mp hi with hi | hi
    · exact initial_of_mem_jobReport hjob ha hi
    · exact ih hjobs hb i hi

theorem initial_of_mem_checkJobs (hparsed : ∀ job ∈ jobs, v.failsToParse job = false)
    (h : v.checkJobs jobs = .ok report) (hi : i ∈ report.issues) : i.initial? ≠ some 'F' := by
  obtain ⟨counted, issues, hcounted, hissues, rfl⟩ := checkJobs_eq_ok_iff.mp h
  rw [Report.issues_extend] at hi
  rcases List.mem_append.mp hi with hi | hi
  · exact initial_of_mem_jobReports hparsed hcounted i hi
  · exact (isRemark_of_mem_overlapFindings hissues i hi).initial

/-! ### The second parse -/

/-- A job with the complaint of the validator's parser is never accepted and then not parsed. -/
theorem failsToParse_of_fault (h : job.fault = v.parser.faultOf job.expression) :
    v.failsToParse job = false := by
  unfold failsToParse Job.valid
  rw [h]
  unfold Parser.faultOf
  cases v.parser.parse job.expression with
  | ok s => simp [Except.isOk, Except.toBool]
  | error fault => simp

theorem tally_le_jobs (hparsed : ∀ job ∈ jobs, v.failsToParse job = false) :
    (v.tally jobs).refused + (v.tally jobs).unparsed + (v.tally jobs).empty ≤
      (v.tally jobs).jobs := by
  induction jobs with
  | nil => simp [tally]
  | cons job jobs ih =>
    obtain ⟨hjob, hjobs⟩ := List.forall_mem_cons.mp hparsed
    have hrest := ih hjobs
    have hone : (v.tally [job]).refused + (v.tally [job]).unparsed + (v.tally [job]).empty ≤
        (v.tally [job]).jobs := by
      simp only [tally, List.countP_cons, List.countP_nil, hjob, List.length_singleton]
      cases hvalid : job.valid with
      | true => simp; split_ifs <;> omega
      | false => simp [neverRuns, hvalid]
    rw [tally_cons]
    simp only [Tally.add]
    omega

/-- The jobs that the validator's parser reads from lines are valid exactly if it parses their
expressions, with or without a memo, and carry its complaint otherwise. A report on them speaks of
no failure to parse, and it counts every job either as valid or as invalid. -/
theorem reading_agrees (v : Validator) (lines : List (List Char)) :
    (∀ entry ∈ entriesOf v.parser lines, ∀ job, entry.job? = some job →
      (job.valid = true ↔ ∃ s, v.parser.parse job.expression = .ok s) ∧
      (∀ err, v.parser.parse job.expression = .error err → job.fault = some err.message) ∧
      ∀ steps, (v.parser.parseWith (v.parser.memoAfter steps) job.expression).result =
        v.parser.parse job.expression) ∧
    ((∃ report, v.checkEntries (entriesOf v.parser lines) = .ok report) ↔
      v.KeepsToCalendar (jobsOf (entriesOf v.parser lines))) ∧
    ∀ report, v.checkEntries (entriesOf v.parser lines) = .ok report →
      (∀ i ∈ report.issues, ¬ "Failed to parse expression".toList <+: i.message.toList) ∧
      0 ≤ report.validJobs ∧ report.validJobs + report.invalidJobs = report.totalJobs ∧
      report.totalJobs = (entriesOf v.parser lines).countP fun entry => entry.job?.isSome := by
  have hparsed : ∀ job ∈ jobsOf (entriesOf v.parser lines), v.failsToParse job = false := by
    intro job hjob
    obtain ⟨entry, hentry, hjob⟩ := mem_jobsOf_iff.mp hjob
    exact failsToParse_of_fault (fault_of_mem_entriesFrom hentry hjob)
  refine ⟨?_, exists_checkJobs_iff, ?_⟩
  · intro entry hentry job hjob
    have hfault := fault_of_mem_entriesFrom hentry hjob
    refine ⟨?_, ?_, ?_⟩
    · rw [Job.valid, Option.isNone_iff_eq_none, hfault, Parser.faultOf_eq_none_iff]
    · intro err herr
      rw [hfault, Parser.faultOf_of_error herr]
    · intro steps
      exact ((v.parser.memoAfter_holds steps).sound.parseWith job.expression).1
  · intro report hreport
    have haccounts := checkJobs_accounts hreport
    have hunparsed : (v.tally (jobsOf (entriesOf v.parser lines))).unparsed = 0 :=
      List.countP_eq_zero.mpr fun job hjob => by simp [hparsed job hjob]
    have hle := tally_le_jobs hparsed
    have htotal := haccounts.total
    have hinvalid := haccounts.invalid
    have hvalid := haccounts.valid
    refine ⟨?_, by omega, by omega, ?_⟩
    · intro i hi hfailed
      apply initial_of_mem_checkJobs hparsed hreport hi
      obtain ⟨rest, hrest⟩ := hfailed
      simp [Issue.initial?, ← hrest]
    · rw [htotal, ← length_jobsOf]
      rfl

/-- A comment, a job that runs daily and one in a minute that no hour has. -/
def linesOfThreeKinds : List (List Char) :=
  ["# at night".toList, "0 0 * * * run".toList, "61 * * * * run".toList]

theorem reading_agrees_linesOfThreeKinds : ∃ report,
    replayValidator.checkEntries (entriesOf replayValidator.parser linesOfThreeKinds) = .ok report ∧
    report.totalJobs = 2 ∧ report.validJobs + report.invalidJobs = 2 ∧
    ∀ i ∈ report.issues, ¬ "Failed to parse expression".toList <+: i.message.toList := by
  obtain ⟨-, hexists, hreports⟩ := reading_agrees replayValidator linesOfThreeKinds
  obtain ⟨report, hreport⟩ := hexists.mpr (replayValidator_answered.keepsToCalendar _)
  obtain ⟨hmessages, -, hsum, htotal⟩ := hreports report hreport
  have hcount : (entriesOf replayValidator.parser linesOfThreeKinds).countP
      (fun entry => entry.job?.isSome) = 2 := by
    decide
  rw [hcount] at htotal
  exact ⟨report, hreport, htotal, hsum.trans htotal, hmessages⟩

end Validator

end CronLint
