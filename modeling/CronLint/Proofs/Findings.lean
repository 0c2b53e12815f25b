import CronLint.Proofs.Answers

/-!
# What a report says about a schedule

The checks of a schedule go by their codes: each code tells which check found something. A report
always comes about, since neither the search for the first run nor the count of the runs of the
reference day leaves the calendar.
-/
namespace CronLint

open Calendar

def Report.codes (report : Report) : List Code := report.issues.map Issue.code

theorem Report.codes_extend (r : Report) (issues : List Issue) :
    (r.extend issues).codes = r.codes ++ issues.map Issue.code := by
  rw [codes, issues_extend, List.map_append, codes]

/-- A check that reports one issue under a condition has its code under that condition. -/
theorem Issue.codes_ite (p : Prop) [Decidable p] (issue : Issue) :
    (if p then [issue] else []).map code = if p then [issue.code] else [] := by
  split_ifs <;> rfl

namespace Validator

variable {v : Validator} {s : Schedule} {e : String}

/-! ### Codes of the checks -/

/-- The codes of the checks that do not look at the days of a schedule. -/
def otherCodes : List Code :=
  [.redundantPattern, .excessiveRuns, .missingAbsolutePath, .missingRedirection, .percentCharacter,
    .quotingIssue]

theorem codes_ite_subset {p : Prop} [Decidable p] {issue : Issue} (h : issue.code ∈ otherCodes) :
    (if p then [issue] else []).map Issue.code ⊆ otherCodes := by
  rw [Issue.codes_ite]
  split_ifs
  · simpa using h
  · exact List.nil_subset _

theorem exists_frequencyIssues (hv : v.scheduler.FollowsCalendar) (s : Schedule) (e : String) :
    ∃ issues, v.frequencyIssues s e = .ok issues ∧ issues.map Issue.code ⊆ otherCodes := by
  have hstep : (unitStepIssues s e).map Issue.code ⊆ otherCodes :=
    codes_ite_subset (by simp [otherCodes, Issue.about, Issue.ofCode])
  unfold frequencyIssues
  cases hruns : v.scheduler.runsPerDay referenceInstant e with
  | error fault =>
    cases fault with
    | calendar err => exact absurd hruns (hv.runsPerDay_ne_calendar e err)
    | rejected rejection => exact ⟨_, rfl, hstep⟩
  | ok runs =>
    refine ⟨_, rfl, ?_⟩
    rw [List.map_append, List.append_subset]
    exact ⟨hstep, codes_ite_subset (by simp [otherCodes, Issue.about, Issue.ofCode])⟩

theorem codes_hygieneIssues (command : String) :
    (Hygiene.issues command).map Issue.code ⊆ otherCodes := by
  simp only [Hygiene.issues, Hygiene.issueIf, List.map_append, List.append_subset]
  refine ⟨⟨⟨⟨?_, ?_⟩, ?_⟩, ?_⟩, ?_⟩
  all_goals exact codes_ite_subset (by decide)

/-- Neither the counts nor the line of a report change the codes of its issues. -/
theorem codes_counted (empty : Bool) (issues : List Issue) (line : Int) :
    (Report.extend (if empty = true then { totalJobs := 1, invalidJobs := 1 }
      else { totalJobs := 1, validJobs := 1 }) (issues.map (·.atLine line))).codes =
        issues.map Issue.code := by
  rw [Report.codes_extend, List.map_map]
  split_ifs <;> rfl

theorem exists_scheduleReport (hv : v.scheduler.FollowsCalendar) {empty : Bool}
    (hempty : v.isEmptySchedule e = .ok empty) (s : Schedule) (line : Int) (command : String) :
    ∃ report others, v.scheduleReport s e line command = .ok report ∧ others ⊆ otherCodes ∧
      report.codes = (if s.restrictsBothDays = true then [.domDowConflict] else []) ++
        (if empty = true then [.emptySchedule] else []) ++ others := by
  have hconflict : (conflictIssues s e).map Issue.code =
      if s.restrictsBothDays = true then [.domDowConflict] else [] := Issue.codes_ite ..
  have hverdict : (if empty = true then [emptyIssue e] else []).map Issue.code =
      if empty = true then [.emptySchedule] else [] := Issue.codes_ite ..
  have hhygiene : (if v.checks.hygiene && !command.isEmpty then
      (Hygiene.issues command).map (·.about e) else []).map Issue.code ⊆ otherCodes := by
    split_ifs
    · rw [List.map_map]
      exact codes_hygieneIssues command
    · exact List.nil_subset _
  unfold scheduleReport
  rw [hempty]
  cases v.checks.frequency with
  | true =>
    obtain ⟨issues, hissues, hcodes⟩ := exists_frequencyIssues hv s e
    refine ⟨_, _, by simp only [bind, Except.bind, hissues]; rfl,
      List.append_subset.mpr ⟨hcodes, hhygiene⟩, ?_⟩
    rw [codes_counted]
    simp only [List.map_append, hconflict, hverdict, List.append_assoc]
  | false =>
    refine ⟨_, _, rfl, hhygiene, ?_⟩
    rw [codes_counted]
    simp only [List.map_append, hconflict, hverdict, List.append_nil]

/-- Each of these two findings has a code of its own. -/
theorem exists_report_iff (hv : v.scheduler.FollowsCalendar) {empty : Bool}
    (hempty : v.isEmptySchedule e = .ok empty) (s : Schedule) (line : Int) (command : String) :
    ∃ report, v.scheduleReport s e line command = .ok report ∧
      (.domDowConflict ∈ report.codes ↔ s.restrictsBothDays = true) ∧
      (.emptySchedule ∈ report.codes ↔ empty = true) := by
  obtain ⟨report, others, hreport, hothers, hcodes⟩ :=
    exists_scheduleReport hv hempty s line command
  have hconflict : .domDowConflict ∉ others := fun h => absurd (hothers h) (by decide)
  have hverdict : .emptySchedule ∉ others := fun h => absurd (hothers h) (by decide)
  refine ⟨report, hreport, ?_, ?_⟩
  · rw [hcodes]
    cases s.restrictsBothDays <;> cases empty <;> simp [hconflict]
  · rw [hcodes]
    cases s.restrictsBothDays <;> cases empty <;> simp [hverdict]

end Validator

end CronLint
