import CronLint.Proofs.SingleChecks
import CronLint.Proofs.SmallLetters

/-!
# Case and spacing

The parser sees an expression in upper case, and all later questions are put with the expression as
it was written. Still neither the case of ASCII letters nor the spacing makes a difference to a
check: two expressions that differ in nothing else have the same verdict, the same counts and the
same issues, but for the expression that an issue quotes and for the advice on steps of one.
-/
namespace CronLint

open Calendar

/-! ### Schedulers -/

/-- The kind of a rejection, or what went wrong in reckoning. -/
def ScheduleError.kind : ScheduleError → ErrorKind ⊕ CalendarError
  | .rejected r => .inl r.kind
  | .calendar e => .inr e

/-- Faults of the same kind are two rejections or one fault in reckoning. -/
theorem ScheduleError.cases_of_kind_eq {f f' : ScheduleError} (h : f.kind = f'.kind) :
    (∃ r r', f = .rejected r ∧ f' = .rejected r') ∨ ∃ e, f = .calendar e ∧ f' = .calendar e := by
  cases f with
  | rejected r =>
    cases f' with
    | rejected r' => exact Or.inl ⟨r, r', rfl, rfl⟩
    | calendar e => cases h
  | calendar e =>
    cases f' with
    | rejected r => cases h
    | calendar e' =>
      cases h
      exact Or.inr ⟨e, rfl, rfl⟩

theorem Scheduler.FollowsCalendar.next_respelled {s : Scheduler} (h : s.FollowsCalendar)
    {e e' : String} (hrespelled : Respelled e e') (start : Instant) (count : Int)
    (horizon : Option Instant) : (s.next e start count horizon).mapError ScheduleError.kind =
      (s.next e' start count horizon).mapError ScheduleError.kind := by
  obtain ⟨r, hr, hr'⟩ | ⟨f, f', hf, hf', hkind⟩ :=
    mapError_eq_mapError_iff.mp hrespelled.ofExpression
  · rcases h with rfl | ⟨c, -, rfl⟩
    · simp only [calendarScheduler, hr, hr']
    · simp only [triggerScheduler, hr, hr']
  · rcases h with rfl | ⟨c, -, rfl⟩
    · simp only [calendarScheduler, hf, hf']
      exact congrArg (fun k => Except.error (Sum.inl k)) hkind
    · simp only [triggerScheduler, hf, hf']
      exact congrArg (fun k => Except.error (Sum.inl k)) hkind

/-! ### Reports -/

def Issue.outline (i : Issue) : Issue :=
  { i with expression := "", hint := if i.code = .redundantPattern then "" else i.hint }

def Report.outline (r : Report) : Report := { r with issues := r.issues.map Issue.outline }

theorem Report.outline_extend (r : Report) (issues : List Issue) :
    (r.extend issues).outline = r.outline.extend (issues.map Issue.outline) := by
  rw [extend_eq, extend_eq]
  simp only [outline, List.map_append, List.all_map]
  rfl

namespace Validator

variable {v : Validator} {s s' : Schedule} {e e' : String}

/-- The checks of two expressions come down to questions with the same answers, whatever is said
about a rejection. -/
structure AnswersAlike (v : Validator) (e e' : String) : Prop where
  fields : (v.parser.parse e).map Schedule.fields = (v.parser.parse e').map Schedule.fields
  runs : ∀ start count horizon,
    (v.scheduler.next e start count horizon).mapError ScheduleError.kind =
      (v.scheduler.next e' start count horizon).mapError ScheduleError.kind

theorem findings_outline (v : Validator) (hs : s.fields = s'.fields) (command : String)
    (empty : Bool) {issues issues' : List Issue}
    (hissues : issues.map Issue.outline = issues'.map Issue.outline) :
    (v.findings s e command empty issues).map Issue.outline =
      (v.findings s' e' command empty issues').map Issue.outline := by
  have hconflict : (conflictIssues s e).map Issue.outline =
      (conflictIssues s' e').map Issue.outline := by
    unfold conflictIssues Schedule.restrictsBothDays
    rw [hs]
    split_ifs <;> rfl
  have hempty : (if empty then [emptyIssue e] else []).map Issue.outline =
      (if empty then [emptyIssue e'] else []).map Issue.outline := by
    cases empty <;> rfl
  have hhygiene : (if v.checks.hygiene && !command.isEmpty then
        (Hygiene.issues command).map (·.about e) else []).map Issue.outline =
      (if v.checks.hygiene && !command.isEmpty then
        (Hygiene.issues command).map (·.about e') else []).map Issue.outline := by
    split_ifs
    · rw [List.map_map, List.map_map]
      rfl
    · rfl
  simp only [findings, List.map_append, hconflict, hempty, hissues, hhygiene]

namespace AnswersAlike

variable (h : v.AnswersAlike e e')
include h

theorem isEmptySchedule_eq : v.isEmptySchedule e = v.isEmptySchedule e' := by
  unfold isEmptySchedule
  cases v.now.addYears emptyHorizonYears with
  | error err => rfl
  | ok horizon =>
    simp only [bind, Except.bind]
    obtain ⟨times, hnext, hnext'⟩ | ⟨f, f', hnext, hnext', hkind⟩ :=
      mapError_eq_mapError_iff.mp (h.runs v.now 1 (some horizon))
    · rw [hnext, hnext']
    · rw [hnext, hnext']
      obtain ⟨r, r', rfl, rfl⟩ | ⟨err, rfl, rfl⟩ := ScheduleError.cases_of_kind_eq hkind
      · rfl
      · rfl

theorem runsPerDay_kind (reference : Instant) :
    (v.scheduler.runsPerDay reference e).mapError ScheduleError.kind =
      (v.scheduler.runsPerDay reference e').mapError ScheduleError.kind := by
  simp only [Scheduler.runsPerDay, Scheduler.runsOnDay, Scheduler.runsWithin, mapError_map,
    mapError_bind, h.runs]

theorem frequencyFindings_outline (hs : s.fields = s'.fields) :
    (v.frequencyFindings s e).map (List.map Issue.outline) =
      (v.frequencyFindings s' e').map (List.map Issue.outline) := by
  have hadvice : (unitStepIssues s e).map Issue.outline =
      (unitStepIssues s' e').map Issue.outline := by
    unfold unitStepIssues Schedule.hasUnitStep
    rw [hs]
    split_ifs <;> rfl
  have hexcess (runs : Nat) : (excessIssues v.checks.maxRunsPerDay runs e).map Issue.outline =
      (excessIssues v.checks.maxRunsPerDay runs e').map Issue.outline := by
    unfold excessIssues
    split_ifs <;> rfl
  unfold frequencyFindings frequencyIssues
  split_ifs
  · obtain ⟨runs, hruns, hruns'⟩ | ⟨f, f', hruns, hruns', hkind⟩ :=
      mapError_eq_mapError_iff.mp (h.runsPerDay_kind referenceInstant)
    · rw [hruns, hruns']
      simp only [Except.map, List.map_append, hadvice, hexcess]
    · rw [hruns, hruns']
      obtain ⟨r, r', rfl, rfl⟩ | ⟨err, rfl, rfl⟩ := ScheduleError.cases_of_kind_eq hkind
      · simp only [Except.map, hadvice]
      · rfl
  · rfl

theorem scheduleReport_outline (hs : s.fields = s'.fields) (line : Int) (command : String) :
    (v.scheduleReport s e line command).map Report.outline =
      (v.scheduleReport s' e' line command).map Report.outline := by
  rw [scheduleReport_eq, scheduleReport_eq, h.isEmptySchedule_eq]
  cases v.isEmptySchedule e' with
  | error err => rfl
  | ok empty =>
    simp only [Except.bind]
    obtain ⟨issues, issues', hx, hy, hissues⟩ | ⟨err, hx, hy⟩ :=
      map_eq_map_iff.mp (h.frequencyFindings_outline hs)
    · have hfindings : (v.findings s e command empty issues).map Issue.outline =
          (v.findings s' e' command empty issues').map Issue.outline :=
        findings_outline v hs command empty hissues
      have hplaced (issues : List Issue) : (issues.map (·.atLine line)).map Issue.outline =
          (issues.map Issue.outline).map (·.atLine line) := by
        rw [List.map_map, List.map_map]
        rfl
      rw [hx, hy]
      simp only [Except.map, Report.outline_extend, hplaced, hfindings]
    · rw [hx, hy]
      rfl

theorem checkExpression_outline :
    (v.checkExpression e).map Report.outline = (v.checkExpression e').map Report.outline := by
  unfold checkExpression
  obtain ⟨s, s', hparse, hparse', hs⟩ | ⟨fault, hparse, hparse'⟩ := map_eq_map_iff.mp h.fields
  · rw [hparse, hparse']
    exact h.scheduleReport_outline hs 0 ""
  · rw [hparse, hparse']
    rfl

end AnswersAlike

/-- Two expressions with the same words but for the case of ASCII letters, at least one, and not
written like an alias have the same check in outline: the verdict, the counts and the issues with
their codes, severities and messages. Asked for runs, the scheduler has the same list for both, or
fails with the same kind of error. -/
theorem checkExpression_respelled (v : Validator) (follows : v.scheduler.FollowsCalendar)
    (words : wordsOf e ≠ []) (respelled : Respelled e e') :
    (v.checkExpression e).map Report.outline = (v.checkExpression e').map Report.outline ∧
    ∀ start count horizon, (v.scheduler.next e start count horizon).mapError ScheduleError.kind =
      (v.scheduler.next e' start count horizon).mapError ScheduleError.kind := by
  have halike : v.AnswersAlike e e' :=
    ⟨parse_fields_congr follows.goesByWords respelled.left respelled.right words
      respelled.wordsOf_upperText, follows.next_respelled respelled⟩
  exact ⟨halike.checkExpression_outline, halike.runs⟩

/-- Names in capitals and in small letters, with other blanks between the words. -/
theorem checkExpression_respelled_weekdays :
    Respelled "0/1  5 * Jan-mar mON" "0/1 5 * JAN-MAR\tmon" ∧
    (newYearValidator.checkExpression "0/1  5 * Jan-mar mON").map Report.outline =
      (newYearValidator.checkExpression "0/1 5 * JAN-MAR\tmon").map Report.outline := by
  have respelled : Respelled "0/1  5 * Jan-mar mON" "0/1 5 * JAN-MAR\tmon" :=
    respelled_of_small (by decide) (by decide) (by decide)
  have follows : newYearValidator.scheduler.FollowsCalendar := Or.inl rfl
  exact ⟨respelled, (checkExpression_respelled newYearValidator follows (by decide) respelled).1⟩

/-- The advice on steps of one shows the words as they were written. -/
example : withoutUnitSteps "*/1 0 1  Jan *" = "* 0 1 Jan *" ∧
    withoutUnitSteps "*/1 0 1 JAN *" = "* 0 1 JAN *" := by
  decide

end Validator

end CronLint
