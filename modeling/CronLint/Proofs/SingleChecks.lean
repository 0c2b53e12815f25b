import CronLint.Proofs.EmptySchedules
import CronLint.Proofs.JobLines
import CronLint.Proofs.ReportParts

/-!
# An expression by itself and in a line

The check of an expression and the check of a line that consists of it and a command come to the
same report, but for the place of its issues. The line is read with single spaces between the words,
so this needs a scheduler that goes by the words of an expression, unless it is spaced like that
already.
-/
namespace CronLint

open Calendar Text

/-- The words of an expression with one space between them. -/
def respaced (e : String) : String := String.ofList (joinWith [' '] (words e.toList))

/-- The scheduler takes two expressions with the same words for the same, unless one is an alias. -/
def Scheduler.GoesByWords (s : Scheduler) : Prop :=
  ∀ e e' : String, e.toList.head? ≠ some '@' → e'.toList.head? ≠ some '@' → wordsOf e = wordsOf e' →
    s.validate e = s.validate e' ∧ s.next e = s.next e'

theorem splitExpression_congr {e e' : String} (he : e.toList.head? ≠ some '@')
    (he' : e'.toList.head? ≠ some '@') (hwords : wordsOf e = wordsOf e') :
    splitExpression e = splitExpression e' := by
  rw [splitExpression, splitExpression, if_neg he, if_neg he', hwords]

/-- The calendar goes by words, and so do triggers. -/
theorem Scheduler.FollowsCalendar.goesByWords {s : Scheduler} (h : s.FollowsCalendar) :
    s.GoesByWords := by
  intro e e' he he' hwords
  have hr : Recurrence.ofExpression e = Recurrence.ofExpression e' := by
    rw [Recurrence.ofExpression, splitExpression_congr he he' hwords, Recurrence.ofExpression]
  refine ⟨?_, h.next_congr hr⟩
  rw [h.validate_eq, h.validate_eq]
  simp only [calendarScheduler, hr]

/-! ### Places of issues -/

namespace Report

def placed (line : Int) (expression : String) (r : Report) : Report :=
  { r with issues := r.issues.map fun i => (i.about expression).atLine line }

theorem placed_extend (line : Int) (expression : String) (r : Report) (issues : List Issue) :
    (r.extend issues).placed line expression =
      (r.placed line expression).extend
        (issues.map fun i => (i.about expression).atLine line) := by
  rw [extend_eq, extend_eq]
  simp only [placed, List.map_append, List.all_map]
  rfl

end Report

namespace Validator

variable {v : Validator} {s s' : Schedule} {e e' : String} {job : Job}

/-- The checks of two expressions come down to the same questions. -/
structure TakesAlike (v : Validator) (e e' : String) : Prop where
  fields : (v.parser.parse e).map Schedule.fields = (v.parser.parse e').map Schedule.fields
  runs : v.scheduler.next e = v.scheduler.next e'
  advice : withoutUnitSteps e = withoutUnitSteps e'

theorem TakesAlike.refl (v : Validator) (e : String) : v.TakesAlike e e := ⟨rfl, rfl, rfl⟩

theorem conflictIssues_about (hs : s.fields = s'.fields) :
    conflictIssues s' e' = (conflictIssues s e).map (·.about e') := by
  unfold conflictIssues Schedule.restrictsBothDays
  rw [hs]
  split_ifs <;> rfl

theorem TakesAlike.unitStepIssues_about (h : v.TakesAlike e e') (hs : s.fields = s'.fields) :
    unitStepIssues s' e' = (unitStepIssues s e).map (·.about e') := by
  unfold unitStepIssues Schedule.hasUnitStep
  rw [hs, h.advice]
  split_ifs <;> rfl

theorem TakesAlike.isEmptySchedule_eq (h : v.TakesAlike e e') :
    v.isEmptySchedule e' = v.isEmptySchedule e := by
  unfold isEmptySchedule
  rw [h.runs]

theorem TakesAlike.frequencyFindings_about (h : v.TakesAlike e e') (hs : s.fields = s'.fields) :
    v.frequencyFindings s' e' = (v.frequencyFindings s e).map (List.map (·.about e')) := by
  have hruns : v.scheduler.runsPerDay referenceInstant e' =
      v.scheduler.runsPerDay referenceInstant e := by
    unfold Scheduler.runsPerDay Scheduler.runsOnDay Scheduler.runsWithin
    rw [h.runs]
  have hexcess (runs : Nat) : excessIssues v.checks.maxRunsPerDay runs e' =
      (excessIssues v.checks.maxRunsPerDay runs e).map (·.about e') := by
    unfold excessIssues
    split_ifs <;> rfl
  unfold frequencyFindings frequencyIssues
  rw [hruns, h.unitStepIssues_about hs]
  split_ifs
  · cases v.scheduler.runsPerDay referenceInstant e with
    | ok runs => simp [Except.map, hexcess]
    | error fault => cases fault <;> rfl
  · rfl

/-- Without a look at the command, the report differs only in the place of its issues. -/
theorem TakesAlike.scheduleReport_placed (h : v.TakesAlike e e') (hs : s.fields = s'.fields)
    (hhygiene : v.checks.hygiene = false) (line line' : Int) (command command' : String) :
    v.scheduleReport s' e' line' command' =
      (v.scheduleReport s e line command).map (Report.placed line' e') := by
  have hcounts (empty : Bool) : (countsOf empty).placed line' e' = countsOf empty := by
    cases empty <;> rfl
  rw [scheduleReport_eq, scheduleReport_eq, h.isEmptySchedule_eq, h.frequencyFindings_about hs]
  cases v.isEmptySchedule e with
  | error err => rfl
  | ok empty =>
    cases v.frequencyFindings s e with
    | error err => rfl
    | ok frequency =>
      have hconflict : conflictIssues s' e' = (conflictIssues s e).map (·.about e') :=
        conflictIssues_about hs
      have hempty : (if empty then [emptyIssue e'] else []) =
          (if empty then [emptyIssue e] else []).map (·.about e') := by
        cases empty <;> rfl
      simp only [Except.bind, Except.map, Report.placed_extend, hcounts, findings, hhygiene,
        hconflict, hempty, Bool.false_and, Bool.false_eq_true, if_false,
        List.append_nil, List.map_append, List.map_map]
      rfl

theorem TakesAlike.jobReport_eq (h : v.TakesAlike e job.expression)
    (hfault : job.fault = v.parser.faultOf job.expression) (hhygiene : v.checks.hygiene = false) :
    v.jobReport job = (v.checkExpression e).map (Report.placed job.line job.expression) := by
  have hfields := h.fields
  unfold jobReport jobReportOf checkExpression
  rw [hfault]
  unfold Parser.faultOf
  cases hparse : v.parser.parse e with
  | error err =>
    cases hparse' : v.parser.parse job.expression with
    | error err' =>
      rw [hparse, hparse'] at hfields
      cases hfields
      rfl
    | ok s' => simp [hparse, hparse', Except.map] at hfields
  | ok s =>
    cases hparse' : v.parser.parse job.expression with
    | error err' => simp [hparse, hparse', Except.map] at hfields
    | ok s' =>
      have hs : s.fields = s'.fields := by simpa [hparse, hparse', Except.map] using hfields
      exact h.scheduleReport_placed hs hhygiene 0 job.line "" job.command

/-- There is nothing that a lone job could overlap with. -/
theorem checkJobs_singleton (v : Validator) (job : Job) : v.checkJobs [job] = v.jobReport job := by
  have hoverlap : v.overlapIssues [job] = .ok [] := by
    have hfew : ([job].filter Job.valid).length < 2 := by
      have := List.length_filter_le Job.valid [job]
      simp only [List.length_singleton] at this
      omega
    unfold overlapIssues
    simp only [hfew, if_true]
    rfl
  unfold checkJobs jobReports readAll
  rw [hoverlap]
  cases v.jobReport job with
  | error err => rfl
  | ok report =>
    simp [readAll, bind, Except.bind, pure, Except.pure, Except.map, Report.extend_nil]

/-! ### Spacing -/

theorem wordsOf_respaced (h : words e.toList ≠ []) : wordsOf (respaced e) = wordsOf e := by
  rw [wordsOf, respaced, String.toList_ofList, words_joinWith h fun w hw => mem_words hw, wordsOf]

/-- Five words of which the first does not start like an alias are an alias in no spacing. -/
theorem head?_ne_at {w : List Char} {ws : List (List Char)} (hwords : words e.toList = w :: ws)
    (hw : w.head? ≠ some '@') : e.toList.head? ≠ some '@' := by
  cases hcs : e.toList with
  | nil => simp
  | cons d cs =>
    by_cases hd : isBlank d = true
    · rintro ⟨⟩
      revert hd
      decide
    · rw [Bool.not_eq_true] at hd
      rw [hcs, words_of_head hd, List.cons.injEq] at hwords
      rw [← hwords.1] at hw
      simpa [hd] using hw

/-- The parser takes two expressions with the same words in upper case for the same. -/
theorem parse_fields_congr {p : Parser} (hscheduler : p.scheduler.GoesByWords)
    (he : e.toList.head? ≠ some '@') (he' : e'.toList.head? ≠ some '@') (hne : wordsOf e ≠ [])
    (hupper : wordsOf (upperText e) = wordsOf (upperText e')) :
    (p.parse e).map Schedule.fields = (p.parse e').map Schedule.fields := by
  have hne' : wordsOf e' ≠ [] := by
    intro hnil
    rw [wordsOf_upperText, wordsOf_upperText, hnil, List.map_nil, List.map_eq_nil_iff] at hupper
    exact hne hupper
  have hempty {e : String} (hne : wordsOf e ≠ []) : e ≠ "" := by
    rintro rfl
    exact hne rfl
  have hvalidate : p.scheduler.validate (upperText e) = p.scheduler.validate (upperText e') :=
    (hscheduler _ _ (head?_upperText_ne_at he) (head?_upperText_ne_at he') hupper).1
  unfold Parser.parse
  rw [Request.ofExpression_eq (hempty hne) he, Request.ofExpression_eq (hempty hne') he', hupper]
  cases Fields.ofList? (wordsOf (upperText e')) with
  | none => rfl
  | some raw =>
    simp only [Except.bind, Parser.answer, hvalidate]
    cases p.scheduler.validate (upperText e') with
    | error r => rfl
    | ok _ =>
      cases p.readFields raw with
      | error fault => rfl
      | ok fields => rfl

theorem takesAlike_of_words (hscheduler : v.scheduler.GoesByWords)
    (he : e.toList.head? ≠ some '@') (he' : e'.toList.head? ≠ some '@')
    (hwords : wordsOf e = wordsOf e') (hfive : (wordsOf e).length = 5) : v.TakesAlike e e' where
  fields := by
    refine parse_fields_congr hscheduler he he' ?_ ?_
    · intro hnil
      simp [hnil] at hfive
    · rw [wordsOf_upperText, wordsOf_upperText, hwords]
  runs := (hscheduler e e' he he' hwords).2
  advice := by
    have hchars : words e.toList = words e'.toList :=
      List.map_injective_iff.mpr (fun _ _ h => String.ofList_injective h) hwords
    rw [wordsOf, List.length_map, hchars] at hfive
    rw [withoutUnitSteps, withoutUnitSteps, hchars, if_pos hfive, if_pos hfive]

theorem takesAlike_respaced (he : LineShape.OpensJob e.toList)
    (hspacing : respaced e = e ∨ v.scheduler.GoesByWords) : v.TakesAlike e (respaced e) := by
  rcases hspacing with hsame | hscheduler
  · rw [hsame]
    exact .refl v e
  · obtain ⟨a, ha, heq⟩ | ⟨w, ws, hfive, hlength, -, halias, -⟩ := he
    · have haliases : ∀ a ∈ aliases, respaced a.1 = a.1 := by decide
      obtain rfl : e = a.1 := String.toList_inj.mp heq
      rw [haliases a ha]
      exact .refl v a.1
    · have hne : words e.toList ≠ [] := by simp [hfive]
      have hwords : words (respaced e).toList = w :: ws := by
        rw [respaced, String.toList_ofList, words_joinWith hne fun w hw => mem_words hw, hfive]
      refine takesAlike_of_words hscheduler (head?_ne_at hfive halias) (head?_ne_at hwords halias)
        (wordsOf_respaced hne).symm ?_
      rw [wordsOf, List.length_map, hfive, List.length_cons, hlength]

/-- Without hygiene checks, a line that consists of an alias or five words and a command has the
same report as the expression by itself: the verdict, the counts and the issues are the same, but
for the line and the spacing of the expression. The scheduler has to go by words if the spacing
changes. -/
theorem checkEntries_ofLine (v : Validator) {e : String} {c : List Char} (n : Int)
    (hhygiene : v.checks.hygiene = false) (he : LineShape.OpensJob e.toList)
    (hc : ∃ d ∈ c, isBlank d = false)
    (hspacing : respaced e = e ∨ v.scheduler.GoesByWords ∨ v.scheduler.FollowsCalendar) :
    v.checkEntries [Entry.ofLine v.parser (e.toList ++ ' ' :: c) n] =
      (v.checkExpression e).map (Report.placed n (respaced e)) := by
  have hcommand : words c ≠ [] := by
    obtain ⟨d, hd, hblank⟩ := hc
    obtain hd | ⟨w, hw, -⟩ := isBlank_or_mem_words hd
    · simp [hd] at hblank
    · exact List.ne_nil_of_mem hw
  have halike : v.TakesAlike e (respaced e) :=
    takesAlike_respaced he (hspacing.imp_right fun h => h.elim id (·.goesByWords))
  obtain ⟨job, hjobs, hline, hexpression, hfault⟩ :=
    exists_jobsOf_ofLine v.parser n he hcommand
  have hexpression : job.expression = respaced e := hexpression
  rw [← hexpression] at halike ⊢
  rw [checkEntries, hjobs, checkJobs_singleton, ← hline]
  exact halike.jobReport_eq hfault hhygiene

/-- A validator with overlap checks at the start of 2025. -/
def newYearValidator : Validator where
  parser := {}
  checks := { overlap := true }
  now := .utc (Instant.wallAt ⟨2025, 1, 1⟩ 0)

/-- A schedule for 30 February, written with two spaces, in line 7. -/
theorem checkEntries_ofLine_twoSpaces :
    newYearValidator.checkEntries [Entry.ofLine newYearValidator.parser
      ("0  0 30 2 *".toList ++ ' ' :: "run # never".toList) 7] =
        (newYearValidator.checkExpression "0  0 30 2 *").map (Report.placed 7 "0 0 30 2 *") := by
  have hspaced : respaced "0  0 30 2 *" = "0 0 30 2 *" := by decide
  have hopens : LineShape.OpensJob "0  0 30 2 *".toList := by
    refine Or.inr ⟨['0'], [['0'], ['3', '0'], ['2'], ['*']], ?_, rfl, ?_, ?_, ?_⟩
    all_goals decide
  have hcommand : ∃ d ∈ "run # never".toList, isBlank d = false := ⟨'r', by decide, by decide⟩
  have h :=
    checkEntries_ofLine newYearValidator 7 rfl hopens hcommand (Or.inr (Or.inr (Or.inl rfl)))
  rwa [hspaced] at h

/-- A validator whose scheduler refuses an expression with single spaces and knows a run of the same
one with two. -/
def spacingValidator : Validator where
  parser := { scheduler := .replay [("0 0 * * *", ⟨.grammar, "no", []⟩)]
                [("0  0 * * *", [.utc (Instant.wallAt ⟨2025, 1, 2⟩ 0)])] }
  checks := {}
  now := .utc (Instant.wallAt ⟨2025, 1, 1⟩ 0)

/-- The expression by itself is valid, and in a line it is not. -/
theorem replay_tells_spacings_apart :
    LineShape.OpensJob "0  0 * * *".toList ∧
    (spacingValidator.checkExpression "0  0 * * *").map Report.valid = .ok true ∧
    (spacingValidator.checkEntries [Entry.ofLine spacingValidator.parser
      ("0  0 * * *".toList ++ ' ' :: "run".toList) 1]).map Report.valid = .ok false := by
  refine ⟨Or.inr ⟨['0'], [['0'], ['*'], ['*'], ['*']], ?_⟩, ?_, ?_⟩
  · decide
  · decide
  · decide

end Validator

end CronLint
