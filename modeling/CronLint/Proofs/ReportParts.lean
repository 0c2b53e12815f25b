import CronLint.Analysis.Validator
import CronLint.Proofs.Answers

/-!
# The parts of a report

The report on a schedule consists of what its checks find, which are remarks but for an empty
schedule. The report on several jobs joins theirs and adds the overlaps. There is a report unless
one of these parts leaves the calendar, and none does if the scheduler answers whenever it is asked.
-/
namespace CronLint

open Calendar

/-! ### Remarks -/

namespace Issue

variable {i : Issue}

def initial? (i : Issue) : Option Char := i.message.toList.head?

/-- The issue is no error and does not speak of a failure. -/
structure IsRemark (i : Issue) : Prop where
  notError : i.isError = false
  initial : i.initial? ≠ some 'F'

theorem isRemark_ofCode {code : Code} {message : String} (hcode : code.severity ≠ .error)
    (hmessage : message.toList.head? ≠ some 'F') : (ofCode code message).IsRemark :=
  ⟨by simpa [isError, ofCode] using hcode, hmessage⟩

theorem IsRemark.about (h : i.IsRemark) (expression : String) : (i.about expression).IsRemark :=
  ⟨h.notError, h.initial⟩

theorem isRemark_of_mem_ite {p : Prop} [Decidable p] {issue : Issue} (h : issue.IsRemark)
    (hi : i ∈ if p then [issue] else []) : i.IsRemark := by
  rw [List.mem_ite_nil_right, List.mem_singleton] at hi
  rwa [hi.2]

end Issue

/-- New issues leave the counts alone, and one error among them makes the report invalid. -/
theorem Report.extend_eq (r : Report) (issues : List Issue) : r.extend issues =
    { r with
      issues := r.issues ++ issues
      valid := r.valid && issues.all fun i => !i.isError } := by
  induction issues generalizing r with
  | nil => simp
  | cons i rest ih =>
    change (r.add i).extend rest = _
    rw [ih]
    simp [Report.add, Bool.and_assoc]

theorem Calendar.Instant.offset_of_addYears {t later : Instant} {years : Int}
    (h : t.addYears years = .ok later) : later.offset = t.offset := by
  unfold Instant.addYears at h
  dsimp only at h
  split_ifs at h <;> cases h <;> rfl

namespace Validator

variable {v : Validator} {s : Schedule} {e command : String} {line : Int} {job : Job}
  {jobs : List Job} {report : Report} {i : Issue}

/-! ### One job -/

def countsOf (empty : Bool) : Report :=
  if empty then { totalJobs := 1, invalidJobs := 1 } else { totalJobs := 1, validJobs := 1 }

/-- All that the checks of a schedule find, in order. -/
def findings (v : Validator) (s : Schedule) (e command : String) (empty : Bool)
    (frequency : List Issue) : List Issue :=
  conflictIssues s e ++ (if empty then [emptyIssue e] else []) ++ frequency ++
    if v.checks.hygiene && !command.isEmpty then (Hygiene.issues command).map (·.about e) else []

def frequencyFindings (v : Validator) (s : Schedule) (e : String) :
    Except CalendarError (List Issue) :=
  if v.checks.frequency then v.frequencyIssues s e else .ok []

theorem scheduleReport_eq (v : Validator) (s : Schedule) (e : String) (line : Int)
    (command : String) : v.scheduleReport s e line command =
      (v.isEmptySchedule e).bind fun empty => (v.frequencyFindings s e).map fun frequency =>
        (countsOf empty).extend ((v.findings s e command empty frequency).map (·.atLine line)) := by
  unfold scheduleReport frequencyFindings
  cases v.checks.frequency with
  | true => rfl
  | false => rfl

theorem scheduleReport_eq_ok_iff : v.scheduleReport s e line command = .ok report ↔
    ∃ empty frequency, v.isEmptySchedule e = .ok empty ∧ v.frequencyFindings s e = .ok frequency ∧
      (countsOf empty).extend ((v.findings s e command empty frequency).map (·.atLine line)) =
        report := by
  have hbind (x : Except CalendarError Bool) (f : Bool → Except CalendarError Report) :
      x.bind f = .ok report ↔ ∃ a, x = .ok a ∧ f a = .ok report := bind_eq_ok_iff
  rw [scheduleReport_eq, hbind]
  simp only [map_eq_ok_iff, exists_and_left]

theorem isRemark_of_mem_conflictIssues (h : i ∈ conflictIssues s e) : i.IsRemark :=
  Issue.isRemark_of_mem_ite ((Issue.isRemark_ofCode (by decide) (by simp)).about e) h

theorem isRemark_of_mem_unitStepIssues (h : i ∈ unitStepIssues s e) : i.IsRemark := by
  unfold unitStepIssues at h
  refine Issue.isRemark_of_mem_ite ?_ h
  exact ⟨rfl, by simp [Issue.initial?, Issue.about, Issue.ofCode]⟩

theorem isRemark_of_mem_excessIssues {limit : Int} {runs : Nat}
    (h : i ∈ excessIssues limit runs e) : i.IsRemark :=
  Issue.isRemark_of_mem_ite ((Issue.isRemark_ofCode (by decide) (by simp)).about e) h

theorem isRemark_of_mem_frequencyFindings {issues : List Issue}
    (h : v.frequencyFindings s e = .ok issues) : ∀ i ∈ issues, i.IsRemark := by
  unfold frequencyFindings frequencyIssues at h
  split_ifs at h
  · split at h
    · cases h
    · cases h
      intro i hi
      exact isRemark_of_mem_unitStepIssues hi
    · cases h
      intro i hi
      exact (List.mem_append.mp hi).elim isRemark_of_mem_unitStepIssues isRemark_of_mem_excessIssues
  · cases h
    simp

theorem isRemark_of_mem_hygieneIssues (h : i ∈ Hygiene.issues command) : i.IsRemark := by
  have hif {p : Bool} {code : Code} {message : String} (hcode : code.severity ≠ .error)
      (hmessage : message.toList.head? ≠ some 'F') (h : i ∈ Hygiene.issueIf p code message) :
      i.IsRemark :=
    Issue.isRemark_of_mem_ite (Issue.isRemark_ofCode hcode hmessage) h
  simp only [Hygiene.issues, List.mem_append] at h
  rcases h with (((h | h) | h) | h) | h
  all_goals exact hif (by decide) (by simp) h

theorem isRemark_of_mem_findings {empty : Bool} {frequency : List Issue}
    (h : v.frequencyFindings s e = .ok frequency)
    (hi : i ∈ v.findings s e command empty frequency) :
    i.IsRemark ∨ empty = true ∧ i = emptyIssue e := by
  unfold findings at hi
  simp only [List.mem_append, List.mem_ite_nil_right, List.mem_singleton] at hi
  rcases hi with ((hi | hi) | hi) | ⟨-, hi⟩
  · exact Or.inl (isRemark_of_mem_conflictIssues hi)
  · exact Or.inr hi
  · exact Or.inl (isRemark_of_mem_frequencyFindings h i hi)
  · obtain ⟨issue, hissue, rfl⟩ := List.mem_map.mp hi
    exact Or.inl ((isRemark_of_mem_hygieneIssues hissue).about e)

/-! ### All jobs -/

theorem foldl_join (r : Report) (reports : List Report) :
    reports.foldl Report.join r = r.join (reports.foldl Report.join {}) := by
  induction reports generalizing r with
  | nil => simp
  | cons a rest ih => rw [List.foldl_cons, List.foldl_cons, ih, ih (Report.join {} a),
      Report.empty_join, Report.join_assoc]

theorem jobReports_cons_eq_ok_iff : v.jobReports (job :: jobs) = .ok report ↔
    ∃ a b, v.jobReport job = .ok a ∧ v.jobReports jobs = .ok b ∧ a.join b = report := by
  simp only [jobReports, readAll, map_eq_ok_iff, bind_eq_ok_iff, pure_eq_ok_iff]
  constructor
  · rintro ⟨_, ⟨a, ha, rest, hrest, rfl⟩, rfl⟩
    refine ⟨a, _, ha, ⟨rest, hrest, rfl⟩, ?_⟩
    rw [List.foldl_cons, Report.empty_join, ← foldl_join]
  · rintro ⟨a, _, ha, ⟨rest, hrest, rfl⟩, rfl⟩
    refine ⟨_, ⟨a, ha, rest, hrest, rfl⟩, ?_⟩
    rw [List.foldl_cons, Report.empty_join, ← foldl_join]

def overlapFindings (v : Validator) (jobs : List Job) : Except CalendarError (List Issue) :=
  if v.checks.overlap then v.overlapIssues jobs else .ok []

theorem checkJobs_eq_ok_iff : v.checkJobs jobs = .ok report ↔
    ∃ counted issues, v.jobReports jobs = .ok counted ∧ v.overlapFindings jobs = .ok issues ∧
      counted.extend issues = report := by
  unfold checkJobs overlapFindings
  cases v.checks.overlap with
  | true => simp only [if_true, bind_eq_ok_iff, pure_eq_ok_iff, exists_and_left]
  | false =>
    simp only [Bool.false_eq_true, if_false, bind_eq_ok_iff, pure_eq_ok_iff, exists_and_left,
      Except.ok.injEq, exists_eq_left', Report.extend_nil]

theorem worst_eq_nil_of_overlapsOf {overlaps : Overlaps} (h : v.overlapsOf jobs = .ok overlaps)
    (hfew : overlaps.maxConcurrent ≤ 1) : overlaps.worst = [] := by
  unfold overlapsOf Scheduler.overlaps at h
  simp only [bind_eq_ok_iff, pure_eq_ok_iff] at h
  obtain ⟨_, -, hits, -, rfl⟩ := h
  exact worst_eq_nil_of_maxConcurrent_le hfew

/-- Without two jobs that run at once there is no overlap, so looking for it adds no issue. -/
theorem overlapIssues_eq_ok_iff {issues : List Issue} : v.overlapIssues jobs = .ok issues ↔
    (jobs.filter Job.valid).length < 2 ∧ [] = issues ∨
    2 ≤ (jobs.filter Job.valid).length ∧ ∃ overlaps,
      v.overlapsOf (jobs.filter Job.valid) = .ok overlaps ∧
      (overlaps.worst.take overlapIssueLimit).map overlapIssue = issues := by
  have hworst (overlaps : Overlaps) (h : v.overlapsOf (jobs.filter Job.valid) = .ok overlaps) :
      (if overlaps.maxConcurrent ≤ 1 then pure []
        else pure ((overlaps.worst.take overlapIssueLimit).map overlapIssue) :
          Except CalendarError (List Issue)) = .ok issues ↔
        (overlaps.worst.take overlapIssueLimit).map overlapIssue = issues := by
    split_ifs with hfew
    · rw [pure_eq_ok_iff, worst_eq_nil_of_overlapsOf h hfew, List.take_nil, List.map_nil]
    · rw [pure_eq_ok_iff]
  unfold overlapIssues
  dsimp only
  split_ifs with hfew
  · rw [pure_eq_ok_iff]
    exact ⟨fun h => Or.inl ⟨hfew, h⟩, fun h => h.elim And.right fun h => absurd h.1 (by omega)⟩
  · rw [bind_eq_ok_iff]
    constructor
    · rintro ⟨overlaps, hoverlaps, hissues⟩
      exact Or.inr ⟨by omega, overlaps, hoverlaps, (hworst overlaps hoverlaps).mp hissues⟩
    · rintro (⟨hless, -⟩ | ⟨-, overlaps, hoverlaps, hissues⟩)
      · exact absurd hless hfew
      · exact ⟨overlaps, hoverlaps, (hworst overlaps hoverlaps).mpr hissues⟩

theorem isRemark_of_mem_overlapFindings {issues : List Issue}
    (h : v.overlapFindings jobs = .ok issues) : ∀ i ∈ issues, i.IsRemark := by
  unfold overlapFindings at h
  split_ifs at h
  · obtain ⟨-, rfl⟩ | ⟨-, overlaps, -, rfl⟩ := overlapIssues_eq_ok_iff.mp h
    · simp
    · intro i hi
      obtain ⟨o, -, rfl⟩ := List.mem_map.mp hi
      exact Issue.isRemark_ofCode (by decide) (by simp)
  · cases h
    simp

/-! ### Which checks come to an end -/

/-- The checks of a job do not leave the calendar: if its expression is looked at, there is a
verdict on its schedule, and its runs on the reference day can be counted. -/
def Decides (v : Validator) (job : Job) : Prop :=
  job.valid = true → ∀ s, v.parser.parse job.expression = .ok s →
    (∃ empty, v.isEmptySchedule job.expression = .ok empty) ∧
    (v.checks.frequency = true → ∀ err,
      v.scheduler.runsPerDay referenceInstant job.expression ≠ .error (.calendar err))

/-- No check of the jobs leaves the calendar. -/
structure KeepsToCalendar (v : Validator) (jobs : List Job) : Prop where
  decides : ∀ job ∈ jobs, v.Decides job
  overlaps : v.checks.overlap = true → 2 ≤ (jobs.filter Job.valid).length →
    ∃ overlaps, v.overlapsOf (jobs.filter Job.valid) = .ok overlaps

theorem exists_frequencyFindings_iff : (∃ issues, v.frequencyFindings s e = .ok issues) ↔
    (v.checks.frequency = true → ∀ err,
      v.scheduler.runsPerDay referenceInstant e ≠ .error (.calendar err)) := by
  unfold frequencyFindings frequencyIssues
  split_ifs with hon
  · cases hruns : v.scheduler.runsPerDay referenceInstant e with
    | ok runs => simp
    | error fault => cases fault <;> simp [hon]
  · simp [hon]

theorem exists_scheduleReport_iff : (∃ report, v.scheduleReport s e line command = .ok report) ↔
    (∃ empty, v.isEmptySchedule e = .ok empty) ∧
      ∃ issues, v.frequencyFindings s e = .ok issues := by
  simp only [scheduleReport_eq_ok_iff]
  constructor
  · rintro ⟨_, empty, issues, hempty, hissues, -⟩
    exact ⟨⟨empty, hempty⟩, issues, hissues⟩
  · rintro ⟨⟨empty, hempty⟩, issues, hissues⟩
    exact ⟨_, empty, issues, hempty, hissues, rfl⟩

theorem exists_jobReport_iff : (∃ report, v.jobReport job = .ok report) ↔ v.Decides job := by
  unfold jobReport jobReportOf Decides
  cases hfault : job.fault with
  | some fault => simp [Job.valid, hfault]
  | none =>
    cases hparse : v.parser.parse job.expression with
    | error fault => simp
    | ok s =>
      simp [Job.valid, hfault, exists_scheduleReport_iff, exists_frequencyFindings_iff]

theorem exists_jobReports_iff : (∃ report, v.jobReports jobs = .ok report) ↔
    ∀ job ∈ jobs, v.Decides job := by
  induction jobs with
  | nil => simp [jobReports, readAll, Except.map]
  | cons job jobs ih =>
    rw [List.forall_mem_cons, ← ih, ← exists_jobReport_iff]
    simp only [jobReports_cons_eq_ok_iff]
    constructor
    · rintro ⟨_, a, b, ha, hb, -⟩
      exact ⟨⟨a, ha⟩, b, hb⟩
    · rintro ⟨⟨a, ha⟩, b, hb⟩
      exact ⟨_, a, b, ha, hb, rfl⟩

theorem exists_overlapFindings_iff : (∃ issues, v.overlapFindings jobs = .ok issues) ↔
    (v.checks.overlap = true → 2 ≤ (jobs.filter Job.valid).length →
      ∃ overlaps, v.overlapsOf (jobs.filter Job.valid) = .ok overlaps) := by
  unfold overlapFindings
  split_ifs with hon
  · simp only [overlapIssues_eq_ok_iff, hon, true_imp_iff]
    constructor
    · rintro ⟨_, ⟨hfew, -⟩ | ⟨-, overlaps, hoverlaps, -⟩⟩ hmany
      · omega
      · exact ⟨overlaps, hoverlaps⟩
    · intro h
      by_cases hfew : (jobs.filter Job.valid).length < 2
      · exact ⟨[], Or.inl ⟨hfew, rfl⟩⟩
      · obtain ⟨overlaps, hoverlaps⟩ := h (by omega)
        exact ⟨_, Or.inr ⟨by omega, overlaps, hoverlaps, rfl⟩⟩
  · simp [hon]

theorem exists_checkJobs_iff : (∃ report, v.checkJobs jobs = .ok report) ↔
    v.KeepsToCalendar jobs := by
  simp only [checkJobs_eq_ok_iff]
  constructor
  · rintro ⟨_, counted, issues, hcounted, hissues, -⟩
    exact ⟨exists_jobReports_iff.mp ⟨counted, hcounted⟩,
      exists_overlapFindings_iff.mp ⟨issues, hissues⟩⟩
  · rintro ⟨hdecides, hoverlaps⟩
    obtain ⟨counted, hcounted⟩ := exists_jobReports_iff.mpr hdecides
    obtain ⟨issues, hissues⟩ := exists_overlapFindings_iff.mpr hoverlaps
    exact ⟨_, counted, issues, hcounted, hissues, rfl⟩

/-! ### When the scheduler answers -/

/-- Every question that the checks put to the scheduler lies in the calendar and is answered. -/
structure Answered (v : Validator) : Prop where
  zoned : v.now.offset.isSome = true
  later : ∃ later, v.now.addYears emptyHorizonYears = .ok later ∧
    v.scheduler.AnswersFrom v.now later
  reference : v.checks.frequency = true → ∀ start window,
    referenceInstant.plus (-microsPerSecond) = .ok start →
    Window.ofLength referenceInstant microsPerDay = .ok window →
    v.scheduler.AnswersFrom start window.stop
  overlap : v.checks.overlap = true → ∃ window,
    Window.ofLength v.now.truncateToMinute v.checks.overlapWindow = .ok window ∧
    v.scheduler.AnswersFrom window.start window.stop

theorem Answered.exists_isEmptySchedule (h : v.Answered) (e : String) :
    ∃ empty, v.isEmptySchedule e = .ok empty := by
  obtain ⟨later, hlater, hanswers⟩ := h.later
  have hzoned : later.offset.isSome = true := by
    rw [Instant.offset_of_addYears hlater]
    exact h.zoned
  unfold isEmptySchedule
  rw [hlater]
  obtain ⟨r, hnext⟩ | ⟨times, hnext, htimes⟩ := hanswers e 1
  · exact ⟨true, by simp only [bind, Except.bind, hnext]; rfl⟩
  · simp only [bind, Except.bind, hnext]
    cases times with
    | nil => exact ⟨true, rfl⟩
    | cons t rest =>
      have ht := htimes t List.mem_cons_self
      simp [Instant.isBefore, Instant.elapsed, hzoned, ht, Except.map]

theorem Answered.exists_overlaps (h : v.Answered) (hon : v.checks.overlap = true)
    (jobs : List Job) : ∃ overlaps, v.overlapsOf jobs = .ok overlaps := by
  obtain ⟨window, hwindow, hanswers⟩ := h.overlap hon
  have hzoned : window.stop.offset.isSome = true := by
    rw [Window.offset_of_ofLength hwindow]
    exact h.zoned
  obtain ⟨hits, hhits⟩ :=
    hanswers.exists_hits hzoned (v.checks.overlapWindow / microsPerMinute + 1) jobs
  unfold overlapsOf Scheduler.overlaps
  rw [hwindow]
  simp only [bind, Except.bind, hhits]
  exact ⟨_, rfl⟩

theorem Answered.keepsToCalendar (h : v.Answered) (jobs : List Job) : v.KeepsToCalendar jobs where
  decides job _ _ _ _ := ⟨h.exists_isEmptySchedule job.expression, fun hon =>
    Scheduler.AnswersFrom.runsPerDay_ne_calendar (h.reference hon) job.expression⟩
  overlaps hon _ := h.exists_overlaps hon (jobs.filter Job.valid)

end Validator

end CronLint
