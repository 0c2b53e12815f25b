import CronLint.Proofs.ReportParts
import CronLint.Settings.Entries

/-!
# Where checks leave the calendar

Settings bound the overlap window from below only. A window may be longer than any span of time that
can be handled, or it may end after the calendar does; then the checks stop with an error. In all
other cases there is a report, whatever the expression, the crontab and the clock reading are.
-/
namespace CronLint

open Calendar

/-! ### All jobs in a window -/

namespace Scheduler

variable {s : Scheduler} {window : Window} {limit : Int}

/-- Asked for runs up to an instant outside the calendar, it rejects what has no recurrence and
gives up on all else. -/
theorem FollowsCalendarFrom.runsInWindow_eq (h : s.FollowsCalendarFrom window.start)
    (before : window.start.micros < calendarEnd - microsPerSecond)
    (hstop : ¬ window.stop.InCalendar) (hlimit : 0 < limit) (e : String) :
    s.runsInWindow window limit e =
      match Recurrence.ofExpression e with
      | .ok _ => .error .outOfRange
      | .error _ => .ok [] := by
  unfold runsInWindow
  rw [h.next_eq before]
  cases hr : Recurrence.ofExpression e with
  | ok r =>
    rw [calendarScheduler_next_of_ok hr, project_of_horizonOutside hlimit ⟨_, rfl, hstop⟩]
    rfl
  | error fault =>
    obtain ⟨r, hnext⟩ :=
      calendarScheduler_next_of_rejected (e := e) (by simp [hr]) window.start limit
      (some window.stop)
    rw [hnext]

end Scheduler

/-- The job is valid, and its expression stands for a recurrence as it is written. -/
def Job.Recurs (job : Job) : Prop :=
  job.valid = true ∧ ∃ r, Recurrence.ofExpression job.expression = .ok r

namespace Scheduler

variable {s : Scheduler} {window : Window} {limit : Int} {jobs : List Job}

/-- Up to an instant outside the calendar, the runs of jobs can be looked up as long as none of them
recurs. -/
theorem hits_outside (h : ∀ e, s.runsInWindow window limit e =
      match Recurrence.ofExpression e with
      | .ok _ => .error .outOfRange
      | .error _ => .ok []) :
    ((∃ job ∈ jobs, job.Recurs) → s.hits window limit jobs = .error .outOfRange) ∧
    ((¬ ∃ job ∈ jobs, job.Recurs) → ∃ hits, s.hits window limit jobs = .ok hits) := by
  induction jobs with
  | nil => exact ⟨by simp, fun _ => ⟨[], rfl⟩⟩
  | cons job jobs ih =>
    obtain ⟨hsome, hnone⟩ := ih
    simp only [List.exists_mem_cons_iff, not_or, Scheduler.hits, h]
    by_cases hvalid : job.valid = true
    · rw [if_pos hvalid]
      cases hr : Recurrence.ofExpression job.expression with
      | ok r =>
        have hrecurs : job.Recurs := ⟨hvalid, r, hr⟩
        exact ⟨fun _ => rfl, fun hno => absurd hrecurs hno.1⟩
      | error fault =>
        -- A rejected job is left out, whether or not the window ends in the calendar.
        have hrecurs : ¬ job.Recurs := by simp [Job.Recurs, hr]
        constructor
        · intro hany
          rw [hsome (hany.resolve_left hrecurs)]
          rfl
        · intro hno
          obtain ⟨hits, hhits⟩ := hnone hno.2
          rw [hhits]
          exact ⟨_, rfl⟩
    · rw [if_neg hvalid]
      have hrecurs : ¬ job.Recurs := fun hrecurs => hvalid hrecurs.1
      exact ⟨fun hany => hsome (hany.resolve_left hrecurs), fun hno => hnone hno.2⟩

/-- The runs of jobs in a window can be looked up unless it ends outside the calendar and one of
them recurs. -/
theorem FollowsCalendarFrom.hits_spec (h : s.FollowsCalendarFrom window.start)
    (nonneg : 0 ≤ window.start.micros)
    (before : window.start.micros < calendarEnd - microsPerSecond)
    (hstop : 0 ≤ window.stop.micros) (hzoned : window.stop.offset.isSome = true)
    (hlimit : 0 < limit) (jobs : List Job) :
    (calendarEnd ≤ window.stop.micros ∧ (∃ job ∈ jobs, job.Recurs) →
      s.hits window limit jobs = .error .outOfRange) ∧
    (¬ (calendarEnd ≤ window.stop.micros ∧ ∃ job ∈ jobs, job.Recurs) →
      ∃ hits, s.hits window limit jobs = .ok hits) := by
  by_cases hcalendar : window.stop.InCalendar
  · constructor
    · intro hlate
      exact absurd hcalendar.2 (by omega)
    · intro _
      exact (h.answersFrom nonneg before hcalendar).exists_hits hzoned limit jobs
  · have hlate : calendarEnd ≤ window.stop.micros := by
      by_contra hearly
      exact hcalendar ⟨hstop, by omega⟩
    obtain ⟨hsome, hnone⟩ := hits_outside (h.runsInWindow_eq before hcalendar hlimit)
    constructor
    · intro hany
      exact hsome hany.2
    · intro hno
      exact hnone fun hany => hno ⟨hlate, hany⟩

end Scheduler

/-! ### The start of the window -/

namespace Calendar.Instant

variable {now : Instant}

theorem IsClockReading.wall_nonneg (h : now.IsClockReading) : 0 ≤ now.wall := by
  have hnear := wall_near h.zone
  have hsince := h.micros_bounds.1
  have hepoch : microsPerDay ≤ epochDay * microsPerDay := by decide
  omega

theorem micros_truncateToMinute (t : Instant) :
    t.truncateToMinute.micros ≤ t.micros ∧
      t.micros < t.truncateToMinute.micros + microsPerMinute := by
  have hminute : 0 < microsPerMinute := by decide
  have hnonneg := Int.emod_nonneg t.wall hminute.ne'
  have hlt := Int.emod_lt_of_pos t.wall hminute
  simp only [micros, truncateToMinute]
  omega

theorem wall_truncateToMinute_nonneg {t : Instant} (h : 0 ≤ t.wall) :
    0 ≤ t.truncateToMinute.wall := by
  have hdiv := Int.ediv_mul_add_emod t.wall microsPerMinute
  have hquotient : 0 ≤ t.wall / microsPerMinute * microsPerMinute :=
    mul_nonneg (Int.ediv_nonneg h (by decide)) (by decide)
  simp only [truncateToMinute]
  omega

/-- The minute of a clock reading can be asked for runs after it. -/
theorem IsClockReading.truncated_bounds (h : now.IsClockReading) :
    0 ≤ now.truncateToMinute.micros ∧
      now.truncateToMinute.micros < calendarEnd - microsPerSecond := by
  obtain ⟨hle, hlt⟩ := micros_truncateToMinute now
  have hsince := h.micros_bounds.1
  have hbefore := h.before_end
  have hepoch : microsPerMinute ≤ epochDay * microsPerDay := by decide
  constructor
  · omega
  · omega

end Calendar.Instant

theorem Window.ofLength_eq {start : Instant} {length : Int} (hstart : 0 ≤ start.wall)
    (hlength : 0 ≤ length) : ofLength start length =
      if start.wall + length < calendarEnd then .ok ⟨start, ⟨start.wall + length, start.offset⟩⟩
      else .error .outOfRange := by
  unfold ofLength Instant.plus Instant.ofWall
  by_cases hfits : start.wall + length < calendarEnd
  · rw [if_pos hfits, if_pos (by omega)]
    rfl
  · rw [if_neg hfits, if_neg (by omega)]
    rfl

/-! ### Validators -/

theorem Parser.scheduler_forLocale (locale : String) (table : SymbolTable) (scheduler : Scheduler) :
    (forLocale locale table scheduler).scheduler = scheduler := rfl

theorem windowOfMinutes_eq {minutes : Int} (h : 1 ≤ minutes) : windowOfMinutes minutes =
    if minutes < 1440 * (maxSpanDays + 1) then .ok (minutes * microsPerMinute)
    else .error .outOfRange := by
  have hspan : maxSpanDays = 999999999 := rfl
  unfold windowOfMinutes spanOfSeconds
  dsimp only
  by_cases hfits : minutes < 1440 * (maxSpanDays + 1)
  · rw [if_pos hfits, if_pos (by omega), microsPerMinute]
    ring_nf
  · rw [if_neg hfits, if_neg (by omega)]

namespace Validator

variable {v : Validator} {jobs : List Job}

/-- The runs of the jobs cannot be looked up to the end of the overlap window: the clock does not
show it, or it lies after the end of the calendar and a job is asked for runs up to it. -/
def WindowOverruns (v : Validator) (jobs : List Job) : Prop :=
  calendarEnd ≤ v.now.truncateToMinute.wall + v.checks.overlapWindow ∨
  calendarEnd ≤ v.now.truncateToMinute.micros + v.checks.overlapWindow ∧ ∃ job ∈ jobs, job.Recurs

/-- The overlaps of the jobs are asked for, and the window overruns the calendar. -/
def OverrunsCalendar (v : Validator) (jobs : List Job) : Prop :=
  v.checks.overlap = true ∧ 2 ≤ (jobs.filter Job.valid).length ∧ v.WindowOverruns jobs

theorem overlapsOf_spec (hnow : v.now.IsClockReading)
    (hscheduler : v.scheduler.FollowsCalendarFrom v.now.truncateToMinute)
    (hlength : microsPerMinute ≤ v.checks.overlapWindow) (jobs : List Job) :
    (v.WindowOverruns jobs → v.overlapsOf jobs = .error .outOfRange) ∧
    (¬ v.WindowOverruns jobs → ∃ overlaps, v.overlapsOf jobs = .ok overlaps) := by
  have hminute : 0 < microsPerMinute := by decide
  have hnonneg : 0 ≤ v.checks.overlapWindow := by omega
  have hlimit : 0 < v.checks.overlapWindow / microsPerMinute + 1 := by
    have := Int.ediv_nonneg hnonneg hminute.le
    omega
  obtain ⟨hstart, hbefore⟩ := hnow.truncated_bounds
  rw [overlapsOf, Scheduler.overlaps_eq,
    Window.ofLength_eq (Instant.wall_truncateToMinute_nonneg hnow.wall_nonneg) hnonneg]
  unfold WindowOverruns
  by_cases hfits : v.now.truncateToMinute.wall + v.checks.overlapWindow < calendarEnd
  · obtain ⟨offset, hoffset, -⟩ := hnow.zone
    rw [if_pos hfits]
    generalize hwindow : (⟨v.now.truncateToMinute, ⟨v.now.truncateToMinute.wall +
      v.checks.overlapWindow, v.now.truncateToMinute.offset⟩⟩ : Window) = window
    have hfrom : window.start = v.now.truncateToMinute := by rw [← hwindow]
    have hzoned : window.stop.offset = some offset := by
      rw [← hwindow]
      exact hoffset
    have hstop : window.stop.micros =
        v.now.truncateToMinute.micros + v.checks.overlapWindow := by
      rw [← hwindow]
      simp only [Instant.micros]
      omega
    rw [← hfrom] at hscheduler hstart hbefore
    obtain ⟨herror, hok⟩ := hscheduler.hits_spec hstart hbefore
      (by rw [hstop, ← hfrom]; omega) (by rw [hzoned]; rfl) hlimit jobs
    rw [← hstop]
    constructor
    · intro hover
      simp only [Except.bind, herror (hover.resolve_left (by omega))]
      rfl
    · intro hno
      obtain ⟨hits, hhits⟩ := hok fun hover => hno (Or.inr hover)
      simp only [Except.bind, hhits]
      exact ⟨_, rfl⟩
  · rw [if_neg hfits]
    constructor
    · intro _
      rfl
    · intro h
      omega

theorem windowOverruns_filter :
    v.WindowOverruns (jobs.filter Job.valid) ↔ v.WindowOverruns jobs := by
  have hrecurs : (∃ job ∈ jobs.filter Job.valid, job.Recurs) ↔ ∃ job ∈ jobs, job.Recurs := by
    constructor
    · rintro ⟨job, hjob, hrecurs⟩
      exact ⟨job, List.mem_of_mem_filter hjob, hrecurs⟩
    · rintro ⟨job, hjob, hrecurs⟩
      exact ⟨job, List.mem_filter.mpr ⟨hjob, hrecurs.1⟩, hrecurs⟩
  unfold WindowOverruns
  rw [hrecurs]

theorem decides_of_isClockReading (hv : v.scheduler.FollowsCalendar) (hnow : v.now.IsClockReading)
    (job : Job) : v.Decides job := by
  intro _ s _
  exact ⟨exists_isEmptySchedule hv hnow job.expression,
    fun _ => hv.runsPerDay_ne_calendar job.expression⟩

theorem exists_checkExpression (hv : v.scheduler.FollowsCalendar) (hnow : v.now.IsClockReading)
    (e : String) : ∃ report, v.checkExpression e = .ok report := by
  unfold checkExpression
  cases v.parser.parse e with
  | error fault => exact ⟨_, rfl⟩
  | ok s =>
    rw [exists_scheduleReport_iff, exists_frequencyFindings_iff]
    exact ⟨exists_isEmptySchedule hv hnow e, fun _ => hv.runsPerDay_ne_calendar e⟩

theorem checkJobs_spec (hnow : v.now.IsClockReading)
    (hscheduler : v.scheduler.FollowsCalendarFrom v.now.truncateToMinute)
    (hlength : microsPerMinute ≤ v.checks.overlapWindow) (jobs : List Job) :
    (v.OverrunsCalendar jobs → v.checkJobs jobs = .error .outOfRange) ∧
    (¬ v.OverrunsCalendar jobs → ∃ report, v.checkJobs jobs = .ok report) := by
  have hdecides : ∀ job ∈ jobs, v.Decides job := fun job _ =>
    decides_of_isClockReading hscheduler.followsCalendar hnow job
  obtain ⟨herror, hok⟩ := overlapsOf_spec hnow hscheduler hlength (jobs.filter Job.valid)
  rw [windowOverruns_filter] at herror hok
  constructor
  · rintro ⟨hon, hmany, hover⟩
    obtain ⟨counted, hcounted⟩ := exists_jobReports_iff.mpr hdecides
    have hissues : v.overlapIssues jobs = .error .outOfRange := by
      unfold overlapIssues
      dsimp only
      rw [if_neg (by omega), herror hover]
      rfl
    simp only [checkJobs, hcounted, hissues, hon, if_true, bind, Except.bind]
  · intro hno
    rw [exists_checkJobs_iff]
    exact ⟨hdecides, fun hon hmany => hok fun hover => hno ⟨hon, hmany, hover⟩⟩

/-- Of all settings that meet their constraints, those with an overlap window of 10⁹ days or more
stop a validator from coming about. Any other validator reports on every expression, and on every
crontab unless the overlap window overruns the calendar. -/
theorem checks_ofSettings {s : Settings} {scheduler : Scheduler} {now : Instant}
    (hs : s.Admissible) (hnow : now.IsClockReading)
    (hscheduler : scheduler.FollowsCalendarFrom now.truncateToMinute) :
    (1440 * (maxSpanDays + 1) ≤ s.overlapWindowMinutes →
      ofSettings s scheduler now = .error .outOfRange) ∧
    (s.overlapWindowMinutes < 1440 * (maxSpanDays + 1) →
      ∃ v, ofSettings s scheduler now = .ok v ∧
        (∀ e, ∃ report, v.checkExpression e = .ok report) ∧
        ∀ entries, (v.OverrunsCalendar (jobsOf entries) →
            v.checkEntries entries = .error .outOfRange) ∧
          (¬ v.OverrunsCalendar (jobsOf entries) →
            ∃ report, v.checkEntries entries = .ok report)) := by
  have hwindow := windowOfMinutes_eq hs.overlapWindow
  constructor
  · intro hlong
    rw [if_neg (by omega)] at hwindow
    unfold ofSettings Checks.ofSettings
    rw [hwindow]
    rfl
  · intro hshort
    rw [if_pos hshort] at hwindow
    have hlength : microsPerMinute ≤ s.overlapWindowMinutes * microsPerMinute :=
      le_mul_of_one_le_left (by decide) hs.overlapWindow
    obtain ⟨v, hv, hscheduler', hnow', hlength'⟩ : ∃ v, ofSettings s scheduler now = .ok v ∧
        v.scheduler = scheduler ∧ v.now = now ∧
        v.checks.overlapWindow = s.overlapWindowMinutes * microsPerMinute := by
      unfold ofSettings Checks.ofSettings
      rw [hwindow]
      exact ⟨_, rfl, Parser.scheduler_forLocale .., rfl, rfl⟩
    rw [← hnow', ← hscheduler'] at hscheduler
    rw [← hnow'] at hnow
    rw [← hlength'] at hlength
    refine ⟨v, hv, exists_checkExpression hscheduler.followsCalendar hnow, ?_⟩
    intro entries
    exact checkJobs_spec hnow hscheduler hlength (jobsOf entries)

/-- Two jobs that run at midnight, with overlap checks at the start of 2025. -/
theorem checks_ofSettings_midnight : ∃ v report,
    ofSettings { warnOnOverlap := true } calendarScheduler
      (.utc (Instant.wallAt ⟨2025, 1, 1⟩ 0)) = .ok v ∧
    v.checkEntries (v.parser.readText "0 0 * * * a\n@daily b".toList) = .ok report := by
  have hs : ({ warnOnOverlap := true } : Settings).Admissible :=
    ⟨by decide, by decide, by decide⟩
  have hnow : (Instant.utc (Instant.wallAt ⟨2025, 1, 1⟩ 0)).IsClockReading :=
    ⟨⟨0, rfl, by decide, by decide⟩, by decide, by decide⟩
  obtain ⟨-, hshort⟩ := checks_ofSettings hs hnow (Or.inl rfl)
  obtain ⟨v, hv, -, hentries⟩ := hshort (by decide)
  have hvalidator : ofSettings { warnOnOverlap := true } calendarScheduler
      (.utc (Instant.wallAt ⟨2025, 1, 1⟩ 0)) = .ok ⟨Parser.forLocale "en",
        { overlap := true }, .utc (Instant.wallAt ⟨2025, 1, 1⟩ 0)⟩ := by
    rfl
  have hfits : ¬ v.OverrunsCalendar
      (jobsOf (v.parser.readText "0 0 * * * a\n@daily b".toList)) := by
    obtain rfl := Except.ok.inj (hvalidator.symm.trans hv)
    rintro ⟨-, -, hwall | ⟨hend, -⟩⟩
    · revert hwall
      decide
    · revert hend
      decide
  obtain ⟨report, hreport⟩ := (hentries _).2 hfits
  exact ⟨v, report, hv, hreport⟩

/-- A window of 10⁹ days is accepted as a setting, but no validator comes about. -/
theorem ofSettings_fails_on_long_window : ∃ s : Settings, s.Admissible ∧
    Settings.ofData (.mapping [(.text "overlap_window_minutes", .integer 1440000000000)]) = .ok s ∧
    ofSettings s calendarScheduler (.utc (Instant.wallAt ⟨2025, 1, 1⟩ 0)) = .error .outOfRange :=
  ⟨{ overlapWindowMinutes := 1440000000000 }, ⟨by decide, by decide, by decide⟩, rfl, rfl⟩

end Validator

end CronLint
