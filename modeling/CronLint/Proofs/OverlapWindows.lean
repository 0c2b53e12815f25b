import CronLint.Proofs.OverlapMinutes
import CronLint.Proofs.RequestLimits
import CronLint.Proofs.WindowEnds

/-!
# The minutes of an overlap window

A window of whole minutes is half-open, but a scheduler lists what comes after the start only. So
all overlaps of the window are found but those in its first minute. A job has fewer runs in the
window than it is asked for.
-/
namespace CronLint

open Calendar

/-- The job is valid, the scheduler of the calendar accepts its expression, and the fields match the
instant. -/
structure Job.RunsAt (job : Job) (t : Instant) : Prop where
  valid : job.valid = true
  accepted : calendarScheduler.validate job.expression = .ok ()
  matched : ∃ raw, Spells job.expression raw ∧ raw.Match t

theorem Job.runsAt_iff {job : Job} {r : Recurrence} {raw : Fields String}
    (hvalid : job.valid = true) (hspells : Spells job.expression raw)
    (hraw : Recurrence.ofFields raw = .ok r) (t : Instant) : job.RunsAt t ↔ raw.Match t := by
  have haccepted : calendarScheduler.validate job.expression = .ok () :=
    calendarScheduler_validate_eq_ok_iff.mpr
      ⟨r, Recurrence.ofExpression_eq_ok_iff.mpr ⟨raw, hspells, hraw⟩⟩
  constructor
  · intro hrun
    obtain ⟨raw', hspells', hmatch⟩ := hrun.matched
    obtain rfl := hspells.unique hspells'
    exact hmatch
  · intro hmatch
    exact ⟨hvalid, haccepted, raw, hspells, hmatch⟩

theorem Job.runsAt_minuteInstant {job : Job} {m : Nat} (hvalid : job.valid = true)
    (hruns : (Recurrence.ofExpression job.expression).toOption.any (fun r => r.runsAt m) = true) :
    job.RunsAt (Scheduler.minuteInstant m) := by
  cases hr : Recurrence.ofExpression job.expression with
  | ok r =>
    obtain ⟨raw, hspells, hraw⟩ := Recurrence.ofExpression_eq_ok_iff.mp hr
    rw [runsAt_iff hvalid hspells hraw, Scheduler.match_minuteInstant_iff hraw]
    simpa [hr, Except.toOption] using hruns
  | error fault => simp [hr, Except.toOption] at hruns

/-- The identifiers of the jobs that run at an instant. -/
def idsRunningAt (jobs : List Job) (t : Instant) : Set String :=
  {id | ∃ job ∈ jobs, job.id = id ∧ job.RunsAt t}

theorem idsRunningAt_nontrivial {i j : Job} {t : Instant} (hi : i.RunsAt t) (hj : j.RunsAt t)
    (h : i.id ≠ j.id) : (idsRunningAt [i, j] t).Nontrivial :=
  ⟨i.id, ⟨i, by simp, rfl, hi⟩, j.id, ⟨j, by simp, rfl, hj⟩, h⟩

namespace Window

/-- The instant is a whole minute on a UTC clock, not before the start of the window and before its
end. -/
structure HasMinute (w : Window) (t : Instant) : Prop where
  utc : t.offset = some 0
  wholeMinute : microsPerMinute ∣ t.wall
  fromStart : w.start.micros ≤ t.micros
  beforeStop : t.micros < w.stop.micros

/-- A window of the calendar, on a UTC clock, that starts with a whole minute. It may end before it
starts. -/
structure FromMinute (w : Window) : Prop where
  startUtc : w.start.offset = some 0
  stopUtc : w.stop.offset = some 0
  wholeStart : microsPerMinute ∣ w.start.micros
  startInCalendar : w.start.InCalendar
  stopInCalendar : w.stop.InCalendar

/-- A window on a UTC clock that starts with a whole minute. It lies in the years 1970 to 9999. -/
structure OnMinutes (w : Window) : Prop where
  startUtc : w.start.offset = some 0
  stopUtc : w.stop.offset = some 0
  wholeStart : microsPerMinute ∣ w.start.micros
  since : epochDay * microsPerDay ≤ w.start.micros
  ordered : w.start.micros ≤ w.stop.micros
  inCalendar : w.stop.InCalendar

end Window

namespace Calendar.Instant

theorem wholeMinute_truncateToMinute (t : Instant) : microsPerMinute ∣ t.truncateToMinute.wall :=
  Int.dvd_self_sub_emod

theorem truncateToMinute_of_wholeMinute {t : Instant} (h : microsPerMinute ∣ t.wall) :
    t.truncateToMinute = t := by
  rw [truncateToMinute, Int.emod_eq_zero_of_dvd h, sub_zero]

end Calendar.Instant

namespace Window

variable {w : Window} {now t : Instant} {length : Int}

theorem FromMinute.before (h : w.FromMinute) : w.start.micros < calendarEnd - microsPerSecond := by
  obtain ⟨m, hm⟩ := h.wholeStart
  have hlast := h.startInCalendar.2
  simp only [calendarEnd, microsPerDay, microsPerHour, microsPerMinute,
    microsPerSecond] at hm hlast ⊢
  omega

/-- Windows from the minute of a UTC clock are of this kind. -/
theorem fromMinute_of_ofLength (utc : now.offset = some 0) (hnow : now.InCalendar)
    (h : ofLength now.truncateToMinute length = .ok w) :
    w.FromMinute ∧ w.stop.micros = w.start.micros + length := by
  obtain ⟨rfl, hfits⟩ := ofLength_eq_ok_iff.mp h
  have hstart : now.truncateToMinute.micros = now.truncateToMinute.wall := Instant.micros_of_utc utc
  have hstop :
      (⟨now.truncateToMinute.wall + length, now.truncateToMinute.offset⟩ : Instant).micros =
      now.truncateToMinute.wall + length := Instant.micros_of_utc utc
  have hnonneg : 0 ≤ now.truncateToMinute.wall :=
    Instant.wall_truncateToMinute_nonneg (Instant.micros_of_utc utc ▸ hnow.1)
  have hwhole := Instant.wholeMinute_truncateToMinute now
  obtain ⟨hle, -⟩ := Instant.micros_truncateToMinute now
  have hlast := hnow.2
  refine ⟨⟨utc, utc, hstart ▸ hwhole, ⟨?_, ?_⟩, ⟨?_, ?_⟩⟩, ?_⟩ <;> dsimp only <;> omega

theorem OnMinutes.fromMinute (h : w.OnMinutes) : w.FromMinute where
  startUtc := h.startUtc
  stopUtc := h.stopUtc
  wholeStart := h.wholeStart
  startInCalendar := by
    have hepoch : (0 : Int) ≤ epochDay * microsPerDay := by decide
    exact ⟨hepoch.trans h.since, h.ordered.trans_lt h.inCalendar.2⟩
  stopInCalendar := h.inCalendar

/-- So are windows on minutes, if the clock shows 1970 or later and they do not end before they
start. -/
theorem onMinutes_of_ofLength (utc : now.offset = some 0)
    (since : epochDay * microsPerDay ≤ now.truncateToMinute.micros) (hlength : 0 ≤ length)
    (h : ofLength now.truncateToMinute length = .ok w) :
    w.OnMinutes ∧ w.stop.micros - w.start.micros = length := by
  obtain ⟨rfl, hfits⟩ := ofLength_eq_ok_iff.mp h
  have hstart := Instant.micros_of_utc (t := now.truncateToMinute) utc
  have hstop :
      (⟨now.truncateToMinute.wall + length, now.truncateToMinute.offset⟩ : Instant).micros =
      now.truncateToMinute.wall + length := Instant.micros_of_utc utc
  have hwhole := Instant.wholeMinute_truncateToMinute now
  refine ⟨⟨utc, utc, hstart ▸ hwhole, since, ?_, ?_, ?_⟩, ?_⟩ <;> dsimp only <;> omega

end Window

namespace Scheduler

variable {s : Scheduler} {w : Window} {r : Recurrence} {count : Int} {e : String}

/-- In a window from a whole minute, one run per minute is all that can be asked for. -/
theorem FollowsCalendarFrom.next_eq_window (h : s.FollowsCalendarFrom w.start) (hw : w.FromMinute)
    (hcount : (w.stop.micros - w.start.micros) / microsPerMinute ≤ count) (e : String) :
    s.next e w.start count (some w.stop) =
      match Recurrence.ofExpression e with
      | .ok r => .ok (runs r w.start (some w.stop))
      | .error fault => .error (.rejected fault.toRejection) := by
  rw [Int.sub_ediv_of_dvd _ hw.wholeStart] at hcount
  exact h.next_eq_all hw.startInCalendar.1 hw.before hw.stopInCalendar hcount e

theorem FollowsCalendar.next_eq_all (h : s.FollowsCalendar) (hw : w.OnMinutes)
    (hcount : (w.stop.micros - w.start.micros) / microsPerMinute ≤ count) (e : String) :
    s.next e w.start count (some w.stop) =
      match Recurrence.ofExpression e with
      | .ok r => .ok (runs r w.start (some w.stop))
      | .error fault => .error (.rejected fault.toRejection) :=
  FollowsCalendarFrom.next_eq_window (Or.inr ⟨h, hw.since⟩) hw.fromMinute hcount e

/-- The runs of an expression in a window, none if the expression is rejected. -/
def runsIn (w : Window) (e : String) : List Instant :=
  match Recurrence.ofExpression e with
  | .ok r => (runs r w.start (some w.stop)).filter fun t =>
      decide (w.start.micros ≤ t.micros) && decide (t.micros < w.stop.micros)
  | .error _ => []

theorem FollowsCalendarFrom.runsInWindow_eq_runsIn (h : s.FollowsCalendarFrom w.start)
    (hw : w.FromMinute) (hcount : (w.stop.micros - w.start.micros) / microsPerMinute ≤ count)
    (e : String) : s.runsInWindow w count e = .ok (runsIn w e) := by
  unfold runsInWindow runsIn
  rw [h.next_eq_window hw hcount]
  cases Recurrence.ofExpression e with
  | ok r =>
    apply Window.clip_of_ascending (runs_ascending r _ _)
    intro t ht
    simp [Window.sameClock, offset_of_mem_runs ht, hw.stopUtc]
  | error fault => rfl

/-- The hits of jobs in a window, if each job is asked for all its runs. -/
def hitsIn (w : Window) (jobs : List Job) : List (Instant × String) :=
  hitsBy (fun job => runsIn w job.expression) jobs

theorem FollowsCalendarFrom.hits_eq_hitsIn (h : s.FollowsCalendarFrom w.start) (hw : w.FromMinute)
    (hcount : (w.stop.micros - w.start.micros) / microsPerMinute ≤ count) (jobs : List Job) :
    s.hits w count jobs = .ok (hitsIn w jobs) :=
  hits_eq fun job _ _ => h.runsInWindow_eq_runsIn hw hcount job.expression

end Scheduler

namespace Window

variable {s : Scheduler} {w : Window} {raw : Fields String} {t : Instant}

theorem OnMinutes.isRun_iff (h : w.OnMinutes) :
    IsRun raw w.start (some w.stop) t ∧ t.micros < w.stop.micros ↔
      w.HasMinute t ∧ t ≠ w.start ∧ raw.Match t := by
  constructor
  · rintro ⟨hrun, hstop⟩
    have hafter := hrun.afterStart
    refine ⟨⟨hrun.utc, hrun.wholeMinute, hafter.le, hstop⟩, ?_, hrun.matched⟩
    rintro rfl
    exact lt_irrefl _ hafter
  · rintro ⟨hminute, hne, hmatch⟩
    have hafter : w.start.micros < t.micros := by
      apply lt_of_le_of_ne hminute.fromStart
      intro heq
      rw [Instant.eq_utc hminute.utc, ← heq, ← Instant.eq_utc h.startUtc] at hne
      exact hne rfl
    have hyear := Instant.year_le_lastYear hminute.utc (hminute.beforeStop.trans h.inCalendar.2)
    refine ⟨⟨⟨hminute.utc, hminute.wholeMinute, hafter, ?_, hyear⟩, hmatch⟩, hminute.beforeStop⟩
    intro stop hstop
    obtain rfl := Option.mem_some.mp hstop
    exact hminute.beforeStop.le

theorem OnMinutes.mem_runsIn_iff (h : w.OnMinutes) {job : Job} (hvalid : job.valid = true) :
    t ∈ Scheduler.runsIn w job.expression ↔ w.HasMinute t ∧ t ≠ w.start ∧ job.RunsAt t := by
  unfold Scheduler.runsIn
  cases hr : Recurrence.ofExpression job.expression with
  | ok r =>
    obtain ⟨raw, hspells, hraw⟩ := Recurrence.ofExpression_eq_ok_iff.mp hr
    have hsince := h.since
    rw [Job.runsAt_iff hvalid hspells hraw, ← h.isRun_iff, List.mem_filter,
      Scheduler.mem_runs_iff hraw (by omega)]
    simp only [Bool.and_eq_true, decide_eq_true_eq]
    constructor
    · rintro ⟨hrun, -, hstop⟩
      exact ⟨hrun, hstop⟩
    · rintro ⟨hrun, hstop⟩
      exact ⟨hrun, hrun.afterStart.le, hstop⟩
  | error fault =>
    simp only [List.not_mem_nil, false_iff]
    rintro ⟨-, -, hrun⟩
    obtain ⟨r, hok⟩ := calendarScheduler_validate_eq_ok_iff.mp hrun.accepted
    cases hr.symm.trans hok

/-- Every minute of the window but its start is hit by the jobs that run in it. -/
theorem OnMinutes.exists_hits (h : w.OnMinutes) (hs : s.FollowsCalendar) {limit : Int}
    (hlimit : (w.stop.micros - w.start.micros) / microsPerMinute ≤ limit)
    (jobs : List Job) : ∃ hits, s.hits w limit jobs = .ok hits ∧
      ∀ t id, (t, id) ∈ hits ↔ w.HasMinute t ∧ t ≠ w.start ∧ id ∈ idsRunningAt jobs t := by
  have hfrom : s.FollowsCalendarFrom w.start := Or.inr ⟨hs, h.since⟩
  refine ⟨_, hfrom.hits_eq_hitsIn h.fromMinute hlimit jobs, ?_⟩
  intro t id
  rw [Scheduler.hitsIn, mem_hitsBy_iff]
  constructor
  · rintro ⟨job, hjob, hid, hvalid, u, hu, htime⟩
    obtain ⟨hminute, hne, hrun⟩ := (h.mem_runsIn_iff hvalid).mp hu
    rw [Instant.truncateToMinute_of_wholeMinute hminute.wholeMinute] at htime
    obtain rfl := htime
    exact ⟨hminute, hne, job, hjob, hid, hrun⟩
  · rintro ⟨hminute, hne, job, hjob, hid, hrun⟩
    exact ⟨job, hjob, hid, hrun.valid, t, (h.mem_runsIn_iff hrun.valid).mpr ⟨hminute, hne, hrun⟩,
      Instant.truncateToMinute_of_wholeMinute hminute.wholeMinute⟩

end Window

namespace Scheduler

variable {s : Scheduler} {now : Instant} {minutes : Int} {window : Window}

/-- In a window of whole minutes, an overlap is reported for each minute in which several jobs run,
except for the minute with which the window starts. It counts the jobs that run then. Jobs asked for
more runs than the limit give the same runs. -/
theorem overlaps_wholeMinutes (hs : s.FollowsCalendar) (utc : now.offset = some 0)
    (since : epochDay * microsPerDay ≤ now.truncateToMinute.micros) (hminutes : 1 ≤ minutes)
    (hwindow : Window.ofLength now.truncateToMinute (minutes * microsPerMinute) = .ok window)
    (jobs : List Job) :
    (∃ overlaps, s.overlaps jobs (minutes * microsPerMinute) now = .ok overlaps ∧
      (∀ t, (∃ o ∈ overlaps.all, o.time = t) ↔
        window.HasMinute t ∧ t ≠ window.start ∧ (idsRunningAt jobs t).Nontrivial) ∧
      ∀ o ∈ overlaps.all, {id | id ∈ o.jobIds} = idsRunningAt jobs o.time ∧
        o.count = (idsRunningAt jobs o.time).ncard) ∧
    ∀ e count, minutes + 1 ≤ count → s.next e window.start count (some window.stop) =
      s.next e window.start (minutes + 1) (some window.stop) := by
  have hminute : 0 < microsPerMinute := by decide
  obtain ⟨hw, hlength⟩ := Window.onMinutes_of_ofLength utc since
    (mul_nonneg (by omega) hminute.le) hwindow
  have hspan : (window.stop.micros - window.start.micros) / microsPerMinute = minutes := by
    rw [hlength, Int.mul_ediv_cancel _ hminute.ne']
  constructor
  · obtain ⟨hits, hhits, hmem⟩ := hw.exists_hits hs (show _ ≤ minutes + 1 by omega) jobs
    have hutc : ∀ hit ∈ hits, hit.1.offset = some 0 := by
      rintro ⟨t, id⟩ hhit
      exact ((hmem t id).mp hhit).1.utc
    have hids : ∀ t, window.HasMinute t → t ≠ window.start →
        {id | (t, id) ∈ hits} = idsRunningAt jobs t := by
      intro t hminute hne
      ext id
      exact (hmem t id).trans ⟨fun h => h.2.2, fun h => ⟨hminute, hne, h⟩⟩
    refine ⟨overlapsOfHits hits, ?_, ?_, ?_⟩
    · rw [overlaps_eq, hwindow, Int.mul_ediv_cancel _ hminute.ne']
      simp only [Except.bind, hhits]
      rfl
    · intro t
      rw [exists_overlap_iff hutc]
      constructor
      · intro hmany
        obtain ⟨id, hid⟩ := hmany.nonempty
        obtain ⟨hminute, hne, -⟩ := (hmem t id).mp hid
        exact ⟨hminute, hne, hids t hminute hne ▸ hmany⟩
      · rintro ⟨hminute, hne, hmany⟩
        exact (hids t hminute hne).symm ▸ hmany
    · intro o ho
      obtain ⟨id, hid⟩ := ((exists_overlap_iff hutc).mp ⟨o, ho, rfl⟩).nonempty
      obtain ⟨hminute, hne, -⟩ := (hmem o.time id).mp hid
      rw [← hids o.time hminute hne]
      exact jobIds_of_mem_overlapsOfHits hutc ho
  · intro e count hcount
    rw [hs.next_eq_all hw (by omega), hs.next_eq_all hw (by omega)]

def tenOClock : Instant := .utc (Instant.wallAt ⟨2025, 1, 1⟩ 36000000000)

def everyMinute (line : Int) : Job := { line, expression := "* * * * *" }

def atTen (line : Int) : Job := { line, expression := "0 10 * * *" }

theorem runsAt_tenOClock {job : Job} (hvalid : job.valid = true)
    (hruns : (Recurrence.ofExpression job.expression).toOption.any (fun r => r.runsAt 1064522040) =
      true) : job.RunsAt tenOClock := by
  have hminute : tenOClock = minuteInstant 1064522040 := by decide
  rw [hminute]
  exact Job.runsAt_minuteInstant hvalid hruns

/-- Ten o'clock in a window of two minutes, asked for in the middle of its first minute. -/
theorem overlaps_wholeMinutes_ten : ∃ overlaps,
    calendarScheduler.overlaps [everyMinute 1, atTen 2] (2 * microsPerMinute)
      (.utc (Instant.wallAt ⟨2025, 1, 1⟩ 35970000000)) = .ok overlaps ∧
    ∃ o ∈ overlaps.all, o.time = tenOClock := by
  have hwindow : Window.ofLength
      (Instant.utc (Instant.wallAt ⟨2025, 1, 1⟩ 35970000000)).truncateToMinute
      (2 * microsPerMinute) =
        .ok ⟨.utc (Instant.wallAt ⟨2025, 1, 1⟩ 35940000000),
          .utc (Instant.wallAt ⟨2025, 1, 1⟩ 36060000000)⟩ := by
    decide
  obtain ⟨⟨overlaps, hoverlaps, htimes, -⟩, -⟩ := overlaps_wholeMinutes (Or.inl rfl) rfl (by decide)
    (by decide) hwindow [everyMinute 1, atTen 2]
  have htwo : (idsRunningAt [everyMinute 1, atTen 2] tenOClock).Nontrivial :=
    idsRunningAt_nontrivial (runsAt_tenOClock rfl (by decide))
      (runsAt_tenOClock rfl (by decide)) (by decide)
  refine ⟨overlaps, hoverlaps, (htimes _).mpr ⟨⟨rfl, ?_, ?_, ?_⟩, ?_, htwo⟩⟩
  all_goals decide

/-- Both jobs run at ten o'clock, when the window of one minute starts, and no overlap is
reported. -/
theorem overlaps_omit_start :
    calendarScheduler.overlaps [everyMinute 1, everyMinute 2] microsPerMinute tenOClock =
        .ok ⟨[], []⟩ ∧
      Window.ofLength tenOClock.truncateToMinute microsPerMinute =
        .ok ⟨tenOClock, .utc (Instant.wallAt ⟨2025, 1, 1⟩ 36060000000)⟩ ∧
      Window.HasMinute ⟨tenOClock, .utc (Instant.wallAt ⟨2025, 1, 1⟩ 36060000000)⟩ tenOClock ∧
      (idsRunningAt [everyMinute 1, everyMinute 2] tenOClock).Nontrivial := by
  have hwindow : Window.ofLength tenOClock.truncateToMinute microsPerMinute =
      .ok ⟨tenOClock, .utc (Instant.wallAt ⟨2025, 1, 1⟩ 36060000000)⟩ := by
    decide
  have hhits : calendarScheduler.hits ⟨tenOClock, .utc (Instant.wallAt ⟨2025, 1, 1⟩ 36060000000)⟩
      (microsPerMinute / microsPerMinute + 1) [everyMinute 1, everyMinute 2] = .ok [] := by
    decide
  have hnone : overlapsOfHits [] = ⟨[], []⟩ := by
    simp [overlapsOfHits, groupByKey, groupNeighbours]
  refine ⟨?_, hwindow, ⟨rfl, by decide, by decide, by decide⟩, ?_⟩
  · rw [overlaps_eq, hwindow]
    simp only [Except.bind, hhits, Except.map, hnone]
  · exact idsRunningAt_nontrivial (runsAt_tenOClock rfl (by decide))
      (runsAt_tenOClock rfl (by decide)) (by decide)

end Scheduler

end CronLint
