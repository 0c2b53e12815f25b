import CronLint.Analysis.Validator
import CronLint.Proofs.Horizons
import CronLint.Proofs.Triggers

/-!
# Schedules without runs

A schedule is empty if no run comes by the horizon of a clock reading. The scheduler that reckons
with the calendar and one built on a reliable clockwork come to the same verdict, and each always
comes to one.
-/
namespace CronLint

open Calendar

namespace Scheduler

variable {s : Scheduler} {start : Instant} {count : Int} {horizon : Option Instant} {e : String}
  {r : Recurrence}

theorem FollowsCalendar.next_eq_runs (h : s.FollowsCalendar)
    (hr : Recurrence.ofExpression e = .ok r) (since : epochDay * microsPerDay ≤ start.micros)
    (before : start.micros < calendarEnd - microsPerSecond) (hcount : 0 < count)
    (hhorizon : ∀ h ∈ horizon, h.InCalendar) :
    s.next e start count horizon = .ok ((runs r start horizon).take count.toNat) := by
  obtain ⟨raw, -, hraw⟩ := Recurrence.ofExpression_eq_ok_iff.mp hr
  have hepoch : (0 : Int) ≤ epochDay * microsPerDay := by decide
  rw [h.next_eq (by omega) before, calendarScheduler_next_of_ok hr,
    project_of_horizonInCalendar (orderedTimes_of_ofFields hraw) (hepoch.trans since) before hcount
      hhorizon]
  rfl

end Scheduler

namespace Calendar.Instant

variable {now : Instant}

/-- A clock reading can be asked for runs after it. -/
theorem IsClockReading.before_end (h : now.IsClockReading) :
    now.micros < calendarEnd - microsPerSecond := by
  have hbefore := h.micros_bounds.2
  have hend : daysBeforeYear 9991 * microsPerDay ≤ calendarEnd - microsPerSecond := by decide
  omega

end Calendar.Instant

namespace Validator

variable {v : Validator} {e : String} {r : Recurrence}

/-- An accepted expression is empty if it has no run by the horizon. -/
theorem isEmptySchedule_of_accepted (hv : v.scheduler.FollowsCalendar) (hnow : v.now.IsClockReading)
    (hr : Recurrence.ofExpression e = .ok r) {later : Instant}
    (hlater : v.now.addYears emptyHorizonYears = .ok later) :
    v.isEmptySchedule e = .ok (Scheduler.runs r v.now (some later)).isEmpty := by
  obtain ⟨later', hlater', hclock, hcalendar, -⟩ := hnow.exists_later
  obtain rfl : later' = later := Except.ok.inj (hlater'.symm.trans hlater)
  have hnext : v.scheduler.next e v.now 1 (some later') =
      .ok ((Scheduler.runs r v.now (some later')).take 1) :=
    hv.next_eq_runs hr hnow.micros_bounds.1 hnow.before_end (by decide) (by simpa using hcalendar)
  obtain ⟨raw, -, hraw⟩ := Recurrence.ofExpression_eq_ok_iff.mp hr
  have hsince := hnow.micros_bounds.1
  have hmem (t : Instant) : t ∈ Scheduler.runs r v.now (some later') ↔
      IsRun raw v.now (some later') t :=
    Scheduler.mem_runs_iff hraw (by omega) t
  unfold isEmptySchedule
  rw [hlater]
  simp only [bind, Except.bind, hnext]
  cases hruns : Scheduler.runs r v.now (some later') with
  | nil => rfl
  | cons t rest =>
    have hrun := (hmem t).mp (hruns ▸ List.mem_cons_self)
    have hby := hrun.byHorizon later' rfl
    obtain ⟨offset, hoffset, -⟩ := hnow.zone
    have helapsed : later'.isBefore t = .ok false := by
      simp only [Instant.isBefore, Instant.elapsed, hclock, hoffset, hrun.utc, Option.isSome_some,
        if_true, Except.map]
      rw [decide_eq_false (by omega)]
    simp [helapsed]

theorem isEmptySchedule_of_rejected (hv : v.scheduler.FollowsCalendar)
    (hnow : v.now.IsClockReading) (hr : ∀ r, Recurrence.ofExpression e ≠ .ok r) :
    v.isEmptySchedule e = .ok true := by
  obtain ⟨later, hlater, -⟩ := hnow.exists_later
  have hlater : v.now.addYears emptyHorizonYears = .ok later := hlater
  obtain ⟨rejection, hnext⟩ := calendarScheduler_next_of_rejected hr v.now 1 (some later)
  unfold isEmptySchedule
  rw [hlater]
  have hsince := hnow.micros_bounds.1
  simp only [bind, Except.bind, hv.next_eq (by omega) hnow.before_end, hnext]
  rfl

theorem exists_isEmptySchedule (hv : v.scheduler.FollowsCalendar) (hnow : v.now.IsClockReading)
    (e : String) : ∃ empty, v.isEmptySchedule e = .ok empty := by
  by_cases hr : ∃ r, Recurrence.ofExpression e = .ok r
  · obtain ⟨r, hr⟩ := hr
    obtain ⟨later, hlater, -⟩ := hnow.exists_later
    exact ⟨_, isEmptySchedule_of_accepted hv hnow hr hlater⟩
  · exact ⟨true, isEmptySchedule_of_rejected hv hnow (not_exists.mp hr)⟩

end Validator

end CronLint
