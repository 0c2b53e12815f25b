import CronLint.Proofs.Answers

/-!
# How many runs to ask for

A recurrence runs once in a minute at most. A request for as many runs as there are whole minutes up
to the horizon is therefore a request for all of them, and a larger limit changes nothing.
-/
namespace CronLint

open Calendar

namespace Scheduler

variable {s : Scheduler} {r : Recurrence} {start stop : Instant} {count : Int}

theorem length_runs_le (r : Recurrence) (nonneg : 0 ≤ start.micros) :
    ((runs r start (some stop)).length : Int) ≤
      max 0 (stop.micros / microsPerMinute - start.micros / microsPerMinute) := by
  have hlength : (runs r start (some stop)).length ≤
      minuteUntil (some (.utc stop.micros)) + 1 - minuteAfter (.utc start.micros) := by
    rw [runs, List.length_map, Recurrence.runsBetween]
    exact (List.length_filter_le _ _).trans_eq List.length_range'
  have hfirst : (start.micros / microsPerMinute + 1).toNat ≤ minuteAfter (.utc start.micros) :=
    le_max_right _ _
  have hlast : minuteUntil (some (.utc stop.micros)) ≤ (stop.micros / microsPerMinute).toNat :=
    min_le_right _ _
  have hquotient : 0 ≤ start.micros / microsPerMinute := Int.ediv_nonneg nonneg (by decide)
  omega

theorem FollowsCalendarFrom.next_eq_all (h : s.FollowsCalendarFrom start)
    (nonneg : 0 ≤ start.micros) (before : start.micros < calendarEnd - microsPerSecond)
    (hstop : stop.InCalendar)
    (hcount : stop.micros / microsPerMinute - start.micros / microsPerMinute ≤ count) (e : String) :
    s.next e start count (some stop) =
      match Recurrence.ofExpression e with
      | .ok r => .ok (runs r start (some stop))
      | .error fault => .error (.rejected fault.toRejection) := by
  rw [h.next_eq before]
  cases hr : Recurrence.ofExpression e with
  | error fault => simp only [calendarScheduler, hr]
  | ok r =>
    obtain ⟨raw, -, hraw⟩ := Recurrence.ofExpression_eq_ok_iff.mp hr
    have hlength : ((runs r start (some stop)).length : Int) ≤ _ := length_runs_le r nonneg
    rw [calendarScheduler_next_of_ok hr]
    rcases lt_or_ge 0 count with hpos | hnone
    · rw [project_of_horizonInCalendar (orderedTimes_of_ofFields hraw) nonneg before hpos
        (by simpa using hstop), List.take_of_length_le (by omega)]
      rfl
    · -- No run is asked for, and there is none.
      have hempty : runs r start (some stop) = [] := List.eq_nil_of_length_eq_zero (by omega)
      rw [project_of_nonpos hnone]
      dsimp only
      rw [hempty]
      rfl

/-- A limit is enough between two instants if a larger one changes nothing for any expression. -/
def LimitSuffices (s : Scheduler) (start stop : Instant) (limit : Int) : Prop :=
  ∀ e more, limit ≤ more → s.next e start more (some stop) = s.next e start limit (some stop)

theorem FollowsCalendarFrom.limitSuffices (h : s.FollowsCalendarFrom start)
    (nonneg : 0 ≤ start.micros) (before : start.micros < calendarEnd - microsPerSecond)
    (hstop : stop.InCalendar)
    (hcount : stop.micros / microsPerMinute - start.micros / microsPerMinute ≤ count) :
    s.LimitSuffices start stop count := by
  intro e more hmore
  rw [h.next_eq_all nonneg before hstop (hcount.trans hmore),
    h.next_eq_all nonneg before hstop hcount]

end Scheduler

end CronLint
