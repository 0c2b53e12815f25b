import CronLint.Proofs.Projection

/-!
# Days and times of a recurrence

A recurrence runs at its times on its days. What a scheduler lists is settled by these: two
recurrences are projected alike, whatever is asked for, if and only if they have the same days in
the calendar and, if there are any, the same times.
-/
namespace CronLint

open Calendar

theorem Calendar.day_bounds (n : Nat) :
    1 ≤ (Date.ofDayNumber n).day ∧ (Date.ofDayNumber n).day ≤ 31 := by
  obtain ⟨-, -, hfirst, hlast⟩ := (exists?_iff _).mp (ofDayNumber_exists n)
  exact ⟨hfirst, hlast.trans (daysInMonth_le _ _)⟩

theorem Calendar.weekday_le (n : Nat) : weekday n ≤ 6 :=
  Nat.le_of_lt_succ (Nat.mod_lt _ (by decide))

namespace Recurrence

variable {raw : Fields String} {r r' : Recurrence}

theorem onDay_iff (h : ofFields raw = .ok r) (n : Nat) :
    r.onDay n = true ↔ Position.month.Admits raw.month (Date.ofDayNumber n).month ∧
      (Restricted raw.dayOfMonth ∧ Restricted raw.dayOfWeek →
        Position.dayOfMonth.Admits raw.dayOfMonth (Date.ofDayNumber n).day ∨
          Position.dayOfWeek.Admits raw.dayOfWeek (weekday n)) ∧
      (¬ (Restricted raw.dayOfMonth ∧ Restricted raw.dayOfWeek) →
        Position.dayOfMonth.Admits raw.dayOfMonth (Date.ofDayNumber n).day ∧
          Position.dayOfWeek.Admits raw.dayOfWeek (weekday n)) := by
  have hread := ofFields_eq_ok_iff.mp h
  have hday := ValueSet.mem_of_read (hread .dayOfMonth) (Date.ofDayNumber n).day
  have hmonth := ValueSet.mem_of_read (hread .month) (Date.ofDayNumber n).month
  have hweek := ValueSet.mem_of_read (hread .dayOfWeek) (weekday n)
  simp only [Fields.get] at hday hmonth hweek
  rw [← hday, ← hmonth, ← hweek, ← Scheduler.eitherDay_iff h]
  simp only [onDay, Bool.and_eq_true, List.contains_iff_mem]
  cases r.eitherDay <;> simp

theorem atTime_iff (r : Recurrence) (hour minute : Nat) (hminute : minute < 60) :
    r.atTime (hour * 60 + minute) = true ↔
      hour ∈ r.sets.hour.values ∧ minute ∈ r.sets.minute.values := by
  have hdiv : (hour * 60 + minute) / 60 = hour := by omega
  have hmod : (hour * 60 + minute) % 60 = minute := by omega
  rw [atTime, hdiv, hmod, Bool.and_eq_true, List.contains_iff_mem, List.contains_iff_mem]

theorem exists_atTime (h : ofFields raw = .ok r) : ∃ k < 1440, r.atTime k = true := by
  have hread := ofFields_eq_ok_iff.mp h
  obtain ⟨hour, hhour⟩ :=
    List.exists_mem_of_ne_nil _ (ValueSet.values_ne_nil_of_read (hread .hour))
  obtain ⟨minute, hminute⟩ :=
    List.exists_mem_of_ne_nil _ (ValueSet.values_ne_nil_of_read (hread .minute))
  have hhigh : hour ≤ 23 := ((Scheduler.ordered_of_ofFields h .hour).bounded hour hhour).2
  have hhigh' : minute ≤ 59 := ((Scheduler.ordered_of_ofFields h .minute).bounded minute hminute).2
  refine ⟨hour * 60 + minute, by omega, ?_⟩
  rw [atTime_iff r hour minute (by omega)]
  exact ⟨hhour, hminute⟩

theorem runsAt_minute (r : Recurrence) (n : Nat) {k : Nat} (hk : k < 1440) :
    r.runsAt (n * 1440 + k) = (r.onDay n && r.atTime k) := by
  have hdiv : (n * 1440 + k) / 1440 = n := by omega
  have hmod : (n * 1440 + k) % 1440 = k := by omega
  rw [runsAt, hdiv, hmod]

/-- Two recurrences run in the same minutes of a stretch of days if and only if they have the same
days there and, if there are any, the same times. -/
theorem runsAt_eq_iff (h : ofFields raw = .ok r) {raw' : Fields String}
    (h' : ofFields raw' = .ok r') (first last : Nat) :
    (∀ m, first * 1440 ≤ m → m < last * 1440 → r'.runsAt m = r.runsAt m) ↔
      (∀ n, first ≤ n → n < last → r'.onDay n = r.onDay n) ∧
        ((∃ n, (first ≤ n ∧ n < last) ∧ r.onDay n = true) →
          ∀ k < 1440, r'.atTime k = r.atTime k) := by
  constructor
  · intro hruns
    have hminute {n k : Nat} (hn : first ≤ n ∧ n < last) (hk : k < 1440) :
        (r'.onDay n && r'.atTime k) = (r.onDay n && r.atTime k) := by
      rw [← runsAt_minute r' n hk, ← runsAt_minute r n hk]
      exact hruns _ (by omega) (by omega)
    have hdays (n : Nat) (hlow : first ≤ n) (hhigh : n < last) : r'.onDay n = r.onDay n := by
      obtain ⟨k, hk, htime⟩ := exists_atTime h
      obtain ⟨k', hk', htime'⟩ := exists_atTime h'
      have hthere := hminute ⟨hlow, hhigh⟩ hk
      have hback := hminute ⟨hlow, hhigh⟩ hk'
      rw [htime, Bool.and_true] at hthere
      rw [htime', Bool.and_true] at hback
      cases hon : r.onDay n with
      | true =>
        rw [hon, Bool.and_eq_true] at hthere
        exact hthere.1
      | false => rw [hback, hon, Bool.false_and]
    refine ⟨hdays, ?_⟩
    rintro ⟨n, hn, hon⟩ k hk
    have htimes := hminute hn hk
    rwa [hdays n hn.1 hn.2, hon, Bool.true_and, Bool.true_and] at htimes
  · rintro ⟨hdays, htimes⟩ m hlow hhigh
    have hn : first ≤ m / 1440 ∧ m / 1440 < last := by omega
    rw [runsAt, runsAt, hdays _ hn.1 hn.2]
    cases hon : r.onDay (m / 1440) with
    | true => rw [htimes ⟨_, hn, hon⟩ _ (Nat.mod_lt _ (by decide))]
    | false => rfl

end Recurrence

namespace Scheduler

variable {r r' : Recurrence}

theorem firstMinute_le_minuteAfter (start : Instant) : firstMinute ≤ minuteAfter start :=
  le_max_left _ _

theorem minuteUntil_le_lastMinute (horizon : Option Instant) :
    minuteUntil horizon ≤ lastMinute := by
  cases horizon with
  | none => exact le_rfl
  | some h => exact min_le_left _ _

/-- The last instant before 1970. -/
def beforeEpoch : Instant := .utc (epochDay * microsPerDay - 1)

theorem project_all (h : r.OrderedTimes) : project r beforeEpoch (lastMinute + 1 : Nat) none =
    .ok ((r.runsBetween firstMinute lastMinute).map minuteInstant) := by
  have hfirst : minuteAfter (.utc beforeEpoch.micros) = firstMinute := by decide
  have hlength : (r.runsBetween firstMinute lastMinute).length ≤ lastMinute + 1 := by
    apply (List.length_filter_le _ _).trans
    rw [List.length_range']
    exact Nat.sub_le _ _
  rw [project_of_horizonInCalendar h (by decide) (by decide) (by decide) (by simp),
    Int.toNat_natCast, runs, ← List.map_take, hfirst]
  change Except.ok (((r.runsBetween firstMinute lastMinute).take (lastMinute + 1)).map _) = _
  rw [List.take_of_length_le hlength]

theorem minuteInstant_injective : Function.Injective minuteInstant := by
  intro m n h
  have hwall : (m : Int) * microsPerMinute = n * microsPerMinute := congrArg Instant.wall h
  exact_mod_cast mul_right_cancel₀ (by decide) hwall

/-- Recurrences with the same list of all runs run in the same minutes of the calendar. -/
theorem runsAt_eq_of_project_all (h : r.OrderedTimes) (h' : r'.OrderedTimes)
    (hall : project r' beforeEpoch (lastMinute + 1 : Nat) none =
      project r beforeEpoch (lastMinute + 1 : Nat) none) {m : Nat} (hfirst : firstMinute ≤ m)
    (hlast : m ≤ lastMinute) : r'.runsAt m = r.runsAt m := by
  rw [project_all h, project_all h', Except.ok.injEq] at hall
  have hruns := List.map_injective_iff.mpr minuteInstant_injective hall
  have hmem {q : Recurrence} : m ∈ q.runsBetween firstMinute lastMinute ↔ q.runsAt m = true := by
    rw [Recurrence.mem_runsBetween]
    exact and_iff_right ⟨hfirst, hlast⟩
  rw [Bool.eq_iff_iff, ← hmem, ← hmem, hruns]

theorem project_eq_of_runsAt (h : r.OrderedTimes) (h' : r'.OrderedTimes)
    (hruns : ∀ m, firstMinute ≤ m → m ≤ lastMinute → r'.runsAt m = r.runsAt m) (start : Instant)
    (count : Int) (horizon : Option Instant) :
    project r' start count horizon = project r start count horizon := by
  have hupcoming (start : Instant) (horizon : Option Instant) (count : Nat) :
      r'.upcoming (minuteAfter start) (minuteUntil horizon) count =
        r.upcoming (minuteAfter start) (minuteUntil horizon) count := by
    rw [Recurrence.upcoming_eq h, Recurrence.upcoming_eq h', Recurrence.runsBetween,
      Recurrence.runsBetween]
    congr 1
    apply List.filter_congr
    intro m hm
    rw [List.mem_range'_1] at hm
    have hfirst := firstMinute_le_minuteAfter start
    have hlast := minuteUntil_le_lastMinute horizon
    exact hruns m (by omega) (by omega)
  simp only [project, hupcoming]

end Scheduler

theorem mapError_calendar_injective {x y : Except CalendarError (List Instant)}
    (h : x.mapError ScheduleError.calendar = y.mapError ScheduleError.calendar) : x = y := by
  cases x <;> cases y <;> simp_all [Except.mapError]

/-- Asked for runs after an instant from the last one before 1970 to the last but one second of the
calendar, the scheduler has the same answers for both expressions. -/
def Scheduler.RunsAlike (s : Scheduler) (e e' : String) : Prop :=
  ∀ start count horizon, epochDay * microsPerDay ≤ start.micros + 1 →
    start.micros < calendarEnd - microsPerSecond →
      s.next e' start count horizon = s.next e start count horizon

section

variable {e e' : String} {r r' : Recurrence}

/-- Two expressions have the same runs if and only if they have the same days from 1970 to 9999 and,
if there are any, the same times. -/
theorem calendarScheduler_runsAlike_iff (h : Recurrence.ofExpression e = .ok r)
    (h' : Recurrence.ofExpression e' = .ok r') : calendarScheduler.RunsAlike e e' ↔
      (∀ n, epochDay ≤ n → n < dayCount → r'.onDay n = r.onDay n) ∧
        ((∃ n, (epochDay ≤ n ∧ n < dayCount) ∧ r.onDay n = true) →
          ∀ k < 1440, r'.atTime k = r.atTime k) := by
  obtain ⟨raw, -, hraw⟩ := Recurrence.ofExpression_eq_ok_iff.mp h
  obtain ⟨raw', -, hraw'⟩ := Recurrence.ofExpression_eq_ok_iff.mp h'
  have hordered := Scheduler.orderedTimes_of_ofFields hraw
  have hordered' := Scheduler.orderedTimes_of_ofFields hraw'
  rw [← Recurrence.runsAt_eq_iff hraw hraw']
  have hlast := Scheduler.lastMinute_succ
  constructor
  · intro halike m hlow hhigh
    have hsame := halike Scheduler.beforeEpoch (Scheduler.lastMinute + 1 : Nat) none (by decide)
      (by decide)
    rw [calendarScheduler_next_of_ok h, calendarScheduler_next_of_ok h'] at hsame
    exact Scheduler.runsAt_eq_of_project_all hordered hordered' (mapError_calendar_injective hsame)
      hlow (by omega)
  · intro hruns start count horizon _ _
    rw [calendarScheduler_next_of_ok h, calendarScheduler_next_of_ok h',
      Scheduler.project_eq_of_runsAt hordered hordered' fun m hfirst hlast =>
        hruns m hfirst (by omega)]

/-- Then the calendar has the same answers whatever is asked for. -/
theorem calendarScheduler_next_eq_iff (h : Recurrence.ofExpression e = .ok r)
    (h' : Recurrence.ofExpression e' = .ok r') :
    (∀ start count horizon, calendarScheduler.next e' start count horizon =
      calendarScheduler.next e start count horizon) ↔ calendarScheduler.RunsAlike e e' := by
  refine ⟨fun hnext start count horizon _ _ => hnext start count horizon, ?_⟩
  intro halike start count horizon
  obtain ⟨raw, -, hraw⟩ := Recurrence.ofExpression_eq_ok_iff.mp h
  obtain ⟨raw', -, hraw'⟩ := Recurrence.ofExpression_eq_ok_iff.mp h'
  have hruns := (Recurrence.runsAt_eq_iff hraw hraw' epochDay dayCount).mpr
    ((calendarScheduler_runsAlike_iff h h').mp halike)
  have hlast := Scheduler.lastMinute_succ
  rw [calendarScheduler_next_of_ok h, calendarScheduler_next_of_ok h',
    Scheduler.project_eq_of_runsAt (Scheduler.orderedTimes_of_ofFields hraw)
      (Scheduler.orderedTimes_of_ofFields hraw') fun m hfirst hlast => hruns m hfirst (by omega)]

end

end CronLint
