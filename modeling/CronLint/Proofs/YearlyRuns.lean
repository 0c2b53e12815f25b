import CronLint.Proofs.Clockwork
import CronLint.Proofs.Findings
import CronLint.Proofs.RunDays

/-!
# Which schedules are empty

A restricted day of the week brings runs in every month that is admitted, and an unrestricted one
leaves the days to the day of the month: a date of a common year comes back within the horizon, and
29 February alone may stay away. So a schedule counts as empty only if it waits for a 29 February
beyond the horizon, or for a date that no year has.
-/
namespace CronLint

open Calendar

def HasWildcard (raw : String) : Prop := ∃ member ∈ Field.members raw, Position.IsWildcard member

theorem not_restricted_iff {raw : String} : ¬ Restricted raw ↔ HasWildcard raw := by
  simp only [Restricted, HasWildcard, not_forall, not_not, exists_prop]

/-- The month and the day of the month admit a date of a common year. -/
def Fields.AdmitCommonDate (raw : Fields String) : Prop :=
  ∃ month day : Nat, Position.month.Admits raw.month month ∧
    Position.dayOfMonth.Admits raw.dayOfMonth day ∧ IsCommonDate month day

theorem Position.admits_of_hasWildcard {p : Position} {raw : String} {v : Int}
    (h : HasWildcard raw) (hv : p.low ≤ v ∧ v ≤ p.high) : p.Admits raw v := by
  obtain ⟨member, hmember, hwildcard⟩ := h
  obtain ⟨step, hstretch, hstep⟩ :
      ∃ step, p.Stretch member p.low p.high step ∧ step ∣ v - p.low := by
    rcases hwildcard with rfl | ⟨s, rfl, hs⟩
    · exact ⟨1, .plain .every, one_dvd _⟩
    · exact ⟨1, .stepped .every ⟨hs, by decide⟩, one_dvd _⟩
  exact ⟨member, hmember, _, _, step, hstretch, hv.1, hv.2, hstep⟩

section

variable {raw : Fields String} {r : Recurrence} {start later t : Instant}

namespace Recurrence

/-- A restricted day of the week brings a run within 373 days. -/
theorem exists_onDay_of_restricted (h : ofFields raw = .ok r) (hweek : Restricted raw.dayOfWeek)
    (n : Nat) : ∃ k, (n < k ∧ k ≤ n + 373) ∧ r.onDay k = true := by
  have hread := ofFields_eq_ok_iff.mp h
  obtain ⟨month, hmonth⟩ :=
    List.exists_mem_of_ne_nil _ (ValueSet.values_ne_nil_of_read (hread .month))
  obtain ⟨day, hday⟩ :=
    List.exists_mem_of_ne_nil _ (ValueSet.values_ne_nil_of_read (hread .dayOfWeek))
  have hbounds : day ≤ 6 := ((Scheduler.ordered_of_ofFields h .dayOfWeek).bounded day hday).2
  obtain ⟨k, hk, hkmonth, hkday⟩ := exists_weekday_after
    ((Scheduler.ordered_of_ofFields h .month).bounded month hmonth) (show day < 7 by omega) n
  have hmonth := (ValueSet.mem_of_read (hread .month) month).mp hmonth
  have hday := (ValueSet.mem_of_read (hread .dayOfWeek) day).mp hday
  refine ⟨k, hk, ?_⟩
  rw [onDay_iff h, hkmonth, hkday]
  refine ⟨hmonth, fun _ => Or.inr hday, fun hboth => ⟨?_, hday⟩⟩
  -- The day of the month has a wildcard, so it admits all of its values.
  have hwildcard : HasWildcard raw.dayOfMonth :=
    not_restricted_iff.mp fun hrestricted => hboth ⟨hrestricted, hweek⟩
  obtain ⟨hfirst, hlast⟩ := day_bounds k
  exact Position.admits_of_hasWildcard hwildcard
    ⟨by exact_mod_cast hfirst, by exact_mod_cast hlast⟩

theorem exists_onDay_of_commonDate (h : ofFields raw = .ok r) (hweek : HasWildcard raw.dayOfWeek)
    (hdate : raw.AdmitCommonDate) (n : Nat) :
    ∃ k, (n < k ∧ k ≤ n + 367) ∧ r.onDay k = true := by
  obtain ⟨month, day, hmonth, hday, hcommon⟩ := hdate
  obtain ⟨k, y, hk, -, hkdate⟩ := hcommon.exists_after n
  refine ⟨k, hk, ?_⟩
  rw [onDay_iff h, hkdate]
  refine ⟨hmonth, fun hboth => Or.inl hday, fun _ => ⟨hday, ?_⟩⟩
  exact Position.admits_of_hasWildcard hweek
    ⟨by exact_mod_cast Nat.zero_le _, by exact_mod_cast weekday_le k⟩

theorem exists_isRun_of_onDay (h : ofFields raw = .ok r) {n : Nat} (hn : r.onDay n = true)
    (after : start.micros < n * microsPerDay) (byHorizon : (n + 1) * microsPerDay ≤ later.micros)
    (hlater : later.InCalendar) : ∃ t, IsRun raw start (some later) t := by
  obtain ⟨k, hk, htime⟩ := exists_atTime h
  have hdiv : (n * 1440 + k) / 1440 = n := by omega
  have hruns : r.runsAt (n * 1440 + k) = true := by
    rw [runsAt_minute r n hk, hn, htime]
    rfl
  have hmicros : (Scheduler.minuteInstant (n * 1440 + k)).micros =
      n * microsPerDay + k * microsPerMinute := by
    simp only [Scheduler.minuteInstant_micros, microsPerDay, microsPerHour]
    push_cast
    ring
  have hminute : (0 : Int) ≤ k * microsPerMinute ∧ k * microsPerMinute < microsPerDay := by
    simp only [microsPerDay, microsPerHour, microsPerMinute, microsPerSecond]
    omega
  rw [add_mul, one_mul] at byHorizon
  refine ⟨_, ⟨⟨rfl, Dvd.intro_left _ rfl, ?_, ?_, ?_⟩,
    (Scheduler.match_minuteInstant_iff h _).mpr hruns⟩⟩
  · rw [hmicros]
    omega
  · rintro _ ⟨⟩
    rw [hmicros]
    omega
  · rw [Scheduler.date_minuteInstant, hdiv, year_le_lastYear_iff]
    have hend := hlater.2
    have hdays : (n : Int) * microsPerDay < dayCount * microsPerDay := by
      change _ < calendarEnd
      omega
    exact_mod_cast lt_of_mul_lt_mul_right hdays (by decide)

end Recurrence

/-- A day with runs brings one by the horizon of a clock reading, if it comes after the reading's
day and no more than 373 days later: the horizon lies at least 729 days ahead. -/
theorem Recurrence.exists_isRun_of_soon (h : ofFields raw = .ok r)
    (reading : start.IsClockReading) (hlater : start.addYears 2 = .ok later) {k : Nat}
    (hk : (start.micros / microsPerDay).toNat < k ∧
      k ≤ (start.micros / microsPerDay).toNat + 373) (hon : r.onDay k = true) :
    ∃ t, IsRun raw start (some later) t := by
  obtain ⟨later', hlater', -, hcalendar, hfar⟩ := reading.exists_later
  obtain rfl : later' = later := Except.ok.inj (hlater'.symm.trans hlater)
  have hsince := reading.micros_bounds.1
  have hepoch : (0 : Int) ≤ epochDay * microsPerDay := by decide
  have hday : (0 : Int) < microsPerDay := by decide
  have hdiv : 0 ≤ start.micros / microsPerDay := Int.ediv_nonneg (by omega) hday.le
  have htoday := Int.emod_add_ediv_mul start.micros microsPerDay
  have hrest := Int.emod_nonneg start.micros hday.ne'
  have hrest' := Int.emod_lt_of_pos start.micros hday
  have hfirst : (start.micros / microsPerDay + 1) * microsPerDay ≤ (k : Int) * microsPerDay :=
    mul_le_mul_of_nonneg_right (by omega) hday.le
  have hlast : ((k : Int) + 1) * microsPerDay ≤
      (start.micros / microsPerDay + 374) * microsPerDay :=
    mul_le_mul_of_nonneg_right (by omega) hday.le
  rw [add_mul] at hfirst
  rw [add_mul _ 374] at hlast
  exact exists_isRun_of_onDay h hon (by omega) (by omega) hcalendar

/-- A run of fields without a common date is on a 29 February. -/
theorem IsRun.leapDay (h : IsRun raw start (some later) t) (hweek : HasWildcard raw.dayOfWeek)
    (hdate : ¬ raw.AdmitCommonDate) : t.date.month = 2 ∧ t.date.day = 29 := by
  have hboth := h.matched.bothDays fun hrestricted => not_restricted_iff.mpr hweek hrestricted.2
  apply eq_leapDay_of_not_common (ofDayNumber_exists _)
  intro hcommon
  exact hdate ⟨_, _, h.matched.month, hboth.1, hcommon⟩

/-- Which accepted expressions have no run within two years of a clock reading. -/
theorem Scheduler.runs_isEmpty_iff (h : Recurrence.ofFields raw = .ok r)
    (reading : start.IsClockReading) (hlater : start.addYears 2 = .ok later) :
    (runs r start (some later)).isEmpty = true ↔ HasWildcard raw.dayOfWeek ∧
      ¬ raw.AdmitCommonDate ∧
      ∀ t, IsRun raw start (some later) t → ¬ (t.date.month = 2 ∧ t.date.day = 29) := by
  have hsince := reading.micros_bounds.1
  have hmem (t : Instant) : t ∈ runs r start (some later) ↔ IsRun raw start (some later) t :=
    mem_runs_iff h (by omega) t
  rw [List.isEmpty_iff, List.eq_nil_iff_forall_not_mem]
  simp only [hmem]
  constructor
  · intro hnone
    have hnone' : ¬ ∃ t, IsRun raw start (some later) t := fun ⟨t, ht⟩ => hnone t ht
    have hweek : HasWildcard raw.dayOfWeek := by
      by_contra hrestricted
      rw [← not_restricted_iff, not_not] at hrestricted
      obtain ⟨k, hk, hon⟩ := Recurrence.exists_onDay_of_restricted h hrestricted _
      exact hnone' (Recurrence.exists_isRun_of_soon h reading hlater hk hon)
    refine ⟨hweek, ?_, fun t ht => absurd ht (hnone t)⟩
    intro hdate
    obtain ⟨k, hk, hon⟩ := Recurrence.exists_onDay_of_commonDate h hweek hdate _
    exact hnone' (Recurrence.exists_isRun_of_soon h reading hlater ⟨hk.1, by omega⟩ hon)
  · rintro ⟨hweek, hdate, hleap⟩ t ht
    exact hleap t ht (ht.leapDay hweek hdate)

end

namespace Validator

variable {v : Validator} {e : String}

/-- An accepted expression is found empty, and reported as such, if and only if its day of the week
is unrestricted, its month and day of the month admit no date of a common year, and no 29 February
within two years of the clock reading has a run. -/
theorem isEmptySchedule_iff (follows : v.scheduler.FollowsCalendar)
    (accepted : v.scheduler.validate e = .ok ()) (reading : v.now.IsClockReading) :
    ∃ raw later empty, Spells e raw ∧
      v.now.addYears emptyHorizonYears = .ok later ∧ v.isEmptySchedule e = .ok empty ∧
      (empty = true ↔ HasWildcard raw.dayOfWeek ∧ ¬ raw.AdmitCommonDate ∧
        ∀ t, IsRun raw v.now (some later) t → ¬ (t.date.month = 2 ∧ t.date.day = 29)) ∧
      ∀ s line command, ∃ report, v.scheduleReport s e line command = .ok report ∧
        (.emptySchedule ∈ report.codes ↔ empty = true) := by
  rw [follows.validate_eq, calendarScheduler_validate_eq_ok_iff] at accepted
  obtain ⟨r, hr⟩ := accepted
  obtain ⟨raw, hspells, hraw⟩ := Recurrence.ofExpression_eq_ok_iff.mp hr
  obtain ⟨later, hlater, -⟩ := reading.exists_later
  have hempty := isEmptySchedule_of_accepted follows reading hr hlater
  have hnone := Scheduler.runs_isEmpty_iff hraw reading hlater
  refine ⟨raw, later, _, hspells, hlater, hempty, hnone, ?_⟩
  intro s line command
  obtain ⟨report, hreport, -, hverdict⟩ := exists_report_iff follows hempty s line command
  exact ⟨report, hreport, hverdict⟩

/-- The 30 February never comes, here for a clock behind UTC and triggers that are asked. -/
theorem isEmptySchedule_thirtiethOfFebruary :
    (⟨{ scheduler := triggerScheduler searching }, {},
      ⟨Instant.wallAt ⟨2096, 2, 29⟩ 0, some (-18000)⟩⟩ : Validator).isEmptySchedule
        "0 0 30 feb */1" = .ok true := by
  obtain ⟨raw, later, empty, hspells, -, hempty, hiff, -⟩ := isEmptySchedule_iff
    (v := ⟨{ scheduler := triggerScheduler searching }, {},
      ⟨Instant.wallAt ⟨2096, 2, 29⟩ 0, some (-18000)⟩⟩) (e := "0 0 30 feb */1")
    (Or.inr ⟨searching, searching_reliable, rfl⟩) (by decide)
    ⟨⟨-18000, by decide⟩, by decide, by decide⟩
  have hfields : Spells "0 0 30 feb */1" ⟨"0", "0", "30", "feb", "*/1"⟩ :=
    .asWords (by decide) (by decide)
  obtain rfl := hfields.unique hspells
  have hfebruary : ValueSet.read .month "feb" = .ok ⟨[2], false⟩ := by decide
  have hthirtieth : ValueSet.read .dayOfMonth "30" = .ok ⟨[30], false⟩ := by decide
  have hwildcard : HasWildcard "*/1" := ⟨['*', '/', '1'], by decide, Or.inr ⟨['1'], by decide⟩⟩
  rw [hempty, hiff.mpr ⟨hwildcard, ?_, ?_⟩]
  · rintro ⟨m, d, hm, hd, y, hy, hdate⟩
    obtain rfl := List.mem_singleton.mp ((ValueSet.mem_of_read hfebruary m).mpr hm)
    obtain rfl := List.mem_singleton.mp ((ValueSet.mem_of_read hthirtieth d).mpr hd)
    have hlast := ((exists?_iff _).mp hdate).2.2.2
    simp [daysInMonth, hy, monthLengths] at hlast
  · intro t ht hleap
    have hboth := ht.matched.bothDays fun h => not_restricted_iff.mpr hwildcard h.2
    have := List.mem_singleton.mp ((ValueSet.mem_of_read hthirtieth _).mpr hboth.1)
    omega

end Validator

end CronLint
