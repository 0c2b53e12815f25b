import CronLint.Proofs.Dates
import CronLint.Proofs.FirstRuns
import CronLint.Proofs.Grammar

/-!
# What the calendar scheduler lists

`Fields.Match` says when five fields match an instant, in terms of the grammar and of the clock and
date of the instant; `IsRun` adds the limits of a request. The list of a request is the beginning of
all such instants in ascending order. A horizon without a reading on a UTC clock is the one thing
that keeps an accepted expression from being projected.
-/
namespace CronLint

open Calendar

def Calendar.Instant.weekday (t : Instant) : Nat := Calendar.weekday (t.wall / microsPerDay).toNat

/-- What an instant shows in a position. -/
def Position.valueAt (p : Position) (t : Instant) : Nat :=
  match p with
  | .minute => t.minute
  | .hour => t.hour
  | .dayOfMonth => t.date.day
  | .month => t.date.month
  | .dayOfWeek => t.weekday

@[simp] theorem Position.valueAt_minute (t : Instant) : Position.minute.valueAt t = t.minute := rfl

@[simp] theorem Position.valueAt_hour (t : Instant) : Position.hour.valueAt t = t.hour := rfl

@[simp] theorem Position.valueAt_dayOfMonth (t : Instant) :
    Position.dayOfMonth.valueAt t = t.date.day := rfl

@[simp] theorem Position.valueAt_month (t : Instant) :
    Position.month.valueAt t = t.date.month := rfl

@[simp] theorem Position.valueAt_dayOfWeek (t : Instant) :
    Position.dayOfWeek.valueAt t = t.weekday := rfl

/-- Whether the instant has a reading on a UTC clock. -/
def Calendar.Instant.InCalendar (t : Instant) : Prop := 0 ≤ t.micros ∧ t.micros < calendarEnd

theorem Calendar.Instant.micros_of_utc {t : Instant} (h : t.offset = some 0) :
    t.micros = t.wall := by
  simp [micros, h]

theorem Calendar.Instant.year_le_lastYear {t : Instant} (utc : t.offset = some 0)
    (h : t.micros < calendarEnd) : t.date.year ≤ lastYear := by
  rw [micros_of_utc utc] at h
  have hday : t.wall / microsPerDay < dayCount := (Int.ediv_lt_iff_lt_mul (by decide)).mpr h
  have hpos : 0 < dayCount := by decide
  exact (year_le_lastYear_iff _).mpr (by omega)

/-- A field is restricted if none of its members is a wildcard. -/
def Restricted (raw : String) : Prop := ∀ member ∈ Field.members raw, ¬ Position.IsWildcard member

/-- The minute, the hour and the month of an instant have to be admitted. If both day fields are
restricted, one of them has to admit its day, else both have to. -/
structure Fields.Match (raw : Fields String) (t : Instant) : Prop where
  minute : Position.minute.Admits raw.minute t.minute
  hour : Position.hour.Admits raw.hour t.hour
  month : Position.month.Admits raw.month t.date.month
  eitherDay : Restricted raw.dayOfMonth ∧ Restricted raw.dayOfWeek →
    Position.dayOfMonth.Admits raw.dayOfMonth t.date.day ∨
      Position.dayOfWeek.Admits raw.dayOfWeek t.weekday
  bothDays : ¬ (Restricted raw.dayOfMonth ∧ Restricted raw.dayOfWeek) →
    Position.dayOfMonth.Admits raw.dayOfMonth t.date.day ∧
      Position.dayOfWeek.Admits raw.dayOfWeek t.weekday

/-- The whole minutes on a UTC clock after the start, no later than the horizon and no later than
year 9999. -/
structure InLimits (start : Instant) (horizon : Option Instant) (t : Instant) : Prop where
  utc : t.offset = some 0
  wholeMinute : microsPerMinute ∣ t.wall
  afterStart : start.micros < t.micros
  byHorizon : ∀ h ∈ horizon, t.micros ≤ h.micros
  byLastYear : t.date.year ≤ lastYear

/-- The minutes within the limits of a request that the fields match. -/
structure IsRun (raw : Fields String) (start : Instant) (horizon : Option Instant) (t : Instant) :
    Prop extends InLimits start horizon t where
  matched : raw.Match t

theorem isRun_iff {raw : Fields String} {start t : Instant} {horizon : Option Instant} :
    IsRun raw start horizon t ↔ InLimits start horizon t ∧ raw.Match t :=
  ⟨fun h => ⟨h.toInLimits, h.matched⟩, fun h => ⟨h.1, h.2⟩⟩

namespace Position

theorem valueAt_bounds (p : Position) (t : Instant) :
    p.low ≤ p.valueAt t ∧ p.valueAt t ≤ p.high := by
  obtain ⟨-, ⟨hmonth, hmonth12⟩, hday, hlast⟩ := exists?_iff t.date |>.mp (ofDayNumber_exists _)
  have h31 := daysInMonth_le t.date.year t.date.month
  cases p with
  | minute =>
    have : t.minute < 60 := Nat.mod_lt _ (by decide)
    exact ⟨Nat.zero_le _, Nat.le_of_lt_succ this⟩
  | hour =>
    have : t.hour < 24 := by
      simp only [Instant.hour, Instant.microOfDay, microsPerDay, microsPerHour, microsPerMinute,
        microsPerSecond]
      omega
    exact ⟨Nat.zero_le _, Nat.le_of_lt_succ this⟩
  | dayOfMonth => exact ⟨hday, hlast.trans h31⟩
  | month => exact ⟨hmonth, hmonth12⟩
  | dayOfWeek =>
    have : t.weekday < 7 := Nat.mod_lt _ (by decide)
    exact ⟨Nat.zero_le _, Nat.le_of_lt_succ this⟩

end Position

namespace Fields

variable {raw : Fields String} {t : Instant}

theorem match_iff_of_either (h : Restricted raw.dayOfMonth ∧ Restricted raw.dayOfWeek) :
    raw.Match t ↔
      (∀ p : Position, p ≠ .dayOfWeek → p.Admits (raw.get p) (p.valueAt t)) ∨
        ∀ p : Position, p ≠ .dayOfMonth → p.Admits (raw.get p) (p.valueAt t) := by
  constructor
  · intro hmatch
    refine (hmatch.eitherDay h).imp ?_ ?_
    · rintro hday (_ | _ | _ | _ | _) hp
      exacts [hmatch.minute, hmatch.hour, hday, hmatch.month, absurd rfl hp]
    · rintro hday (_ | _ | _ | _ | _) hp
      exacts [hmatch.minute, hmatch.hour, absurd rfl hp, hmatch.month, hday]
  · rintro (hall | hall)
    · exact ⟨hall .minute (by decide), hall .hour (by decide), hall .month (by decide),
        fun _ => Or.inl (hall .dayOfMonth (by decide)), fun hboth => absurd h hboth⟩
    · exact ⟨hall .minute (by decide), hall .hour (by decide), hall .month (by decide),
        fun _ => Or.inr (hall .dayOfWeek (by decide)), fun hboth => absurd h hboth⟩

theorem match_iff_of_both (h : ¬ (Restricted raw.dayOfMonth ∧ Restricted raw.dayOfWeek)) :
    raw.Match t ↔ ∀ p : Position, p.Admits (raw.get p) (p.valueAt t) := by
  constructor
  · intro hmatch p
    cases p with
    | minute => exact hmatch.minute
    | hour => exact hmatch.hour
    | dayOfMonth => exact (hmatch.bothDays h).1
    | month => exact hmatch.month
    | dayOfWeek => exact (hmatch.bothDays h).2
  · intro hall
    exact ⟨hall .minute, hall .hour, hall .month, fun heither => absurd heither h,
      fun _ => ⟨hall .dayOfMonth, hall .dayOfWeek⟩⟩

end Fields

theorem ValueSet.ordered_of_read {p : Position} {raw : String} {set : ValueSet}
    (h : ValueSet.read p raw = .ok set) : set.Ordered p := by
  obtain ⟨spans, -, rfl⟩ := read_eq_ok_iff.mp h
  exact ofSpans_ordered p spans

namespace Scheduler

variable {raw : Fields String} {r : Recurrence} {start : Instant} {count : Int}
  {horizon : Option Instant}

/-! ### Minutes and instants -/

theorem minuteInstant_wall (m : Nat) : (minuteInstant m).wall = m * microsPerMinute := rfl

theorem minuteInstant_micros (m : Nat) : (minuteInstant m).micros = m * microsPerMinute :=
  Instant.micros_utc _

theorem day_minuteInstant (m : Nat) :
    ((minuteInstant m).wall / microsPerDay).toNat = m / 1440 := by
  simp only [minuteInstant_wall, microsPerMinute, microsPerDay, microsPerHour, microsPerSecond]
  omega

theorem microOfDay_minuteInstant (m : Nat) :
    (minuteInstant m).microOfDay = m % 1440 * 60000000 := by
  simp only [Instant.microOfDay, minuteInstant_wall, microsPerMinute, microsPerDay, microsPerHour,
    microsPerSecond]
  omega

theorem date_minuteInstant (m : Nat) : (minuteInstant m).date = Date.ofDayNumber (m / 1440) := by
  rw [Instant.date, day_minuteInstant]

theorem weekday_minuteInstant (m : Nat) : (minuteInstant m).weekday = weekday (m / 1440) := by
  rw [Instant.weekday, day_minuteInstant]

theorem hour_minuteInstant (m : Nat) : (minuteInstant m).hour = m % 1440 / 60 := by
  rw [Instant.hour, microOfDay_minuteInstant]
  omega

theorem minute_minuteInstant (m : Nat) : (minuteInstant m).minute = m % 1440 % 60 := by
  rw [Instant.minute, microOfDay_minuteInstant]
  omega

theorem exists_minuteInstant {t : Instant} (utc : t.offset = some 0)
    (whole : microsPerMinute ∣ t.wall) (nonneg : 0 ≤ t.wall) : ∃ m, t = minuteInstant m := by
  obtain ⟨k, hk⟩ := whole
  have hpos : (0 : Int) < microsPerMinute := by decide
  have hk0 : 0 ≤ k := nonneg_of_mul_nonneg_right (hk ▸ nonneg) hpos
  obtain ⟨m, rfl⟩ := Int.eq_ofNat_of_zero_le hk0
  refine ⟨m, ?_⟩
  obtain ⟨wall, offset⟩ := t
  simp only at utc hk
  rw [utc, hk, Int.mul_comm]
  rfl

/-! ### Matching -/

theorem eitherDay_iff (h : Recurrence.ofFields raw = .ok r) :
    r.eitherDay = true ↔ Restricted raw.dayOfMonth ∧ Restricted raw.dayOfWeek := by
  have hread := Recurrence.ofFields_eq_ok_iff.mp h
  have hday := ValueSet.unrestricted_of_read (hread .dayOfMonth)
  have hweek := ValueSet.unrestricted_of_read (hread .dayOfWeek)
  simp only [Fields.get] at hday hweek
  simp only [Recurrence.eitherDay, Bool.and_eq_true, Bool.not_eq_true', ← Bool.not_eq_true, hday,
    hweek, Restricted, not_exists, not_and]

/-- When a recurrence runs, in terms of what the minute shows. -/
theorem runsAt_iff (r : Recurrence) (m : Nat) :
    r.runsAt m = true ↔
      Position.minute.valueAt (minuteInstant m) ∈ r.sets.minute.values ∧
      Position.hour.valueAt (minuteInstant m) ∈ r.sets.hour.values ∧
      Position.month.valueAt (minuteInstant m) ∈ r.sets.month.values ∧
      (r.eitherDay = true →
        Position.dayOfMonth.valueAt (minuteInstant m) ∈ r.sets.dayOfMonth.values ∨
          Position.dayOfWeek.valueAt (minuteInstant m) ∈ r.sets.dayOfWeek.values) ∧
      (¬ r.eitherDay = true →
        Position.dayOfMonth.valueAt (minuteInstant m) ∈ r.sets.dayOfMonth.values ∧
          Position.dayOfWeek.valueAt (minuteInstant m) ∈ r.sets.dayOfWeek.values) := by
  rw [Position.valueAt_minute, Position.valueAt_hour, Position.valueAt_dayOfMonth,
    Position.valueAt_month, Position.valueAt_dayOfWeek, minute_minuteInstant, hour_minuteInstant,
    date_minuteInstant, weekday_minuteInstant]
  simp only [Recurrence.runsAt, Recurrence.onDay, Recurrence.atTime, Bool.and_eq_true,
    List.contains_iff_mem]
  cases r.eitherDay with
  | true =>
    simp only [if_true, forall_const, not_true_eq_false, false_implies, and_true,
      Bool.or_eq_true, List.contains_iff_mem]
    constructor
    · rintro ⟨⟨hmo, hday⟩, hh, hm⟩
      exact ⟨hm, hh, hmo, hday⟩
    · rintro ⟨hm, hh, hmo, hday⟩
      exact ⟨⟨hmo, hday⟩, hh, hm⟩
  | false =>
    simp only [Bool.false_eq_true, if_false, not_false_eq_true, forall_const, false_implies,
      true_and, Bool.and_eq_true, List.contains_iff_mem]
    constructor
    · rintro ⟨⟨hmo, hday⟩, hh, hm⟩
      exact ⟨hm, hh, hmo, hday⟩
    · rintro ⟨hm, hh, hmo, hday⟩
      exact ⟨⟨hmo, hday⟩, hh, hm⟩

theorem match_minuteInstant_iff (h : Recurrence.ofFields raw = .ok r) (m : Nat) :
    raw.Match (minuteInstant m) ↔ r.runsAt m = true := by
  have hread := Recurrence.ofFields_eq_ok_iff.mp h
  have hminute := ValueSet.mem_of_read (hread .minute)
  have hhour := ValueSet.mem_of_read (hread .hour)
  have hday := ValueSet.mem_of_read (hread .dayOfMonth)
  have hmonth := ValueSet.mem_of_read (hread .month)
  have hweek := ValueSet.mem_of_read (hread .dayOfWeek)
  simp only [Fields.get] at hminute hhour hday hmonth hweek
  rw [runsAt_iff, eitherDay_iff h, hminute, hhour, hmonth, hday, hweek, Position.valueAt_minute,
    Position.valueAt_hour, Position.valueAt_dayOfMonth, Position.valueAt_month,
    Position.valueAt_dayOfWeek]
  constructor
  · rintro ⟨hm, hh, hmo, he, hb⟩
    exact ⟨hm, hh, hmo, he, hb⟩
  · rintro ⟨hm, hh, hmo, he, hb⟩
    exact ⟨hm, hh, hmo, he, hb⟩

/-! ### Limits -/

theorem lastMinute_succ : lastMinute + 1 = dayCount * 1440 := by decide

theorem year_minuteInstant_iff (m : Nat) :
    (minuteInstant m).date.year ≤ lastYear ↔ m ≤ lastMinute := by
  rw [date_minuteInstant, year_le_lastYear_iff]
  have := lastMinute_succ
  omega

theorem minuteAfter_le_iff (since : epochDay * microsPerDay ≤ start.micros + 1) (m : Nat) :
    minuteAfter (.utc start.micros) ≤ m ↔ start.micros < (minuteInstant m).micros := by
  have hfirst : minuteAfter (.utc start.micros) =
      max (epochDay * 1440) (start.micros / microsPerMinute + 1).toNat := rfl
  rw [minuteInstant_micros, hfirst]
  generalize epochDay = day at *
  simp only [microsPerMinute, microsPerDay, microsPerHour, microsPerSecond] at *
  omega

theorem le_minuteUntil_iff (m : Nat) :
    m ≤ minuteUntil (horizon.map fun h => .utc h.micros) ↔
      m ≤ lastMinute ∧ ∀ h ∈ horizon, (minuteInstant m).micros ≤ h.micros ∨ m = 0 := by
  cases horizon with
  | none => simp [minuteUntil]
  | some h =>
    simp only [minuteUntil, Option.map_some, Instant.utc, minuteInstant_micros, Option.mem_def,
      Option.some.injEq, forall_eq', le_min_iff, microsPerMinute, microsPerSecond]
    refine and_congr_right fun _ => ?_
    omega

/-- The minutes of a stretch are the whole minutes within the limits of a request. -/
theorem exists_minute_iff (since : epochDay * microsPerDay ≤ start.micros + 1) (t : Instant) :
    (∃ m, (minuteAfter (.utc start.micros) ≤ m ∧
        m ≤ minuteUntil (horizon.map fun h => .utc h.micros)) ∧ minuteInstant m = t) ↔
      InLimits start horizon t := by
  constructor
  · rintro ⟨m, ⟨hfirst, hlast⟩, rfl⟩
    rw [minuteAfter_le_iff since] at hfirst
    rw [le_minuteUntil_iff] at hlast
    have hpos : 0 < m := by
      simp only [minuteInstant_micros, microsPerDay, microsPerHour, microsPerMinute,
        microsPerSecond, epochDay] at hfirst since
      omega
    exact ⟨rfl, Dvd.intro_left _ rfl, hfirst, fun h hh => (hlast.2 h hh).resolve_right hpos.ne',
      (year_minuteInstant_iff m).mpr hlast.1⟩
  · rintro ⟨utc, whole, hstart, hhorizon, hyear⟩
    have hwall := Instant.micros_of_utc utc
    obtain ⟨m, rfl⟩ := exists_minuteInstant utc whole (by
      simp only [hwall, microsPerDay, microsPerHour, microsPerMinute, microsPerSecond,
        epochDay] at hstart since
      omega)
    refine ⟨m, ⟨(minuteAfter_le_iff since m).mpr hstart, ?_⟩, rfl⟩
    rw [le_minuteUntil_iff]
    exact ⟨(year_minuteInstant_iff m).mp hyear, fun h hh => Or.inl (hhorizon h hh)⟩

/-- All runs of a recurrence after the start and by the horizon. -/
def runs (r : Recurrence) (start : Instant) (horizon : Option Instant) : List Instant :=
  (r.runsBetween (minuteAfter (.utc start.micros))
    (minuteUntil (horizon.map fun h => .utc h.micros))).map minuteInstant

theorem mem_runs_iff (h : Recurrence.ofFields raw = .ok r)
    (since : epochDay * microsPerDay ≤ start.micros + 1) (t : Instant) :
    t ∈ runs r start horizon ↔ IsRun raw start horizon t := by
  have hminute : _ ↔ InLimits start horizon t := exists_minute_iff since t
  simp only [runs, List.mem_map, Recurrence.mem_runsBetween]
  constructor
  · rintro ⟨m, ⟨hlimits, hruns⟩, rfl⟩
    exact ⟨hminute.mp ⟨m, hlimits, rfl⟩, (match_minuteInstant_iff h m).mpr hruns⟩
  · intro hrun
    obtain ⟨m, hlimits, rfl⟩ := hminute.mpr hrun.toInLimits
    exact ⟨m, ⟨hlimits, (match_minuteInstant_iff h m).mp hrun.matched⟩, rfl⟩

theorem runs_ascending (r : Recurrence) (start : Instant) (horizon : Option Instant) :
    (runs r start horizon).Pairwise fun s t => s.micros < t.micros := by
  rw [runs, List.pairwise_map]
  refine (Recurrence.runsBetween_ascending r _ _).imp ?_
  intro m n hmn
  simp only [minuteInstant_micros, microsPerMinute, microsPerSecond]
  omega

theorem ordered_of_ofFields (h : Recurrence.ofFields raw = .ok r) (p : Position) :
    (r.sets.get p).Ordered p :=
  ValueSet.ordered_of_read (Recurrence.ofFields_eq_ok_iff.mp h p)

theorem orderedTimes_of_ofFields (h : Recurrence.ofFields raw = .ok r) : r.OrderedTimes :=
  ⟨ordered_of_ofFields h .hour, ordered_of_ofFields h .minute⟩

/-! ### Projection -/

theorem toUtc_of_inCalendar {t : Instant} (h : t.InCalendar) : t.toUtc = .ok (.utc t.micros) :=
  if_pos h

theorem toUtc_of_notInCalendar {t : Instant} (h : ¬ t.InCalendar) : t.toUtc = .error .outOfRange :=
  if_neg h

theorem project_of_nonpos (hcount : count ≤ 0) : project r start count horizon = .ok [] := by
  unfold project
  rw [if_pos hcount]
  rfl

theorem project_of_horizonInCalendar (h : r.OrderedTimes) (nonneg : 0 ≤ start.micros)
    (before : start.micros < calendarEnd - microsPerSecond) (hcount : 0 < count)
    (hhorizon : ∀ h ∈ horizon, h.InCalendar) :
    project r start count horizon = .ok ((runs r start horizon).take count.toNat) := by
  have hsecond : 0 < microsPerSecond := by decide
  have hstart : start.toUtc = .ok (.utc start.micros) :=
    toUtc_of_inCalendar ⟨nonneg, by omega⟩
  unfold project
  rw [if_neg (by omega), hstart, runs, ← List.map_take, ← Recurrence.upcoming_eq h]
  cases horizon with
  | none =>
    change (if calendarEnd - microsPerSecond ≤ start.micros then _ else _) = _
    rw [if_neg (by omega)]
    rfl
  | some t =>
    dsimp only
    rw [toUtc_of_inCalendar (hhorizon t rfl)]
    change (if calendarEnd - microsPerSecond ≤ start.micros then _ else _) = _
    rw [if_neg (by omega)]
    rfl

theorem project_of_horizonOutside (hcount : 0 < count) (hhorizon : ∃ h ∈ horizon, ¬ h.InCalendar) :
    project r start count horizon = .error .outOfRange := by
  obtain ⟨t, ht, hout⟩ := hhorizon
  cases ht
  unfold project
  rw [if_neg (by omega)]
  dsimp only
  rw [toUtc_of_notInCalendar hout]
  rfl

end Scheduler

end CronLint
