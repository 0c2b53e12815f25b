import CronLint.Calendar.Instant
import CronLint.Proofs.YearlyDates
import CronLint.Proofs.Projection

/-!
# The same day two years later

A clock reading is an instant of the years 1970 to 9990 on a clock less than a day off UTC. Two
years later on the same clock is a reading again, and lies at least 729 days ahead, whatever happens
to a 29 February.
-/
namespace CronLint.Calendar

variable {now : Instant}

/-- An instant that a clock may show: it knows its offset, and it lies in the years 1970 to 9990. -/
structure Instant.IsClockReading (now : Instant) : Prop where
  zone : ∃ offset, now.offset = some offset ∧ -86400 < offset ∧ offset < 86400
  since : 1970 ≤ (Instant.utc now.micros).date.year
  before : (Instant.utc now.micros).date.year ≤ 9990

theorem date_utc (micros : Int) :
    (Instant.utc micros).date = Date.ofDayNumber (micros / microsPerDay).toNat := rfl

theorem le_day_of_year {y n : Nat} (h : y ≤ (Date.ofDayNumber n).year) : daysBeforeYear y ≤ n :=
  (daysBeforeYear_mono h).trans (yearOfDay_spec n).2.1

theorem day_lt_of_year {y n : Nat} (h : (Date.ofDayNumber n).year ≤ y) :
    n < daysBeforeYear (y + 1) :=
  (yearOfDay_spec n).2.2.trans_le (daysBeforeYear_mono (Nat.succ_le_succ h))

theorem lt_of_year {wall : Int} {y : Nat}
    (h : (Date.ofDayNumber (wall / microsPerDay).toNat).year ≤ y) :
    wall < daysBeforeYear (y + 1) * microsPerDay := by
  have hday := day_lt_of_year h
  exact (Int.ediv_lt_iff_lt_mul (by decide)).mp (by omega)

namespace Instant

/-- The reading of a clock that is less than a day off UTC. -/
theorem wall_near {t : Instant}
    (zone : ∃ offset, t.offset = some offset ∧ -86400 < offset ∧ offset < 86400) :
    t.micros - microsPerDay < t.wall ∧ t.wall < t.micros + microsPerDay := by
  obtain ⟨offset, hoffset, hwest, heast⟩ := zone
  have hmicros : t.micros = t.wall - offset * microsPerSecond := by
    simp [micros, hoffset]
  simp only [microsPerDay, microsPerHour, microsPerMinute, microsPerSecond] at *
  omega

theorem IsClockReading.micros_bounds (h : now.IsClockReading) :
    epochDay * microsPerDay ≤ now.micros ∧ now.micros < daysBeforeYear 9991 * microsPerDay := by
  have hsince := le_day_of_year (date_utc now.micros ▸ h.since)
  have hepoch : daysBeforeYear 1970 = epochDay := by decide
  have hpos : 0 < epochDay := by decide
  have hday : 0 < microsPerDay := by decide
  rw [hepoch] at hsince
  constructor
  · exact (Int.le_ediv_iff_mul_le hday).mp (by omega)
  · exact lt_of_year (date_utc now.micros ▸ h.before)

/-! ### Years later -/

theorem wall_eq (nonneg : 0 ≤ now.wall) :
    now.wall = now.date.dayNumber * microsPerDay + now.microOfDay := by
  have hday : 0 < microsPerDay := by decide
  have hdiv : 0 ≤ now.wall / microsPerDay := Int.ediv_nonneg nonneg hday.le
  have hmod : 0 ≤ now.wall % microsPerDay := Int.emod_nonneg _ hday.ne'
  rw [Instant.date, dayNumber_ofDayNumber, microOfDay, Int.toNat_of_nonneg hdiv,
    Int.toNat_of_nonneg hmod, Int.ediv_mul_add_emod]

/-- Two years after a date, the same date or 1 March lies at least 729 days later. -/
theorem dayNumber_twoYearsLater {d later : Date} (hd : d.exists? = true)
    (hlater : later = { d with year := d.year + 2 } ∧ later.exists? = true ∨
      later = ⟨d.year + 2, 3, 1⟩ ∧ ¬ ({ d with year := d.year + 2 } : Date).exists? = true) :
    d.dayNumber + 729 ≤ later.dayNumber := by
  have hvalid := (exists?_iff d).mp hd
  have hyears : daysBeforeYear d.year + 730 ≤ daysBeforeYear (d.year + 2) := by
    have hfirst := (daysBeforeYear_next hvalid.1).1
    have hsecond : _ ≤ daysBeforeYear (d.year + 2) :=
      (daysBeforeYear_next (show 1 ≤ d.year + 1 by omega)).1
    omega
  have hmonth := daysBeforeMonth_le hvalid.2.1.2 d.year (d.year + 2)
  rcases hlater with ⟨rfl, -⟩ | ⟨rfl, hmissing⟩
  · simp only [Date.dayNumber]
    omega
  · obtain ⟨y, m, day⟩ := d
    obtain ⟨rfl, rfl⟩ := eq_leapDay hd (by dsimp only; omega) hmissing
    have hmarch : 59 ≤ daysBeforeMonth (y + 2) 3 := by
      have hsums : ∀ leap : Bool, 59 ≤ ((monthLengths leap).take 2).sum := by decide
      exact hsums _
    have hfebruary : daysBeforeMonth y 2 = 31 := by
      have hsums : ∀ leap : Bool, ((monthLengths leap).take 1).sum = 31 := by decide
      exact hsums _
    simp only [Date.dayNumber]
    dsimp only at hyears
    omega

theorem addYears_two (hd : now.date.exists? = true) (hyear : now.date.year + 2 ≤ lastYear) :
    ∃ later : Date, now.addYears 2 = .ok ⟨wallAt later now.microOfDay, now.offset⟩ ∧
      later.exists? = true ∧ later.year = now.date.year + 2 ∧
      now.date.dayNumber + 729 ≤ later.dayNumber := by
  have hfirst := (exists?_iff _).mp hd
  have htoNat : ((now.date.year : Int) + 2).toNat = now.date.year + 2 := by omega
  have hlast : lastYear = 9999 := rfl
  have hmarch : (⟨now.date.year + 2, 3, 1⟩ : Date).exists? = true :=
    (isCommonDate_first (by decide)).exists? (by omega)
  unfold addYears
  dsimp only
  rw [if_neg (by omega), if_neg (by omega), htoNat]
  by_cases hsame : ({ now.date with year := now.date.year + 2 } : Date).exists? = true
  · rw [if_pos hsame]
    exact ⟨_, rfl, hsame, rfl, dayNumber_twoYearsLater hd (Or.inl ⟨rfl, hsame⟩)⟩
  · rw [if_neg hsame]
    exact ⟨_, rfl, hmarch, rfl, dayNumber_twoYearsLater hd (Or.inr ⟨rfl, hsame⟩)⟩

theorem microOfDay_lt (t : Instant) : (t.microOfDay : Int) < microsPerDay := by
  have hday : 0 < microsPerDay := by decide
  rw [microOfDay, Int.toNat_of_nonneg (Int.emod_nonneg _ hday.ne')]
  exact Int.emod_lt_of_pos _ hday

/-- Two years after a clock reading, the clock shows an instant of the calendar at least 729 days
later. -/
theorem IsClockReading.exists_later (h : now.IsClockReading) :
    ∃ later, now.addYears 2 = .ok later ∧ later.offset = now.offset ∧ later.InCalendar ∧
      now.micros + 729 * microsPerDay ≤ later.micros := by
  obtain ⟨offset, hoffset, hwest, heast⟩ := h.zone
  obtain ⟨hsince, hbefore⟩ := h.micros_bounds
  have hzone : -microsPerDay < offset * microsPerSecond ∧
      offset * microsPerSecond < microsPerDay := by
    simp only [microsPerDay, microsPerHour, microsPerMinute, microsPerSecond]
    omega
  have hmicros : now.micros = now.wall - offset * microsPerSecond := by
    simp [micros, hoffset]
  have hepoch : (1 : Int) * microsPerDay ≤ epochDay * microsPerDay := by decide
  have hday : 0 < microsPerDay := by decide
  have hwall : now.wall = now.date.dayNumber * microsPerDay + now.microOfDay :=
    wall_eq (by omega)
  have hexists : now.date.exists? = true := ofDayNumber_exists _
  have hyear : now.date.year < 9992 := by
    -- The clock is not a whole day ahead of UTC.
    have hlocal : now.date.dayNumber < daysBeforeYear 9991 + 1 := by
      have hless : (now.date.dayNumber : Int) * microsPerDay <
          (daysBeforeYear 9991 + 1 : Int) * microsPerDay := by
        rw [add_mul]
        omega
      have := lt_of_mul_lt_mul_right hless hday.le
      omega
    have hyears : daysBeforeYear 9991 + 1 ≤ daysBeforeYear 9992 := by decide
    have hfirst := (dayNumber_bounds hexists).1
    by_contra hlate
    have := daysBeforeYear_mono (show 9992 ≤ now.date.year by omega)
    omega
  obtain ⟨date, hlater, hdate, hdateYear, hfar⟩ :=
    addYears_two hexists (show now.date.year + 2 ≤ 9999 by omega)
  have hlaterMicros : (⟨wallAt date now.microOfDay, now.offset⟩ : Instant).micros =
      date.dayNumber * microsPerDay + now.microOfDay - offset * microsPerSecond := by
    simp [micros, wallAt, hoffset]
  have hahead : (now.date.dayNumber + 729 : Int) * microsPerDay ≤
      date.dayNumber * microsPerDay :=
    mul_le_mul_of_nonneg_right (by omega) hday.le
  have hend : (date.dayNumber + 2 : Int) * microsPerDay ≤ calendarEnd := by
    have hlast := (dayNumber_bounds hdate).2
    have hyears := daysBeforeYear_mono (show date.year + 1 ≤ 9994 by omega)
    have hcount : daysBeforeYear 9994 + 1 ≤ dayCount := by decide
    exact mul_le_mul_of_nonneg_right (by omega) hday.le
  have hmicro := microOfDay_lt now
  rw [add_mul] at hahead hend
  refine ⟨_, hlater, rfl, ⟨?_, ?_⟩, ?_⟩
  · rw [hlaterMicros]
    omega
  · rw [hlaterMicros]
    omega
  · rw [hlaterMicros]
    omega

end Instant

end CronLint.Calendar
