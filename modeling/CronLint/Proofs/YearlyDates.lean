import CronLint.Proofs.Dates

/-!
# Dates that every year has

A date that one common year has is a date of every year, so it comes back within a year and a day or
two, and every weekday of its month comes back within another week. Only 29 February stays away
longer.
-/
namespace CronLint.Calendar

/-- Some common year has this date. -/
def IsCommonDate (month day : Nat) : Prop :=
  ∃ y, isLeapYear y = false ∧ (⟨y, month, day⟩ : Date).exists? = true

/-- Years differ in the length of February only. -/
theorem daysInMonth_eq_or {m : Nat} (hm : m ≤ 12) (y y' : Nat) :
    daysInMonth y m = daysInMonth y' m ∨
      m = 2 ∧ 28 ≤ daysInMonth y m ∧ daysInMonth y m ≤ 29 ∧ 28 ≤ daysInMonth y' m := by
  have hlengths : ∀ m < 13, ∀ leap leap' : Bool,
      ((monthLengths leap)[m - 1]?).getD 0 = ((monthLengths leap')[m - 1]?).getD 0 ∨
        m = 2 ∧ 28 ≤ ((monthLengths leap)[m - 1]?).getD 0 ∧
          ((monthLengths leap)[m - 1]?).getD 0 ≤ 29 ∧
          28 ≤ ((monthLengths leap')[m - 1]?).getD 0 := by
    decide
  exact hlengths m (by omega) _ _

theorem daysInMonth_ge {m : Nat} (hm : 1 ≤ m ∧ m ≤ 12) (y : Nat) : 28 ≤ daysInMonth y m := by
  have hlengths : ∀ m < 12, ∀ leap : Bool, 28 ≤ ((monthLengths leap)[m]?).getD 0 := by decide
  exact hlengths (m - 1) (by omega) _

/-- No year has fewer days in a month than a common year. -/
theorem daysInMonth_le_of_common {y : Nat} (hy : isLeapYear y = false) {m : Nat} (hm : m ≤ 12)
    (y' : Nat) : daysInMonth y m ≤ daysInMonth y' m := by
  have hlengths : ∀ m < 12, ∀ leap : Bool,
      ((monthLengths false)[m]?).getD 0 ≤ ((monthLengths leap)[m]?).getD 0 := by
    decide
  unfold daysInMonth
  rw [hy]
  exact hlengths (m - 1) (by omega) _

theorem daysBeforeMonth_le {m : Nat} (hm : m ≤ 12) (y y' : Nat) :
    daysBeforeMonth y m ≤ daysBeforeMonth y' m + 1 := by
  have hsums : ∀ m < 13, ∀ leap leap' : Bool, ((monthLengths leap).take (m - 1)).sum ≤
      ((monthLengths leap').take (m - 1)).sum + 1 := by
    decide
  rw [daysBeforeMonth_eq, daysBeforeMonth_eq]
  exact hsums m (by omega) _ _

theorem daysBeforeYear_next {y : Nat} (hy : 1 ≤ y) :
    daysBeforeYear y + 365 ≤ daysBeforeYear (y + 1) ∧
      daysBeforeYear (y + 1) ≤ daysBeforeYear y + 366 := by
  rw [daysBeforeYear_succ hy, monthLengths_sum]
  split_ifs <;> omega

/-- A date that one year has and another has not is 29 February. -/
theorem eq_leapDay {y y' m d : Nat} (h : (⟨y, m, d⟩ : Date).exists? = true) (hy' : 1 ≤ y')
    (h' : (⟨y', m, d⟩ : Date).exists? ≠ true) : m = 2 ∧ d = 29 := by
  rw [exists?_iff] at h
  rw [ne_eq, exists?_iff] at h'
  dsimp only at h h'
  obtain ⟨-, hm, hd, hlast⟩ := h
  have hbeyond : daysInMonth y' m < d := by
    by_contra hle
    exact h' ⟨hy', hm, hd, by omega⟩
  have := daysInMonth_eq_or hm.2 y y'
  omega

theorem eq_leapDay_of_not_common {d : Date} (h : d.exists? = true)
    (hnot : ¬ IsCommonDate d.month d.day) : d.month = 2 ∧ d.day = 29 := by
  apply eq_leapDay h (le_refl 1)
  intro hfirst
  exact hnot ⟨1, by decide, hfirst⟩

theorem IsCommonDate.exists? {m d : Nat} (h : IsCommonDate m d) {y : Nat} (hy : 1 ≤ y) :
    (⟨y, m, d⟩ : Date).exists? = true := by
  obtain ⟨c, hc, hdate⟩ := h
  rw [exists?_iff] at hdate ⊢
  obtain ⟨-, hm, hd, hlast⟩ := hdate
  exact ⟨hy, hm, hd, hlast.trans (daysInMonth_le_of_common hc hm.2 y)⟩

theorem isCommonDate_first {m : Nat} (hm : 1 ≤ m ∧ m ≤ 12) : IsCommonDate m 1 := by
  refine ⟨1, by decide, ?_⟩
  have := daysInMonth_ge hm 1
  rw [exists?_iff]
  dsimp only
  omega

theorem dayNumber_bounds {d : Date} (h : d.exists? = true) :
    daysBeforeYear d.year ≤ d.dayNumber ∧ d.dayNumber < daysBeforeYear (d.year + 1) := by
  obtain ⟨-, hfirst, hlast⟩ := yearOfDay_spec d.dayNumber
  have hyear : yearOfDay d.dayNumber = d.year := congrArg Date.year (ofDayNumber_dayNumber h)
  rw [hyear] at hfirst hlast
  exact ⟨hfirst, hlast⟩

/-- After any day, the date comes within 367 days. -/
theorem IsCommonDate.exists_after {m d : Nat} (h : IsCommonDate m d) (n : Nat) :
    ∃ k y, (n < k ∧ k ≤ n + 367) ∧ 1 ≤ y ∧ Date.ofDayNumber k = ⟨y, m, d⟩ := by
  obtain ⟨hy, hfirst, hlast⟩ := yearOfDay_spec n
  generalize yearOfDay n = y at hy hfirst hlast
  have hthis := h.exists? hy
  have hnext := h.exists? (show 1 ≤ y + 1 by omega)
  have hm : m ≤ 12 := ((exists?_iff _).mp hthis).2.1.2
  have hyear := (daysBeforeYear_next hy).2
  have hbounds := dayNumber_bounds hthis
  have hbounds' := dayNumber_bounds hnext
  have hgap : (⟨y + 1, m, d⟩ : Date).dayNumber ≤ (⟨y, m, d⟩ : Date).dayNumber + 367 := by
    have hmonth := daysBeforeMonth_le hm (y + 1) y
    simp only [Date.dayNumber]
    omega
  dsimp only at hbounds hbounds'
  -- This year's date may be over already; then next year's is meant.
  by_cases hcome : n < (⟨y, m, d⟩ : Date).dayNumber
  · exact ⟨_, y, ⟨hcome, by omega⟩, hy, ofDayNumber_dayNumber hthis⟩
  · exact ⟨_, y + 1, ⟨by omega, by omega⟩, by omega, ofDayNumber_dayNumber hnext⟩

/-- After any day, every weekday of every month comes within 373 days: one of the first seven days
of the month is such a day. -/
theorem exists_weekday_after {m w : Nat} (hm : 1 ≤ m ∧ m ≤ 12) (hw : w < 7) (n : Nat) :
    ∃ k, (n < k ∧ k ≤ n + 373) ∧ (Date.ofDayNumber k).month = m ∧ weekday k = w := by
  obtain ⟨k, y, ⟨hlow, hhigh⟩, hy, hdate⟩ := (isCommonDate_first hm).exists_after n
  have hk : (⟨y, m, 1⟩ : Date).dayNumber = k := by rw [← hdate, dayNumber_ofDayNumber]
  have hdays := daysInMonth_ge hm y
  obtain ⟨j, hj, hweekday⟩ : ∃ j < 7, weekday (k + j) = w := by
    refine ⟨(w + 7 - weekday k) % 7, Nat.mod_lt _ (by decide), ?_⟩
    simp only [weekday]
    omega
  have hexists : (⟨y, m, 1 + j⟩ : Date).exists? = true := by
    rw [exists?_iff]
    dsimp only
    exact ⟨hy, hm, by omega, by omega⟩
  have hnumber : (⟨y, m, 1 + j⟩ : Date).dayNumber = k + j := by
    rw [← hk]
    simp only [Date.dayNumber]
    omega
  refine ⟨k + j, ⟨by omega, by omega⟩, ?_, hweekday⟩
  rw [← hnumber, ofDayNumber_dayNumber hexists]

end CronLint.Calendar
