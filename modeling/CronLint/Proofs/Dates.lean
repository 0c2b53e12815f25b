import CronLint.Calendar.Date
import Mathlib.Tactic

/-!
# Day numbers and dates

Every day number belongs to exactly one date that the calendar has, and `Date.ofDayNumber` finds it.
The year is estimated from the mean length of a year, so the estimate has to be shown off by one at
most; month and day come from walking through the lengths of the months.
-/
namespace CronLint.Calendar

theorem isLeapYear_iff (y : Nat) :
    isLeapYear y = true ↔ y % 4 = 0 ∧ (y % 100 ≠ 0 ∨ y % 400 = 0) := by
  simp [isLeapYear]

theorem monthLengths_length (leap : Bool) : (monthLengths leap).length = 12 := by
  cases leap <;> rfl

theorem monthLengths_sum (leap : Bool) :
    (monthLengths leap).sum = if leap then 366 else 365 := by
  cases leap <;> rfl

theorem daysBeforeMonth_eq (y m : Nat) :
    daysBeforeMonth y m = ((monthLengths (isLeapYear y)).take (m - 1)).sum := rfl

theorem daysBeforeYear_succ {y : Nat} (hy : 1 ≤ y) :
    daysBeforeYear (y + 1) = daysBeforeYear y + (monthLengths (isLeapYear y)).sum := by
  obtain ⟨k, rfl⟩ : ∃ k, y = k + 1 := ⟨y - 1, by omega⟩
  have h4 : (k + 1) / 4 = _ := Nat.succ_div
  have h100 : (k + 1) / 100 = _ := Nat.succ_div
  have h400 : (k + 1) / 400 = _ := Nat.succ_div
  have hleap := isLeapYear_iff (k + 1)
  rw [monthLengths_sum]
  simp only [daysBeforeYear, Nat.add_sub_cancel]
  simp only [Nat.dvd_iff_mod_eq_zero] at h4 h100 h400
  split_ifs at h4 h100 h400 ⊢ <;> grind

theorem daysBeforeYear_mono : Monotone daysBeforeYear := by
  apply monotone_nat_of_le_succ
  intro y
  rcases Nat.eq_zero_or_pos y with rfl | hy
  · decide
  · rw [daysBeforeYear_succ hy]
    omega

theorem yearOfDay_spec (n : Nat) :
    1 ≤ yearOfDay n ∧ daysBeforeYear (yearOfDay n) ≤ n ∧ n < daysBeforeYear (yearOfDay n + 1) := by
  simp only [yearOfDay]
  split_ifs with after before
  all_goals
    unfold daysBeforeYear at *
    omega

theorem yearOfDay_unique {n y : Nat} (first : daysBeforeYear y ≤ n)
    (last : n < daysBeforeYear (y + 1)) : yearOfDay n = y := by
  obtain ⟨-, hfirst, hlast⟩ := yearOfDay_spec n
  rcases Nat.lt_trichotomy (yearOfDay n) y with h | h | h
  · have := daysBeforeYear_mono (Nat.lt_iff_add_one_le.mp h)
    omega
  · exact h
  · have := daysBeforeYear_mono (Nat.lt_iff_add_one_le.mp h)
    omega

theorem monthAndDay_spec {lengths : List Nat} {m days : Nat} (h : days < lengths.sum) :
    ∃ i, ∃ hi : i < lengths.length, (monthAndDay lengths m days).1 = m + i ∧
      1 ≤ (monthAndDay lengths m days).2 ∧ (monthAndDay lengths m days).2 ≤ lengths[i] ∧
      days = (lengths.take i).sum + ((monthAndDay lengths m days).2 - 1) := by
  induction lengths generalizing m days with
  | nil => simp at h
  | cons length lengths ih =>
    unfold monthAndDay
    split_ifs with inFirst
    · exact ⟨0, by simp, by simp, by simp, by simpa using Nat.succ_le_of_lt inFirst, by simp⟩
    · have hrest : days - length < lengths.sum := by
        rw [List.sum_cons] at h
        omega
      obtain ⟨i, hi, hmonth, hpos, hle, hdays⟩ := ih (m := m + 1) hrest
      refine ⟨i + 1, by simpa using hi, ?_, hpos, by simpa using hle, ?_⟩
      · rw [hmonth]
        omega
      · rw [List.take_succ_cons, List.sum_cons]
        omega

theorem monthAndDay_eq {lengths : List Nat} {m i d : Nat} (hi : i < lengths.length)
    (hd : d < lengths[i]) :
    monthAndDay lengths m ((lengths.take i).sum + d) = (m + i, d + 1) := by
  induction lengths generalizing m i with
  | nil => simp at hi
  | cons length lengths ih =>
    unfold monthAndDay
    cases i with
    | zero =>
      have : d < length := by simpa using hd
      simp [this]
    | succ i =>
      have hlater : ¬ (((length :: lengths).take (i + 1)).sum + d < length) := by
        rw [List.take_succ_cons, List.sum_cons]
        omega
      have hsub : ((length :: lengths).take (i + 1)).sum + d - length =
          (lengths.take i).sum + d := by
        rw [List.take_succ_cons, List.sum_cons]
        omega
      rw [if_neg hlater, hsub, ih (by simpa using hi) (by simpa using hd)]
      congr 1
      omega

theorem sum_take_add_lt {lengths : List Nat} {i d : Nat} (hi : i < lengths.length)
    (hd : d < lengths[i]) : (lengths.take i).sum + d < lengths.sum := by
  have hsplit := List.sum_take_add_sum_drop lengths i
  rw [List.drop_eq_getElem_cons hi, List.sum_cons] at hsplit
  omega

theorem exists?_iff (d : Date) :
    d.exists? = true ↔ 1 ≤ d.year ∧ (1 ≤ d.month ∧ d.month ≤ 12) ∧
      1 ≤ d.day ∧ d.day ≤ daysInMonth d.year d.month := by
  simp [Date.exists?, and_assoc]

theorem daysInMonth_le (y m : Nat) : daysInMonth y m ≤ 31 := by
  unfold daysInMonth
  have hall : ∀ leap, ∀ length ∈ monthLengths leap, length ≤ 31 := by decide
  cases h : (monthLengths (isLeapYear y))[m - 1]? with
  | none => exact Nat.zero_le _
  | some length => exact hall _ length (List.mem_of_getElem? h)

theorem day_within_year (n : Nat) :
    n - daysBeforeYear (yearOfDay n) < (monthLengths (isLeapYear (yearOfDay n))).sum := by
  obtain ⟨hy, hfirst, hlast⟩ := yearOfDay_spec n
  rw [daysBeforeYear_succ hy] at hlast
  omega

theorem ofDayNumber_spec (n : Nat) :
    (Date.ofDayNumber n).exists? = true ∧ (Date.ofDayNumber n).dayNumber = n := by
  obtain ⟨hy, hfirst, -⟩ := yearOfDay_spec n
  obtain ⟨i, hi, hmonth, hpos, hle, hdays⟩ := monthAndDay_spec (m := 1) (day_within_year n)
  have h12 : i < 12 := by rwa [monthLengths_length] at hi
  constructor
  · rw [exists?_iff]
    refine ⟨hy, ⟨?_, ?_⟩, hpos, ?_⟩
    all_goals simp only [Date.ofDayNumber, hmonth]
    · omega
    · omega
    · simpa only [daysInMonth, Nat.add_sub_cancel_left, List.getElem?_eq_getElem hi,
        Option.getD_some] using hle
  · simp only [Date.dayNumber, Date.ofDayNumber, daysBeforeMonth_eq, hmonth,
      Nat.add_sub_cancel_left]
    omega

theorem ofDayNumber_exists (n : Nat) : (Date.ofDayNumber n).exists? = true :=
  (ofDayNumber_spec n).1

theorem dayNumber_ofDayNumber (n : Nat) : (Date.ofDayNumber n).dayNumber = n :=
  (ofDayNumber_spec n).2

theorem ofDayNumber_dayNumber {d : Date} (h : d.exists? = true) :
    Date.ofDayNumber d.dayNumber = d := by
  obtain ⟨hy, ⟨hm, hm12⟩, hd, hlast⟩ := exists?_iff d |>.mp h
  have hi : d.month - 1 < (monthLengths (isLeapYear d.year)).length := by
    rw [monthLengths_length]
    omega
  have hday : d.day - 1 < (monthLengths (isLeapYear d.year))[d.month - 1] := by
    simp only [daysInMonth, List.getElem?_eq_getElem hi, Option.getD_some] at hlast
    omega
  have hwithin := sum_take_add_lt hi hday
  have hyear : yearOfDay d.dayNumber = d.year := by
    apply yearOfDay_unique
    · simp only [Date.dayNumber]
      omega
    · rw [daysBeforeYear_succ hy]
      simp only [Date.dayNumber, daysBeforeMonth_eq]
      omega
  have hrest : d.dayNumber - daysBeforeYear d.year =
      ((monthLengths (isLeapYear d.year)).take (d.month - 1)).sum + (d.day - 1) := by
    simp only [Date.dayNumber, daysBeforeMonth_eq]
    omega
  simp only [Date.ofDayNumber, hyear, hrest, monthAndDay_eq hi hday]
  obtain ⟨y, m, day⟩ := d
  simp only [Date.mk.injEq, true_and] at *
  omega

theorem year_ofDayNumber (n : Nat) : (Date.ofDayNumber n).year = yearOfDay n := rfl

/-- The calendar ends with the last day of year 9999. -/
theorem year_le_lastYear_iff (n : Nat) : (Date.ofDayNumber n).year ≤ lastYear ↔ n < dayCount := by
  rw [year_ofDayNumber, ← daysBeforeYear_afterLast]
  obtain ⟨-, hfirst, hlast⟩ := yearOfDay_spec n
  constructor
  · intro h
    exact hlast.trans_le (daysBeforeYear_mono (Nat.succ_le_succ h))
  · intro h
    by_contra hlate
    have := daysBeforeYear_mono (show lastYear + 1 ≤ yearOfDay n by omega)
    omega

end CronLint.Calendar
