import CronLint.Proofs.OverlapRanking
import CronLint.Proofs.OverlapWindows

/-!
# Wider windows

The overlaps of a window are a beginning of those of any longer window with the same start. The
number of runs that each job is asked for depends on the length of the window, yet it is enough for
all its runs, whether or not the window ends with a whole minute.
-/
namespace CronLint

open Calendar

/-! ### Hits before an instant -/

section

variable {hits : List (Instant × String)}

theorem idsAt_filter (p : Instant → Bool) (t : Instant) :
    idsAt (hits.filter fun hit => p hit.1) t = if p t = true then idsAt hits t else [] := by
  have hkept : (hits.filter fun hit => p hit.1).filter (fun hit => decide (hit.1 = t)) =
      (hits.filter fun hit => decide (hit.1 = t)).filter fun _ => p t := by
    rw [List.filter_filter, List.filter_filter]
    apply List.filter_congr
    intro hit _
    by_cases htime : hit.1 = t
    · rw [htime, Bool.and_comm]
    · simp [htime]
  unfold idsAt
  rw [hkept]
  split_ifs with hp
  · simp [hp]
  · simp [hp]

theorem overlapsOfHits_filter (utc : ∀ hit ∈ hits, hit.1.offset = some 0) (stop : Int) :
    (overlapsOfHits (hits.filter fun hit => decide (hit.1.micros < stop))).all =
      (overlapsOfHits hits).all.filter fun o => decide (o.time.micros < stop) := by
  have hutc : ∀ hit ∈ hits.filter fun hit => decide (hit.1.micros < stop), hit.1.offset = some 0 :=
    fun hit hhit => utc hit (List.mem_of_mem_filter hhit)
  apply eq_of_ascending (overlapsOfHits_ascending _) ((overlapsOfHits_ascending hits).filter _)
  intro o
  rw [List.mem_filter, mem_overlapsOfHits_iff hutc, mem_overlapsOfHits_iff utc,
    idsAt_filter fun t => decide (t.micros < stop)]
  split_ifs with hbefore
  · exact (and_iff_left hbefore).symm
  · -- An overlap has identifiers, and the hits before the instant give it none.
    constructor
    · rintro ⟨hnone, hmany⟩
      rw [hnone] at hmany
      cases hmany
    · rintro ⟨-, hlate⟩
      exact absurd hlate hbefore

theorem overlaps_filter_prefix (hits : List (Instant × String)) (stop : Int) :
    ((overlapsOfHits hits).all.filter fun o => decide (o.time.micros < stop)) <+:
      (overlapsOfHits hits).all := by
  rw [← takeWhile_eq_filter]
  · exact List.takeWhile_prefix _
  · apply (overlapsOfHits_ascending hits).imp
    intro x y hxy hy
    simp only [decide_eq_true_eq] at hy ⊢
    exact hxy.trans hy

end

/-! ### Windows with the same start -/

namespace Scheduler

variable {s : Scheduler} {w w' : Window} {e : String} {r : Recurrence} {t : Instant}
  {jobs : List Job}

/-- A run at the very end may be listed, but it is clipped: the runs in a window are the minutes
before its end. -/
theorem mem_runsIn_iff_exists (hr : Recurrence.ofExpression e = .ok r) :
    t ∈ runsIn w e ↔ ∃ m, (minuteAfter (.utc w.start.micros) ≤ m ∧ m ≤ lastMinute ∧
      r.runsAt m = true) ∧ minuteInstant m = t ∧
        w.start.micros ≤ t.micros ∧ t.micros < w.stop.micros := by
  simp only [runsIn, hr, runs, List.mem_filter, List.mem_map, Recurrence.mem_runsBetween,
    Bool.and_eq_true, decide_eq_true_eq]
  constructor
  · rintro ⟨⟨m, ⟨⟨hfirst, hlast⟩, hruns⟩, htime⟩, hclipped⟩
    exact ⟨m, ⟨hfirst, ((le_minuteUntil_iff m).mp hlast).1, hruns⟩, htime, hclipped⟩
  · rintro ⟨m, ⟨hfirst, hlast, hruns⟩, rfl, hclipped⟩
    refine ⟨⟨m, ⟨⟨hfirst, (le_minuteUntil_iff m).mpr ⟨hlast, ?_⟩⟩, hruns⟩, rfl⟩, hclipped⟩
    intro stop hstop
    obtain rfl := Option.mem_some.mp hstop
    exact Or.inl hclipped.2.le

theorem runsIn_ascending (w : Window) (e : String) :
    (runsIn w e).Pairwise fun t u => t.micros < u.micros := by
  unfold runsIn
  split
  · exact (runs_ascending _ _ _).filter _
  · exact List.Pairwise.nil

theorem exists_minute_of_mem_runsIn (h : t ∈ runsIn w e) : ∃ m, minuteInstant m = t := by
  unfold runsIn at h
  split at h
  · obtain ⟨m, -, hm⟩ := List.mem_map.mp (List.mem_of_mem_filter h)
    exact ⟨m, hm⟩
  · cases h

theorem runsIn_narrow (hstart : w.start = w'.start) (hstop : w.stop.micros ≤ w'.stop.micros)
    (e : String) :
    runsIn w e = (runsIn w' e).filter fun t => decide (t.micros < w.stop.micros) := by
  cases hr : Recurrence.ofExpression e with
  | ok r =>
    apply eq_of_ascending (runsIn_ascending w e) ((runsIn_ascending w' e).filter _)
    intro t
    rw [List.mem_filter, mem_runsIn_iff_exists hr, mem_runsIn_iff_exists hr, hstart,
      decide_eq_true_eq]
    constructor
    · rintro ⟨m, hm, htime, hfrom, hbefore⟩
      exact ⟨⟨m, hm, htime, hfrom, hbefore.trans_le hstop⟩, hbefore⟩
    · rintro ⟨⟨m, hm, htime, hfrom, -⟩, hbefore⟩
      exact ⟨m, hm, htime, hfrom, hbefore⟩
  | error fault => simp [runsIn, hr]

theorem hitsIn_narrow (hstart : w.start = w'.start) (hstop : w.stop.micros ≤ w'.stop.micros)
    (jobs : List Job) :
    hitsIn w jobs = (hitsIn w' jobs).filter fun hit => decide (hit.1.micros < w.stop.micros) := by
  simp only [hitsIn, hitsBy, List.filter_flatMap, List.filter_map]
  congr 1
  funext job
  rw [runsIn_narrow hstart hstop]
  congr 1
  apply List.filter_congr
  intro t ht
  obtain ⟨m, rfl⟩ := exists_minute_of_mem_runsIn ht
  rw [Function.comp_apply, Instant.truncateToMinute_of_wholeMinute (Dvd.intro_left _ rfl)]

theorem offset_of_mem_hitsIn : ∀ hit ∈ hitsIn w jobs, hit.1.offset = some 0 := by
  apply offset_of_mem_hitsBy
  intro job t ht
  obtain ⟨m, rfl⟩ := exists_minute_of_mem_runsIn ht
  rfl

/-- In a window from the minute of a UTC clock, the overlaps are those of all runs, as many as there
may be. -/
theorem FollowsCalendarFrom.overlaps_eq_hitsIn {now : Instant} {length : Int}
    (h : s.FollowsCalendarFrom now.truncateToMinute) (utc : now.offset = some 0)
    (hnow : now.InCalendar) (hw : Window.ofLength now.truncateToMinute length = .ok w)
    (jobs : List Job) : s.overlaps jobs length now = .ok (overlapsOfHits (hitsIn w jobs)) ∧
      s.LimitSuffices w.start w.stop (length / microsPerMinute + 1) := by
  obtain ⟨hminute, hstop⟩ := Window.fromMinute_of_ofLength utc hnow hw
  rw [← Window.start_of_ofLength hw] at h
  have hlimit :
      (w.stop.micros - w.start.micros) / microsPerMinute ≤ length / microsPerMinute + 1 := by
    rw [hstop, add_sub_cancel_left]
    omega
  constructor
  · rw [overlaps_eq, hw]
    simp only [Except.bind, h.hits_eq_hitsIn hminute hlimit]
    rfl
  · rw [Int.sub_ediv_of_dvd _ hminute.wholeStart] at hlimit
    exact h.limitSuffices hminute.startInCalendar.1 hminute.before hminute.stopInCalendar hlimit

/-- A longer window has the overlaps of a shorter one, and then those from its end on. In either,
asking for more runs changes nothing. -/
theorem overlaps_widened {now : Instant} {short long : Int} (utc : now.offset = some 0)
    (hnow : now.InCalendar) (hs : s.FollowsCalendarFrom now.truncateToMinute) (hle : short ≤ long)
    (hw : Window.ofLength now.truncateToMinute short = .ok w)
    (hw' : Window.ofLength now.truncateToMinute long = .ok w') (jobs : List Job) :
    (∃ narrow wide, s.overlaps jobs short now = .ok narrow ∧ s.overlaps jobs long now = .ok wide ∧
      narrow.all =
        wide.all.filter (fun o => decide (o.time.micros < now.truncateToMinute.micros + short)) ∧
      narrow.all <+: wide.all) ∧
    s.LimitSuffices w.start w.stop (short / microsPerMinute + 1) ∧
    s.LimitSuffices w'.start w'.stop (long / microsPerMinute + 1) := by
  obtain ⟨hshort, hlimit⟩ := hs.overlaps_eq_hitsIn utc hnow hw jobs
  obtain ⟨hlong, hlimit'⟩ := hs.overlaps_eq_hitsIn utc hnow hw' jobs
  have hstart := Window.start_of_ofLength hw
  have hstart' := Window.start_of_ofLength hw'
  obtain ⟨-, hstop⟩ := Window.fromMinute_of_ofLength utc hnow hw
  obtain ⟨-, hstop'⟩ := Window.fromMinute_of_ofLength utc hnow hw'
  rw [hstart] at hstop
  rw [hstart'] at hstop'
  have hnarrow := hitsIn_narrow (hstart.trans hstart'.symm) (by omega) jobs
  have hall : (overlapsOfHits (hitsIn w jobs)).all = (overlapsOfHits (hitsIn w' jobs)).all.filter
      fun o => decide (o.time.micros < now.truncateToMinute.micros + short) := by
    rw [hnarrow, overlapsOfHits_filter offset_of_mem_hitsIn, hstop]
  refine ⟨⟨_, _, hshort, hlong, hall, ?_⟩, hlimit, hlimit'⟩
  rw [hall]
  exact overlaps_filter_prefix _ _

/-- A window of a minute and a half and one of three and a quarter, both from ten o'clock on. -/
theorem overlaps_widened_ten : ∃ narrow wide,
    calendarScheduler.overlaps [everyMinute 1, everyMinute 2] 90000000 (afterTen 0 30) =
      .ok narrow ∧
    calendarScheduler.overlaps [everyMinute 1, everyMinute 2] 195000000 (afterTen 0 30) =
      .ok wide ∧
    narrow.all <+: wide.all := by
  have hw : Window.ofLength (afterTen 0 30).truncateToMinute 90000000 =
      .ok ⟨afterTen 0 0, afterTen 1 30⟩ := by
    decide
  have hw' : Window.ofLength (afterTen 0 30).truncateToMinute 195000000 =
      .ok ⟨afterTen 0 0, afterTen 3 15⟩ := by
    decide
  obtain ⟨⟨narrow, wide, hshort, hlong, -, hprefix⟩, -⟩ := overlaps_widened rfl
    ⟨by decide, by decide⟩ (Or.inl rfl) (by decide) hw hw' [everyMinute 1, everyMinute 2]
  exact ⟨narrow, wide, hshort, hlong, hprefix⟩

end Scheduler

end CronLint
