import CronLint.Analysis.Overlap
import CronLint.Proofs.EmptySchedules

/-!
# Answers of a scheduler

A scheduler answers if it rejects an expression or lists its runs on clocks that can be compared
with others. Given answers, the runs of the reference day can be counted and those of a window
brought together. Lists of runs are answers anywhere, and so is what the calendar says of its own
instants.
-/
namespace CronLint

open Calendar

/-- Asked for runs from `start` to `horizon`, the scheduler rejects the expression or lists instants
whose offset from UTC is known. -/
def Scheduler.AnswersFrom (s : Scheduler) (start horizon : Instant) : Prop :=
  ∀ e count, (∃ r, s.next e start count (some horizon) = .error (.rejected r)) ∨
    ∃ times, s.next e start count (some horizon) = .ok times ∧
      ∀ t ∈ times, t.offset.isSome = true

theorem Window.clip_eq {w : Window} {times : List Instant}
    (h : ∀ t ∈ times, w.sameClock t = true) : w.clip times =
      .ok ((times.takeWhile w.reaches).filter fun t => decide (w.start.micros ≤ t.micros)) := by
  unfold clip
  dsimp only
  rw [if_pos]
  rw [Option.all_eq_true]
  intro t ht
  exact h t (List.mem_of_getElem? ht)

theorem Window.exists_clip {w : Window} {times : List Instant}
    (h : ∀ t ∈ times, w.sameClock t = true) : ∃ reached, w.clip times = .ok reached :=
  ⟨_, clip_eq h⟩

theorem Window.ofLength_eq_ok_iff {start : Instant} {length : Int} {window : Window} :
    Window.ofLength start length = .ok window ↔
      window = ⟨start, ⟨start.wall + length, start.offset⟩⟩ ∧
        0 ≤ start.wall + length ∧ start.wall + length < calendarEnd := by
  unfold ofLength Instant.plus Instant.ofWall
  split_ifs with hfits
  · simp only [Except.map, Except.ok.injEq, hfits, and_self, and_true]
    exact eq_comm
  · simp [Except.map, hfits]

theorem Window.start_of_ofLength {start : Instant} {length : Int} {window : Window}
    (h : Window.ofLength start length = .ok window) : window.start = start := by
  obtain ⟨rfl, -⟩ := Window.ofLength_eq_ok_iff.mp h
  rfl

theorem Window.offset_of_ofLength {start : Instant} {length : Int} {window : Window}
    (h : Window.ofLength start length = .ok window) : window.stop.offset = start.offset := by
  obtain ⟨rfl, -⟩ := Window.ofLength_eq_ok_iff.mp h
  rfl

/-! ### Schedulers that answer -/

theorem mem_of_lastValue? {entries : List (String × α)} {key : String} {a : α}
    (h : lastValue? entries key = some a) : (key, a) ∈ entries := by
  obtain ⟨before, after, heq, -⟩ := List.lookup_eq_some_iff.mp h
  rw [← List.mem_reverse, heq]
  simp

theorem Scheduler.replay_next_cases {rejections : List (String × Rejection)}
    {runs : List (String × List Instant)} {p : Instant → Prop}
    (h : ∀ entry ∈ runs, ∀ t ∈ entry.2, p t) (start : Instant) (horizon : Option Instant)
    (e : String) (count : Int) :
    (∃ r, (replay rejections runs).next e start count horizon = .error (.rejected r)) ∨
      ∃ times, (replay rejections runs).next e start count horizon = .ok times ∧
        ∀ t ∈ times, p t := by
  cases hrejected : lastValue? rejections e with
  | some r => exact Or.inl ⟨r, by simp only [replay, hrejected]⟩
  | none =>
    refine Or.inr ⟨((lastValue? runs e).getD []).take count.toNat, ?_⟩
    refine ⟨by simp only [replay, hrejected], ?_⟩
    intro t ht
    cases hruns : lastValue? runs e with
    | none => simp [hruns] at ht
    | some times =>
      rw [hruns, Option.getD_some] at ht
      exact h _ (mem_of_lastValue? hruns) t (List.mem_of_mem_take ht)

theorem Scheduler.replay_answersFrom {rejections : List (String × Rejection)}
    {runs : List (String × List Instant)}
    (h : ∀ entry ∈ runs, ∀ t ∈ entry.2, t.offset.isSome = true) (start horizon : Instant) :
    (replay rejections runs).AnswersFrom start horizon :=
  replay_next_cases h start (some horizon)

namespace Scheduler

variable {s : Scheduler} {start stop : Instant} {count : Int} {e : String}

/-- The scheduler lists the runs of the calendar after `start`. A clockwork can be relied on from
1970 on only. -/
def FollowsCalendarFrom (s : Scheduler) (start : Instant) : Prop :=
  s = calendarScheduler ∨ s.FollowsCalendar ∧ epochDay * microsPerDay ≤ start.micros

theorem FollowsCalendarFrom.followsCalendar (h : s.FollowsCalendarFrom start) :
    s.FollowsCalendar := h.elim Or.inl And.left

theorem FollowsCalendarFrom.next_eq (h : s.FollowsCalendarFrom start)
    (before : start.micros < calendarEnd - microsPerSecond) (horizon : Option Instant) :
    s.next e start count horizon = calendarScheduler.next e start count horizon := by
  obtain rfl | ⟨h, since⟩ := h
  · rfl
  · exact h.next_eq (by omega) before

theorem offset_of_mem_runs {r : Recurrence} {horizon : Option Instant} {t : Instant}
    (h : t ∈ runs r start horizon) : t.offset = some 0 := by
  obtain ⟨minute, -, rfl⟩ := List.mem_map.mp h
  rfl

theorem FollowsCalendarFrom.answersFrom (h : s.FollowsCalendarFrom start)
    (nonneg : 0 ≤ start.micros) (before : start.micros < calendarEnd - microsPerSecond)
    (hstop : stop.InCalendar) : s.AnswersFrom start stop := by
  intro e count
  rw [h.next_eq before]
  by_cases hr : ∃ r, Recurrence.ofExpression e = .ok r
  · obtain ⟨r, hr⟩ := hr
    obtain ⟨raw, -, hraw⟩ := Recurrence.ofExpression_eq_ok_iff.mp hr
    refine Or.inr ?_
    rw [calendarScheduler_next_of_ok hr]
    by_cases hcount : count ≤ 0
    · rw [project_of_nonpos hcount]
      exact ⟨[], rfl, by simp⟩
    · rw [project_of_horizonInCalendar (orderedTimes_of_ofFields hraw) nonneg before (by omega)
        (by simpa using hstop)]
      refine ⟨_, rfl, ?_⟩
      intro t ht
      rw [offset_of_mem_runs (List.mem_of_mem_take ht)]
      rfl
  · exact Or.inl (calendarScheduler_next_of_rejected (not_exists.mp hr) _ _ _)

end Scheduler

/-! ### What answers are good for -/

theorem Scheduler.referenceDay : Window.ofLength referenceInstant microsPerDay =
    .ok ⟨referenceInstant, .utc (Instant.wallAt ⟨2025, 1, 2⟩ 0)⟩ := by
  decide

theorem Scheduler.beforeReference : referenceInstant.plus (-microsPerSecond) =
    .ok (.utc (Instant.wallAt ⟨2024, 12, 31⟩ 86399000000)) := by
  decide

namespace Scheduler.AnswersFrom

variable {s : Scheduler} {window : Window}

theorem runsPerDay_ne_calendar (h : ∀ start window,
      referenceInstant.plus (-microsPerSecond) = .ok start →
      Window.ofLength referenceInstant microsPerDay = .ok window → s.AnswersFrom start window.stop)
    (e : String) (err : CalendarError) :
    s.runsPerDay referenceInstant e ≠ .error (.calendar err) := by
  unfold runsPerDay runsOnDay runsWithin
  rw [referenceDay, beforeReference]
  simp only [reckon, Except.mapError, bind, Except.bind]
  obtain ⟨r, hnext⟩ | ⟨times, hnext, hzoned⟩ := h _ _ beforeReference referenceDay e dailyLimit
  · rw [hnext]
    simp [Except.map]
  · obtain ⟨reached, hreached⟩ : ∃ reached, Window.clip
        ⟨referenceInstant, .utc (Instant.wallAt ⟨2025, 1, 2⟩ 0)⟩ times = .ok reached := by
      apply Window.exists_clip
      intro t ht
      simp [Window.sameClock, hzoned t ht, Instant.utc]
    rw [hnext]
    dsimp only
    rw [hreached]
    simp [Except.map]

theorem exists_runsInWindow (h : s.AnswersFrom window.start window.stop)
    (hzoned : window.stop.offset.isSome = true) (limit : Int) (e : String) :
    ∃ times, s.runsInWindow window limit e = .ok times := by
  unfold runsInWindow
  obtain ⟨r, hnext⟩ | ⟨times, hnext, htimes⟩ := h e limit
  · rw [hnext]
    exact ⟨[], rfl⟩
  · rw [hnext]
    apply Window.exists_clip
    intro t ht
    simp [Window.sameClock, hzoned, htimes t ht]

theorem exists_hits (h : s.AnswersFrom window.start window.stop)
    (hzoned : window.stop.offset.isSome = true) (limit : Int) (jobs : List Job) :
    ∃ hits, s.hits window limit jobs = .ok hits := by
  induction jobs with
  | nil => exact ⟨[], rfl⟩
  | cons job jobs ih =>
    obtain ⟨hits, hhits⟩ := ih
    unfold Scheduler.hits
    rw [hhits]
    split_ifs
    · obtain ⟨times, htimes⟩ := h.exists_runsInWindow hzoned limit job.expression
      rw [htimes]
      exact ⟨_, rfl⟩
    · exact ⟨hits, rfl⟩

end Scheduler.AnswersFrom

theorem Scheduler.overlaps_eq (s : Scheduler) (jobs : List Job) (length : Int) (now : Instant) :
    s.overlaps jobs length now = (Window.ofLength now.truncateToMinute length).bind fun window =>
      (s.hits window (length / microsPerMinute + 1) jobs).map overlapsOfHits := rfl

theorem Scheduler.FollowsCalendar.runsPerDay_ne_calendar {s : Scheduler} (h : s.FollowsCalendar)
    (e : String) (err : CalendarError) :
    s.runsPerDay referenceInstant e ≠ .error (.calendar err) := by
  apply AnswersFrom.runsPerDay_ne_calendar
  intro start window hstart hwindow
  obtain rfl := Except.ok.inj (beforeReference.symm.trans hstart)
  obtain rfl := Except.ok.inj (referenceDay.symm.trans hwindow)
  have hfrom : s.FollowsCalendarFrom (.utc (Instant.wallAt ⟨2024, 12, 31⟩ 86399000000)) :=
    Or.inr ⟨h, by decide⟩
  exact hfrom.answersFrom (by decide) (by decide) ⟨by decide, by decide⟩

end CronLint
