import CronLint.Proofs.Triggers

/-!
# A clockwork that searches

There is a reliable clockwork: it reads the texts of a trigger back and searches through the
minutes. At the end stands what a scheduler lists, with this clockwork or with any other.
-/
namespace CronLint

open Calendar

def Position.selection (p : Position) (text : String) : ValueSet where
  values := (List.range' p.low (p.high - p.low + 1)).filter fun v =>
    (Field.members text).any fun part => part == ['*'] || part == (p.triggerWord v).toList
  unrestricted := true

def earliest : List Instant → Option Instant
  | [] => none
  | t :: rest =>
    match earliest rest with
    | none => some t
    | some s => if t.micros ≤ s.micros then some t else some s

/-- The recurrence of a trigger, both day positions of which have to be satisfied. -/
def Timing.recurrence (timing : Timing) : Recurrence :=
  ⟨Fields.ofFn fun p => p.selection (timing.patterns.get p)⟩

/-- Looks for the answers of a trigger in the recurrence of its patterns. -/
def searching : Clockwork where
  cron timing now :=
    (timing.recurrence.next? (Scheduler.minuteAfter (.utc (now.micros - 1)))
      (Scheduler.minuteUntil (timing.deadline.map fun d => .utc d.micros))).map
        Scheduler.minuteInstant
  either triggers now := earliest (triggers.filterMap fun trigger => trigger now)

theorem earliest_isEarliest (instants : List Instant) :
    IsEarliest (fun t => t ∈ instants) (earliest instants) := by
  induction instants with
  | nil => exact fun t => List.not_mem_nil
  | cons t rest ih =>
    unfold earliest
    cases hrest : earliest rest with
    | none =>
      rw [hrest] at ih
      refine ⟨List.mem_cons_self, ?_⟩
      intro s hs
      rcases List.mem_cons.mp hs with rfl | hs
      · exact le_rfl
      · exact absurd hs (ih s)
    | some u =>
      rw [hrest] at ih
      obtain ⟨hu, hleast⟩ := ih
      dsimp only
      split_ifs with hle
      · refine ⟨List.mem_cons_self, ?_⟩
        intro s hs
        rcases List.mem_cons.mp hs with rfl | hs
        · exact le_rfl
        · exact hle.trans (hleast s hs)
      · refine ⟨List.mem_cons_of_mem _ hu, ?_⟩
        intro s hs
        rcases List.mem_cons.mp hs with rfl | hs
        · omega
        · exact hleast s hs

theorem Position.mem_selection {p : Position} {text : String} {v : Nat}
    (hv : p.low ≤ v ∧ v ≤ p.high) : v ∈ (p.selection text).values ↔ p.Selects text v := by
  simp only [selection, Selects, List.mem_filter, List.mem_range'_1, List.any_eq_true,
    Bool.or_eq_true, beq_iff_eq]
  constructor
  · exact fun h => h.2
  · exact fun h => ⟨by omega, h⟩

theorem Position.selection_ordered (p : Position) (text : String) :
    (p.selection text).Ordered p where
  ascending := List.Pairwise.filter _ List.pairwise_lt_range'
  bounded v hv := by
    have := List.mem_range'_1.mp (List.mem_filter.mp hv).1
    have := p.low_le_high
    omega

namespace Timing

theorem orderedTimes_recurrence (timing : Timing) : timing.recurrence.OrderedTimes :=
  ⟨Position.selection_ordered _ _, Position.selection_ordered _ _⟩

theorem runsAt_recurrence_iff (timing : Timing) (m : Nat) :
    timing.recurrence.runsAt m = true ↔ ∀ p : Position,
      p.Selects (timing.patterns.get p) (p.valueAt (Scheduler.minuteInstant m)) := by
  have hmem (p : Position) : _ ↔ p.Selects (timing.patterns.get p) _ :=
    Position.mem_selection (p.valueAt_bounds (Scheduler.minuteInstant m))
  have hboth : timing.recurrence.eitherDay = false := rfl
  rw [Scheduler.runsAt_iff, hboth]
  constructor
  · rintro ⟨hminute, hhour, hmonth, -, hdays⟩ p
    rw [← hmem]
    cases p with
    | minute => exact hminute
    | hour => exact hhour
    | dayOfMonth => exact (hdays (by decide)).1
    | month => exact hmonth
    | dayOfWeek => exact (hdays (by decide)).2
  · intro hall
    have hall := fun p => (hmem p).mpr (hall p)
    exact ⟨hall .minute, hall .hour, hall .month, fun h => absurd h (by decide),
      fun _ => ⟨hall .dayOfMonth, hall .dayOfWeek⟩⟩

end Timing

theorem searching_cron_isEarliest (timing : Timing) {now : Instant} (hreach : now.InReach) :
    IsEarliest (fun t => now.micros ≤ t.micros ∧ timing.Fires t) (searching.cron timing now) := by
  have hnow : now.micros = (Instant.utc (now.micros - 1)).micros + 1 := by
    rw [Instant.micros_utc]
    omega
  have hwall := Instant.micros_of_utc hreach.utc
  have hsince := hreach.since
  have hlimits (t : Instant) : _ ↔ InLimits (.utc (now.micros - 1)) timing.deadline t :=
    Scheduler.exists_minute_iff (by rw [Instant.micros_utc]; omega) t
  simp only [Instant.micros_utc] at hlimits
  have hfirst := Recurrence.next?_isFirst timing.orderedTimes_recurrence
    (Scheduler.minuteAfter (.utc (now.micros - 1)))
    (Scheduler.minuteUntil (timing.deadline.map fun d => .utc d.micros))
  apply IsEarliest.congr _ fun t => (Timing.fires_iff hnow t).symm
  simp only [searching]
  cases hrun : timing.recurrence.next? (Scheduler.minuteAfter (.utc (now.micros - 1)))
    (Scheduler.minuteUntil (timing.deadline.map fun d => .utc d.micros)) with
  | none =>
    rw [hrun] at hfirst
    rintro t ⟨ht, hselects⟩
    obtain ⟨m, ⟨hlow, hhigh⟩, rfl⟩ := (hlimits t).mpr ht
    have hruns := (timing.runsAt_recurrence_iff m).mpr hselects
    rw [hfirst m hlow (by omega)] at hruns
    cases hruns
  | some m =>
    rw [hrun] at hfirst
    obtain ⟨⟨hlow, hhigh⟩, hruns, hbefore⟩ := hfirst
    have hm := (hlimits (Scheduler.minuteInstant m)).mp ⟨m, ⟨hlow, by omega⟩, rfl⟩
    refine ⟨⟨hm, (timing.runsAt_recurrence_iff m).mp hruns⟩, ?_⟩
    rintro t ⟨ht, hselects⟩
    obtain ⟨k, ⟨hklow, -⟩, rfl⟩ := (hlimits t).mpr ht
    have hle : m ≤ k := by
      by_contra hlt
      have hk := (timing.runsAt_recurrence_iff k).mpr hselects
      rw [hbefore k hklow (by omega)] at hk
      cases hk
    simp only [Scheduler.minuteInstant_micros, microsPerMinute, microsPerSecond]
    omega

theorem searching_reliable : searching.Reliable where
  cron_least timing _ _ hreach := searching_cron_isEarliest timing hreach
  either_least triggers now _ := by
    apply (earliest_isEarliest _).congr
    intro t
    simp

/-- The runs of an accepted expression are listed in order, from the first after the start up to the
number asked for. If any are asked for, the horizon has to have a reading on a UTC clock. Triggers
of a reliable clockwork give the same list. -/
theorem next_lists_first_runs (e : String) (start : Instant) (count : Int)
    (horizon : Option Instant) (accepted : calendarScheduler.validate e = .ok ())
    (since : epochDay * microsPerDay ≤ start.micros)
    (before : start.micros < calendarEnd - microsPerSecond) :
    ∃ (raw : Fields String) (runs : List Instant), Spells e raw ∧
      runs.Pairwise (fun s t => s.micros < t.micros) ∧
      (∀ t, t ∈ runs ↔ IsRun raw start horizon t) ∧
      (count ≤ 0 ∨ (∀ h ∈ horizon, h.InCalendar) →
        calendarScheduler.next e start count horizon = .ok (runs.take count.toNat)) ∧
      (0 < count ∧ (∃ h ∈ horizon, ¬ h.InCalendar) →
        calendarScheduler.next e start count horizon = .error (.calendar .outOfRange)) ∧
      ∀ c : Clockwork, c.Reliable →
        (triggerScheduler c).next e start count horizon =
          calendarScheduler.next e start count horizon := by
  obtain ⟨r, hr⟩ := calendarScheduler_validate_eq_ok_iff.mp accepted
  obtain ⟨raw, hspells, hraw⟩ := Recurrence.ofExpression_eq_ok_iff.mp hr
  have hordered := Scheduler.orderedTimes_of_ofFields hraw
  have hepoch : 0 ≤ epochDay * microsPerDay := by decide
  refine ⟨raw, Scheduler.runs r start horizon, hspells, Scheduler.runs_ascending r start horizon,
    Scheduler.mem_runs_iff hraw (by omega), ?_, ?_, ?_⟩
  · intro h
    rw [calendarScheduler_next_of_ok hr]
    rcases lt_or_ge 0 count with hcount | hcount
    · rw [Scheduler.project_of_horizonInCalendar hordered (hepoch.trans since) before hcount
        (h.resolve_left (by omega))]
      rfl
    · rw [Scheduler.project_of_nonpos hcount, Int.toNat_of_nonpos hcount, List.take_zero]
      rfl
  · rintro ⟨hcount, hhorizon⟩
    rw [calendarScheduler_next_of_ok hr, Scheduler.project_of_horizonOutside hcount hhorizon]
    rfl
  · intro c reliable
    exact triggerScheduler_next_eq reliable e count (by omega) before

/-- The Mondays of 2025, of which three are asked for, also from the clockwork that searches. -/
theorem next_lists_first_mondays :
    ∃ (raw : Fields String) (runs : List Instant), Spells "0 5 * * mon" raw ∧
      (∀ t, t ∈ runs ↔ IsRun raw (.utc (Instant.wallAt ⟨2025, 1, 1⟩ 0))
        (some ⟨Instant.wallAt ⟨2026, 1, 1⟩ 0, none⟩) t) ∧
      calendarScheduler.next "0 5 * * mon" (.utc (Instant.wallAt ⟨2025, 1, 1⟩ 0)) 3
        (some ⟨Instant.wallAt ⟨2026, 1, 1⟩ 0, none⟩) = .ok (runs.take 3) ∧
      (triggerScheduler searching).next "0 5 * * mon" (.utc (Instant.wallAt ⟨2025, 1, 1⟩ 0)) 3
        (some ⟨Instant.wallAt ⟨2026, 1, 1⟩ 0, none⟩) = .ok (runs.take 3) := by
  obtain ⟨raw, runs, hspells, -, hruns, hnext, -, hasked⟩ :=
    next_lists_first_runs "0 5 * * mon" (.utc (Instant.wallAt ⟨2025, 1, 1⟩ 0)) 3
      (some ⟨Instant.wallAt ⟨2026, 1, 1⟩ 0, none⟩)
      (by decide) (by decide) (by decide)
  have hlist := hnext (Or.inr (by
    rintro h ⟨⟩
    exact ⟨by decide, by decide⟩))
  exact ⟨raw, runs, hspells, hruns, hlist, (hasked searching searching_reliable).trans hlist⟩

/-- The last second of year 9999 on a clock behind UTC cannot be a horizon, although runs come
before it. -/
theorem next_fails_behind_utc :
    calendarScheduler.validate "* * * * *" = .ok () ∧
      ¬ ∃ (raw : Fields String) (runs : List Instant), Spells "* * * * *" raw ∧
        runs.Pairwise (fun s t => s.micros < t.micros) ∧
        (∀ t, t ∈ runs ↔ IsRun raw (.utc (Instant.wallAt ⟨2025, 1, 1⟩ 0))
          (some ⟨Instant.wallAt ⟨9999, 12, 31⟩ 86399000000, some (-50400)⟩) t) ∧
        calendarScheduler.next "* * * * *" (.utc (Instant.wallAt ⟨2025, 1, 1⟩ 0)) 1
          (some ⟨Instant.wallAt ⟨9999, 12, 31⟩ 86399000000, some (-50400)⟩) =
            .ok (runs.take 1) := by
  refine ⟨by decide, ?_⟩
  rintro ⟨raw, runs, -, -, -, hnext⟩
  have hfails : calendarScheduler.next "* * * * *" (.utc (Instant.wallAt ⟨2025, 1, 1⟩ 0)) 1
      (some ⟨Instant.wallAt ⟨9999, 12, 31⟩ 86399000000, some (-50400)⟩) =
        .error (.calendar .outOfRange) := by
    decide
  cases hfails.symm.trans hnext

end CronLint
