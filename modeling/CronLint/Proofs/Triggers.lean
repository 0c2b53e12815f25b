import CronLint.Proofs.Patterns
import CronLint.Proofs.Projection

/-!
# Runs from triggers

The runs of an expression can also be had from triggers that know nothing of its grammar. A trigger
is made for the texts of five sets and for a deadline; asked with an instant, it answers with the
next one at which it goes off. Where both day fields are restricted, two triggers are made and the
earlier answer counts. `Clockwork` makes triggers, and `Clockwork.Reliable` says what is expected of
them. With a reliable clockwork, asking again and again gives the list of the calendar scheduler.
-/
namespace CronLint

open Calendar

/-- What a trigger is made for. Its clock is a UTC clock, and it goes off when a minute starts. -/
structure Timing where
  patterns : Fields String
  deadline : Option Instant

/-- The instants at which a trigger may go off. -/
structure Timing.Fires (timing : Timing) (t : Instant) : Prop where
  utc : t.offset = some 0
  wholeMinute : microsPerMinute ∣ t.wall
  byDeadline : ∀ d ∈ timing.deadline, t.micros ≤ d.micros
  byLastYear : t.date.year ≤ lastYear
  selected : ∀ p : Position, p.Selects (timing.patterns.get p) (p.valueAt t)

def IsEarliest (P : Instant → Prop) (found : Option Instant) : Prop :=
  match found with
  | none => ∀ t, ¬ P t
  | some t => P t ∧ ∀ s, P s → t.micros ≤ s.micros

/-- Makes triggers. A trigger answers with the next instant, from a given one on, at which it goes
off. `either` makes one that goes off whenever one of the given triggers does. -/
structure Clockwork where
  cron : Timing → Instant → Option Instant
  either : List (Instant → Option Instant) → Instant → Option Instant

/-- The instants at which a trigger can be asked: on a UTC clock, not before 1970, and with one more
second left in the calendar. -/
structure Calendar.Instant.InReach (now : Instant) : Prop where
  utc : now.offset = some 0
  since : epochDay * microsPerDay ≤ now.wall
  before : now.wall ≤ calendarEnd - microsPerSecond

/-- What is expected of triggers. -/
structure Clockwork.Reliable (c : Clockwork) : Prop where
  cron_least : ∀ timing now, (∀ p : Position, p.IsPattern (timing.patterns.get p)) → now.InReach →
    IsEarliest (fun t => now.micros ≤ t.micros ∧ timing.Fires t) (c.cron timing now)
  either_least : ∀ triggers now,
    (∀ trigger ∈ triggers, ∀ t, trigger now = some t → t.offset = some 0) →
    IsEarliest (fun t => ∃ trigger ∈ triggers, trigger now = some t) (c.either triggers now)

def Fields.ofFn {α : Type} (f : Position → α) : Fields α :=
  ⟨f .minute, f .hour, f .dayOfMonth, f .month, f .dayOfWeek⟩

@[simp] theorem Fields.get_ofFn {α : Type} (f : Position → α) (p : Position) :
    (Fields.ofFn f).get p = f p := by
  cases p <;> rfl

namespace Recurrence

def patterns (r : Recurrence) : Fields String := Fields.ofFn fun p => (r.sets.get p).pattern p

/-- The patterns, but one position admits every value. -/
def patternsWithout (r : Recurrence) (skip : Position) : Fields String :=
  Fields.ofFn fun p => if p = skip then "*" else (r.sets.get p).pattern p

/-- The trigger of a recurrence. If either day position will do, each has a trigger of its own that
leaves the other one open. -/
def trigger (r : Recurrence) (c : Clockwork) (deadline : Option Instant) :
    Instant → Option Instant :=
  if r.eitherDay then
    c.either [c.cron ⟨r.patternsWithout .dayOfWeek, deadline⟩,
      c.cron ⟨r.patternsWithout .dayOfMonth, deadline⟩]
  else c.cron ⟨r.patterns, deadline⟩

end Recurrence

/-- Up to `count` answers of a trigger. It is asked again from a microsecond after its last answer
on. -/
def answers (trigger : Instant → Option Instant) :
    (count : Nat) → (current : Instant) → Except CalendarError (List Instant)
  | 0, _ => .ok []
  | count + 1, current => do
    match trigger (← current.plus 1) with
    | none => return []
    | some t => return t :: (← answers trigger count t)

/-- The runs of a recurrence after `start`, as its trigger gives them. -/
def Scheduler.ask (c : Clockwork) (r : Recurrence) (start : Instant) (count : Int)
    (horizon : Option Instant) : Except CalendarError (List Instant) := do
  if count ≤ 0 then return []
  let deadline ← match horizon with
    | none => pure none
    | some h => some <$> h.toUtc
  answers (r.trigger c deadline) count.toNat (← start.toUtc)

/-- The scheduler that lists what triggers answer. -/
def triggerScheduler (c : Clockwork) : Scheduler where
  validate := calendarScheduler.validate
  next e start count horizon :=
    match Recurrence.ofExpression e with
    | .error fault => .error (.rejected fault.toRejection)
    | .ok r => (Scheduler.ask c r start count horizon).mapError .calendar

/-! ### One answer -/

namespace IsEarliest

variable {P Q : Instant → Prop} {a b found : Option Instant} {s t : Instant}

theorem exists_le (h : IsEarliest P found) (hs : P s) :
    ∃ t, found = some t ∧ t.micros ≤ s.micros := by
  cases found with
  | none => exact absurd hs (h s)
  | some t => exact ⟨t, rfl, h.2 s hs⟩

theorem congr (h : IsEarliest P found) (hPQ : ∀ t, P t ↔ Q t) : IsEarliest Q found := by
  obtain rfl : P = Q := funext fun t => propext (hPQ t)
  exact h

/-- The earlier of two answers is the answer for both properties. -/
theorem or (ha : IsEarliest P a) (hb : IsEarliest Q b)
    (h : IsEarliest (fun t => a = some t ∨ b = some t) found) :
    IsEarliest (fun t => P t ∨ Q t) found := by
  have hbound : ∀ s, P s ∨ Q s → ∃ t, (a = some t ∨ b = some t) ∧ t.micros ≤ s.micros := by
    rintro s (hs | hs)
    · obtain ⟨t, ht, hle⟩ := ha.exists_le hs
      exact ⟨t, Or.inl ht, hle⟩
    · obtain ⟨t, ht, hle⟩ := hb.exists_le hs
      exact ⟨t, Or.inr ht, hle⟩
  cases found with
  | none =>
    intro s hs
    obtain ⟨t, ht, -⟩ := hbound s hs
    exact h t ht
  | some t =>
    refine ⟨?_, ?_⟩
    · rcases h.1 with rfl | rfl
      · exact Or.inl ha.1
      · exact Or.inr hb.1
    · intro s hs
      obtain ⟨u, hu, hle⟩ := hbound s hs
      exact (h.2 u hu).trans hle

end IsEarliest

theorem Clockwork.Reliable.either_isEarliest {c : Clockwork} (reliable : c.Reliable)
    {P Q : Instant → Prop} {a b : Instant → Option Instant} {now : Instant}
    (ha : IsEarliest P (a now)) (hb : IsEarliest Q (b now))
    (hP : ∀ t, P t → t.offset = some 0) (hQ : ∀ t, Q t → t.offset = some 0) :
    IsEarliest (fun t => P t ∨ Q t) (c.either [a, b] now) := by
  have hutc : ∀ trigger ∈ [a, b], ∀ t, trigger now = some t → t.offset = some 0 := by
    intro trigger htrigger t ht
    simp only [List.mem_cons, List.not_mem_nil, or_false] at htrigger
    rcases htrigger with rfl | rfl
    · rw [ht] at ha
      exact hP t ha.1
    · rw [ht] at hb
      exact hQ t hb.1
  apply ha.or hb
  apply (reliable.either_least [a, b] now hutc).congr
  intro t
  simp

theorem Timing.fires_iff {timing : Timing} {current now : Instant}
    (hnow : now.micros = current.micros + 1) (t : Instant) :
    now.micros ≤ t.micros ∧ timing.Fires t ↔
      InLimits current timing.deadline t ∧
        ∀ p : Position, p.Selects (timing.patterns.get p) (p.valueAt t) := by
  constructor
  · rintro ⟨hafter, hfires⟩
    exact ⟨⟨hfires.utc, hfires.wholeMinute, by omega, hfires.byDeadline, hfires.byLastYear⟩,
      hfires.selected⟩
  · rintro ⟨hlimits, hselected⟩
    have := hlimits.afterStart
    exact ⟨by omega, ⟨hlimits.utc, hlimits.wholeMinute, hlimits.byHorizon, hlimits.byLastYear,
      hselected⟩⟩

/-- It does not matter on which clock the horizon is read. -/
theorem inLimits_utc_iff {current t : Instant} {horizon : Option Instant} :
    InLimits current (horizon.map fun h => .utc h.micros) t ↔ InLimits current horizon t := by
  have hhorizon : (∀ d ∈ horizon.map fun h => Instant.utc h.micros, t.micros ≤ d.micros) ↔
      ∀ h ∈ horizon, t.micros ≤ h.micros := by
    cases horizon with
    | none => simp
    | some h => simp
  constructor
  · intro h
    exact ⟨h.utc, h.wholeMinute, h.afterStart, hhorizon.mp h.byHorizon, h.byLastYear⟩
  · intro h
    exact ⟨h.utc, h.wholeMinute, h.afterStart, hhorizon.mpr h.byHorizon, h.byLastYear⟩

namespace Recurrence

variable {raw : Fields String} {r : Recurrence} {c : Clockwork} {current now : Instant}
  {horizon : Option Instant}

theorem selects_pattern_iff (h : ofFields raw = .ok r) (p : Position) (t : Instant) :
    p.Selects ((r.sets.get p).pattern p) (p.valueAt t) ↔ p.Admits (raw.get p) (p.valueAt t) := by
  have hread := ofFields_eq_ok_iff.mp h p
  rw [ValueSet.selects_pattern_iff (Scheduler.ordered_of_ofFields h p)
    (ValueSet.values_ne_nil_of_read hread) (p.valueAt_bounds t), ValueSet.mem_of_read hread]

theorem isPattern_pattern (h : ofFields raw = .ok r) (p : Position) :
    p.IsPattern ((r.sets.get p).pattern p) :=
  ValueSet.isPattern_pattern (Scheduler.ordered_of_ofFields h p)
    (ValueSet.values_ne_nil_of_read (ofFields_eq_ok_iff.mp h p))

theorem selects_patterns_iff (h : ofFields raw = .ok r) (t : Instant) :
    (∀ p : Position, p.Selects (r.patterns.get p) (p.valueAt t)) ↔
      ∀ p : Position, p.Admits (raw.get p) (p.valueAt t) := by
  simp only [patterns, Fields.get_ofFn, selects_pattern_iff h]

theorem isPattern_patterns (h : ofFields raw = .ok r) (p : Position) :
    p.IsPattern (r.patterns.get p) := by
  rw [patterns, Fields.get_ofFn]
  exact isPattern_pattern h p

theorem selects_patternsWithout_iff (h : ofFields raw = .ok r) (skip : Position) (t : Instant) :
    (∀ p : Position, p.Selects ((r.patternsWithout skip).get p) (p.valueAt t)) ↔
      ∀ p : Position, p ≠ skip → p.Admits (raw.get p) (p.valueAt t) := by
  simp only [patternsWithout, Fields.get_ofFn]
  constructor
  · intro hall p hp
    have := hall p
    rwa [if_neg hp, selects_pattern_iff h] at this
  · intro hall p
    by_cases hp : p = skip
    · rw [if_pos hp]
      exact p.selects_star _
    · rw [if_neg hp, selects_pattern_iff h]
      exact hall p hp

theorem isPattern_patternsWithout (h : ofFields raw = .ok r) (skip p : Position) :
    p.IsPattern ((r.patternsWithout skip).get p) := by
  rw [patternsWithout, Fields.get_ofFn]
  by_cases hp : p = skip
  · rw [if_pos hp]
    exact p.isPattern_star
  · rw [if_neg hp]
    exact isPattern_pattern h p

/-- Asked a microsecond after the last run, the trigger answers with the next run. -/
theorem trigger_isEarliest (reliable : c.Reliable) (h : ofFields raw = .ok r)
    (hreach : now.InReach) (hnow : now.micros = current.micros + 1) :
    IsEarliest (IsRun raw current horizon)
      (r.trigger c (horizon.map fun h => .utc h.micros) now) := by
  have hcron {patterns : Fields String} (hall : ∀ p : Position, p.IsPattern (patterns.get p)) :=
    (reliable.cron_least ⟨patterns, horizon.map fun h => .utc h.micros⟩ now hall hreach).congr
      fun t => (Timing.fires_iff hnow t).trans (and_congr_left' inLimits_utc_iff)
  unfold trigger
  by_cases heither : r.eitherDay = true
  · have hdate := hcron (isPattern_patternsWithout h .dayOfWeek)
    have hweekday := hcron (isPattern_patternsWithout h .dayOfMonth)
    have hfirst := reliable.either_isEarliest hdate hweekday (fun t ht => ht.1.utc)
      (fun t ht => ht.1.utc)
    rw [if_pos heither]
    rw [Scheduler.eitherDay_iff h] at heither
    apply hfirst.congr
    intro t
    rw [selects_patternsWithout_iff h, selects_patternsWithout_iff h, ← and_or_left,
      ← Fields.match_iff_of_either heither, isRun_iff]
  · have hdays := hcron (isPattern_patterns h)
    rw [if_neg heither]
    rw [Scheduler.eitherDay_iff h] at heither
    apply hdays.congr
    intro t
    rw [selects_patterns_iff h, ← Fields.match_iff_of_both heither, isRun_iff]

end Recurrence

/-! ### All answers -/

section

variable {raw : Fields String} {r : Recurrence} {c : Clockwork} {start current t : Instant}
  {horizon : Option Instant}

/-- After a run, a minute is left of the calendar. -/
theorem IsRun.wall_le (h : IsRun raw current horizon t) (nonneg : 0 ≤ t.wall) :
    t.wall ≤ calendarEnd - microsPerMinute := by
  obtain ⟨m, rfl⟩ := Scheduler.exists_minuteInstant h.utc h.wholeMinute nonneg
  have hlast := (Scheduler.year_minuteInstant_iff m).mp h.byLastYear
  have hend := Scheduler.lastMinute_succ
  have hcalendar : calendarEnd = (dayCount * 1440 : Nat) * microsPerMinute := by decide
  rw [Scheduler.minuteInstant_wall, hcalendar, ← hend]
  simp only [microsPerMinute, microsPerSecond]
  push_cast
  omega

/-- The runs after a run are the later ones. -/
theorem IsRun.after_iff (h : IsRun raw current horizon t) (u : Instant) :
    IsRun raw t horizon u ↔ IsRun raw current horizon u ∧ t.micros < u.micros := by
  have hafter := h.afterStart
  constructor
  · intro hu
    exact ⟨⟨⟨hu.utc, hu.wholeMinute, hafter.trans hu.afterStart, hu.byHorizon, hu.byLastYear⟩,
      hu.matched⟩, hu.afterStart⟩
  · rintro ⟨hu, hlater⟩
    exact ⟨⟨hu.utc, hu.wholeMinute, hlater, hu.byHorizon, hu.byLastYear⟩, hu.matched⟩

theorem runs_eq_nil {runs : List Instant} (hruns : ∀ t, t ∈ runs ↔ IsRun raw current horizon t)
    (hnone : IsEarliest (IsRun raw current horizon) none) : runs = [] := by
  rw [List.eq_nil_iff_forall_not_mem]
  intro t ht
  exact hnone t ((hruns t).mp ht)

/-- The runs in order start with the earliest one, and the runs after it follow. -/
theorem exists_runs_eq_cons {runs : List Instant}
    (ascending : runs.Pairwise fun s t => s.micros < t.micros)
    (hruns : ∀ t, t ∈ runs ↔ IsRun raw current horizon t)
    (hnext : IsEarliest (IsRun raw current horizon) (some t)) :
    ∃ later, runs = t :: later ∧ (later.Pairwise fun s t => s.micros < t.micros) ∧
      ∀ u, u ∈ later ↔ IsRun raw t horizon u := by
  obtain ⟨hrun, hleast⟩ := hnext
  have ht := (hruns t).mpr hrun
  cases runs with
  | nil => cases ht
  | cons first later =>
    obtain ⟨hfirst, hlater⟩ := List.pairwise_cons.mp ascending
    have hle := hleast first ((hruns first).mp List.mem_cons_self)
    obtain rfl : t = first := by
      rcases List.mem_cons.mp ht with heq | hmem
      · exact heq
      · have := hfirst t hmem
        omega
    refine ⟨later, rfl, hlater, fun u => ?_⟩
    rw [hrun.after_iff, ← hruns, List.mem_cons]
    constructor
    · intro hu
      exact ⟨Or.inr hu, hfirst u hu⟩
    · rintro ⟨rfl | hu, hlt⟩
      · exact absurd hlt (lt_irrefl _)
      · exact hu

theorem exists_plus_one (utc : current.offset = some 0)
    (since : epochDay * microsPerDay ≤ current.wall + 1)
    (before : current.wall < calendarEnd - microsPerSecond) :
    ∃ now, current.plus 1 = .ok now ∧ now.InReach ∧ now.micros = current.micros + 1 := by
  have hepoch : (0 : Int) ≤ epochDay * microsPerDay := by decide
  have hsecond : (0 : Int) < microsPerSecond := by decide
  refine ⟨⟨current.wall + 1, current.offset⟩, ?_, ⟨utc, ?_, ?_⟩, ?_⟩
  · unfold Instant.plus Instant.ofWall
    rw [if_pos (by omega)]
  · dsimp only
    omega
  · dsimp only
    omega
  · simp [Instant.micros, utc]

theorem answers_eq (reliable : c.Reliable) (h : Recurrence.ofFields raw = .ok r)
    (utc : current.offset = some 0) (since : epochDay * microsPerDay ≤ current.wall + 1)
    (before : current.wall < calendarEnd - microsPerSecond) {runs : List Instant}
    (ascending : runs.Pairwise fun s t => s.micros < t.micros)
    (hruns : ∀ t, t ∈ runs ↔ IsRun raw current horizon t) (count : Nat) :
    answers (r.trigger c (horizon.map fun h => .utc h.micros)) count current =
      .ok (runs.take count) := by
  -- `runs` is what is still to come, `current` the start or the run that came last.
  induction count generalizing current runs with
  | zero => rfl
  | succ count ih =>
    obtain ⟨now, hplus, hreach, hnow⟩ := exists_plus_one utc since before
    have hnext : IsEarliest (IsRun raw current horizon) _ :=
      Recurrence.trigger_isEarliest reliable h hreach hnow
    unfold answers
    rw [hplus]
    change (match r.trigger c (horizon.map fun h => .utc h.micros) now with
      | none => _
      | some t => _) = _
    cases htrigger : r.trigger c (horizon.map fun h => .utc h.micros) now with
    | none =>
      rw [htrigger] at hnext
      rw [runs_eq_nil hruns hnext]
      rfl
    | some t =>
      rw [htrigger] at hnext
      obtain ⟨later, rfl, hlater, hmem⟩ := exists_runs_eq_cons ascending hruns hnext
      have hrun := hnext.1
      have hafter := hrun.afterStart
      have hwall : current.wall < t.wall := by
        simpa [Instant.micros, utc, hrun.utc] using hafter
      have hend := hrun.wall_le (by
        have hepoch : (0 : Int) ≤ epochDay * microsPerDay := by decide
        omega)
      have hsecond : microsPerSecond < microsPerMinute := by decide
      dsimp only
      rw [ih hrun.utc (by omega) (by omega) hlater hmem]
      rfl

namespace Scheduler

variable {count : Int}

theorem ask_of_horizonInCalendar (reliable : c.Reliable) (h : Recurrence.ofFields raw = .ok r)
    (since : epochDay * microsPerDay ≤ start.micros + 1)
    (before : start.micros < calendarEnd - microsPerSecond) (hcount : 0 < count)
    (hhorizon : ∀ h ∈ horizon, h.InCalendar) :
    ask c r start count horizon = .ok ((runs r start horizon).take count.toNat) := by
  have hepoch : (0 : Int) < epochDay * microsPerDay := by decide
  have hsecond : 0 < microsPerSecond := by decide
  have hstart : start.toUtc = .ok (.utc start.micros) :=
    toUtc_of_inCalendar ⟨by omega, by omega⟩
  have hsame : runs r start horizon = runs r (.utc start.micros) horizon := by
    simp only [runs, Instant.micros_utc]
  have hmem (t : Instant) : _ ↔ IsRun raw (.utc start.micros) horizon t :=
    mem_runs_iff h (by rw [Instant.micros_utc]; omega) t
  have hanswers := answers_eq reliable h rfl since before (runs_ascending r _ horizon) hmem
    count.toNat
  rw [hsame, ← hanswers]
  unfold ask
  rw [if_neg (by omega), hstart]
  cases horizon with
  | none => rfl
  | some t =>
    dsimp only
    rw [toUtc_of_inCalendar (hhorizon t rfl)]
    rfl

/-- Whatever is asked for, triggers give what the calendar scheduler works out. -/
theorem ask_eq_project (reliable : c.Reliable) (h : Recurrence.ofFields raw = .ok r)
    (since : epochDay * microsPerDay ≤ start.micros + 1)
    (before : start.micros < calendarEnd - microsPerSecond) :
    ask c r start count horizon = project r start count horizon := by
  have hepoch : (0 : Int) < epochDay * microsPerDay := by decide
  by_cases hcount : count ≤ 0
  · rw [project_of_nonpos hcount]
    unfold ask
    rw [if_pos hcount]
    rfl
  · by_cases hhorizon : ∀ h ∈ horizon, h.InCalendar
    · rw [ask_of_horizonInCalendar reliable h since before (by omega) hhorizon,
        project_of_horizonInCalendar (orderedTimes_of_ofFields h) (by omega) before
          (by omega) hhorizon]
    · simp only [not_forall] at hhorizon
      obtain ⟨t, ht, hout⟩ := hhorizon
      rw [project_of_horizonOutside (by omega) ⟨t, ht, hout⟩]
      cases ht
      unfold ask
      rw [if_neg hcount]
      dsimp only
      rw [toUtc_of_notInCalendar hout]
      rfl

end Scheduler

/-- A scheduler built on a reliable clockwork answers every request like the calendar scheduler. -/
theorem triggerScheduler_next_eq (reliable : c.Reliable) (e : String) (count : Int)
    (since : epochDay * microsPerDay ≤ start.micros + 1)
    (before : start.micros < calendarEnd - microsPerSecond) :
    (triggerScheduler c).next e start count horizon =
      calendarScheduler.next e start count horizon := by
  cases hr : Recurrence.ofExpression e with
  | error fault => simp only [triggerScheduler, calendarScheduler, hr]
  | ok r =>
    obtain ⟨raw, -, hraw⟩ := Recurrence.ofExpression_eq_ok_iff.mp hr
    rw [calendarScheduler_next_of_ok hr, ← Scheduler.ask_eq_project reliable hraw since before]
    simp only [triggerScheduler, hr]

end

/-! ### Schedulers of the calendar -/

/-- The scheduler lists the runs of the calendar, worked out or asked of triggers. -/
def Scheduler.FollowsCalendar (s : Scheduler) : Prop :=
  s = calendarScheduler ∨ ∃ c : Clockwork, c.Reliable ∧ s = triggerScheduler c

namespace Scheduler.FollowsCalendar

variable {s : Scheduler} {start : Instant} {count : Int} {horizon : Option Instant} {e e' : String}

theorem validate_eq (h : s.FollowsCalendar) : s.validate e = calendarScheduler.validate e := by
  rcases h with rfl | ⟨c, -, rfl⟩ <;> rfl

theorem next_eq (h : s.FollowsCalendar) (since : epochDay * microsPerDay ≤ start.micros + 1)
    (before : start.micros < calendarEnd - microsPerSecond) :
    s.next e start count horizon = calendarScheduler.next e start count horizon := by
  rcases h with rfl | ⟨c, reliable, rfl⟩
  · rfl
  · exact triggerScheduler_next_eq reliable e count since before

/-- Nothing but the recurrence of an expression is looked at. -/
theorem next_congr (h : s.FollowsCalendar)
    (hr : Recurrence.ofExpression e = Recurrence.ofExpression e') : s.next e = s.next e' := by
  rcases h with rfl | ⟨c, -, rfl⟩
  · simp only [calendarScheduler, hr]
  · simp only [triggerScheduler, hr]

theorem next_of_rejected (h : s.FollowsCalendar) (hr : ∀ r, Recurrence.ofExpression e ≠ .ok r)
    (start : Instant) (count : Int) (horizon : Option Instant) :
    ∃ rejection, s.next e start count horizon = .error (.rejected rejection) := by
  rcases h with rfl | ⟨c, -, rfl⟩
  · exact calendarScheduler_next_of_rejected hr start count horizon
  · cases hfault : Recurrence.ofExpression e with
    | ok r => exact absurd hfault (hr r)
    | error fault => exact ⟨fault.toRejection, by simp only [triggerScheduler, hfault]⟩

end Scheduler.FollowsCalendar

end CronLint
