import CronLint.Proofs.OverlapMinutes

/-!
# Overlaps, told by the jobs

A job hits a minute if a run listed for it lies there and counts: it is not before the window, and
the list has not left the window before. Whatever a scheduler lists, the overlaps are the minutes
that jobs with different identifiers hit. The identifiers stand in the order of the jobs, the
overlaps in the order of time, and the worst of them are those with the most jobs.
-/
namespace CronLint

open Calendar

/-! ### Places in lists -/

section

variable {α β : Type} {l : List α} {p : α → Bool} {a : α}

theorem mem_takeWhile_iff : a ∈ l.takeWhile p ↔
    ∃ before after, l = before ++ a :: after ∧ (∀ b ∈ before, p b = true) ∧ p a = true := by
  constructor
  · intro h
    obtain ⟨before, after, hsplit⟩ := List.append_of_mem h
    obtain ⟨rest, hrest⟩ := List.takeWhile_prefix (l := l) p
    have hall : ∀ b ∈ before ++ a :: after, p b = true := by
      intro b hb
      rw [← hsplit] at hb
      exact List.mem_takeWhile_imp hb
    refine ⟨before, after ++ rest, ?_, ?_, hall a (by simp)⟩
    · rw [← hrest, hsplit, List.append_assoc, List.cons_append]
    · intro b hb
      exact hall b (List.mem_append_left _ hb)
  · rintro ⟨before, after, rfl, hbefore, ha⟩
    rw [List.takeWhile_append_of_pos hbefore, List.takeWhile_cons_of_pos ha]
    simp

end

/-! ### Jobs that hit a minute -/

/-- A listed run counts if it is not before the start of the window, and neither it nor a run listed
before it is at or after the end. -/
def Window.Counts (w : Window) (times : List Instant) (t : Instant) : Prop :=
  w.start.micros ≤ t.micros ∧ ∃ before after, times = before ++ t :: after ∧
    (∀ u ∈ before, u.micros < w.stop.micros) ∧ t.micros < w.stop.micros

/-- Asked for runs from `start` to `horizon`, the scheduler rejects the expression or lists instants
on a UTC clock, in any order. -/
def Scheduler.AnswersInUtc (s : Scheduler) (start horizon : Instant) : Prop :=
  ∀ e count, (∃ r, s.next e start count (some horizon) = .error (.rejected r)) ∨
    ∃ times, s.next e start count (some horizon) = .ok times ∧ ∀ t ∈ times, t.offset = some 0

theorem Window.subset_of_clip {w : Window} {times reached : List Instant}
    (h : w.clip times = .ok reached) : reached ⊆ times := by
  unfold clip at h
  dsimp only at h
  split_ifs at h
  obtain rfl := Except.ok.inj h
  exact fun t ht => List.takeWhile_subset _ (List.mem_of_mem_filter ht)

theorem Window.mem_clip_iff {w : Window} {times reached : List Instant}
    (clock : ∀ t ∈ times, w.sameClock t = true) (h : w.clip times = .ok reached) (t : Instant) :
    t ∈ reached ↔ w.Counts times t := by
  obtain rfl := Except.ok.inj ((Window.clip_eq clock).symm.trans h)
  rw [List.mem_filter, mem_takeWhile_iff, decide_eq_true_eq, and_comm]
  refine and_congr_right fun _ => ?_
  constructor
  · rintro ⟨before, after, rfl, hbefore, ht⟩
    simp only [Window.reaches, Bool.and_eq_true, decide_eq_true_eq] at hbefore ht
    exact ⟨before, after, rfl, fun u hu => (hbefore u hu).2, ht.2⟩
  · rintro ⟨before, after, rfl, hbefore, ht⟩
    refine ⟨before, after, rfl, ?_, ?_⟩
    · intro u hu
      simp [Window.reaches, clock u (by simp [hu]), hbefore u hu]
    · simp [Window.reaches, clock t (by simp), ht]

namespace Scheduler

variable {s : Scheduler} {w : Window} {limit : Int} {jobs : List Job}

/-- The runs of a job in a window, none if they cannot be looked up. -/
def runsOf (s : Scheduler) (w : Window) (limit : Int) (job : Job) : List Instant :=
  (s.runsInWindow w limit job.expression).toOption.getD []

theorem exists_of_mem_runsOf {job : Job} {t : Instant} (h : t ∈ s.runsOf w limit job) :
    ∃ times, s.next job.expression w.start limit (some w.stop) = .ok times ∧ t ∈ times := by
  unfold runsOf runsInWindow at h
  cases hnext : s.next job.expression w.start limit (some w.stop) with
  | error err => cases err <;> simp [hnext, Except.toOption] at h
  | ok times =>
    refine ⟨times, rfl, ?_⟩
    simp only [hnext] at h
    cases hclip : w.clip times with
    | error err => simp [hclip, Except.toOption] at h
    | ok reached =>
      rw [hclip] at h
      exact Window.subset_of_clip hclip h

theorem AnswersInUtc.offset_of_mem_runsOf (h : s.AnswersInUtc w.start w.stop) (limit : Int)
    (job : Job) : ∀ t ∈ s.runsOf w limit job, t.offset = some 0 := by
  intro t ht
  obtain ⟨times, hnext, hmem⟩ := exists_of_mem_runsOf ht
  obtain ⟨r, hrejected⟩ | ⟨times, hlisted, hutc⟩ := h job.expression limit
  · cases hnext.symm.trans hrejected
  · obtain rfl := Except.ok.inj (hnext.symm.trans hlisted)
    exact hutc t hmem

theorem AnswersInUtc.runsOf_spec (h : s.AnswersInUtc w.start w.stop)
    (zoned : w.stop.offset.isSome = true) (limit : Int) (job : Job) :
    s.runsInWindow w limit job.expression = .ok (s.runsOf w limit job) ∧
      ∀ t, t ∈ s.runsOf w limit job ↔
        ∃ times, s.next job.expression w.start limit (some w.stop) = .ok times ∧
          w.Counts times t := by
  unfold runsOf runsInWindow
  obtain ⟨r, hnext⟩ | ⟨times, hnext, hutc⟩ := h job.expression limit
  · rw [hnext]
    simp [Except.toOption]
  · have hclock : ∀ t ∈ times, w.sameClock t = true := by
      intro t ht
      simp [Window.sameClock, zoned, hutc t ht]
    obtain ⟨reached, hreached⟩ := Window.exists_clip hclock
    rw [hnext]
    simp only [hreached, Except.toOption, Option.getD_some, true_and, Except.ok.injEq,
      exists_eq_left']
    exact Window.mem_clip_iff hclock hreached

theorem AnswersInUtc.hits_eq (h : s.AnswersInUtc w.start w.stop)
    (zoned : w.stop.offset.isSome = true) (limit : Int) (jobs : List Job) :
    s.hits w limit jobs = .ok (hitsBy (s.runsOf w limit) jobs) :=
  Scheduler.hits_eq fun job _ _ => (h.runsOf_spec zoned limit job).1

end Scheduler

/-! ### The order of overlaps -/

section

variable {hits : List (Instant × String)}

theorem time_of_overlapOfHits? {k : Int} {x : Overlap}
    (h : overlapOfHits? (withKey (fun hit => hit.1.micros) hits k) = some x) :
    x.time.micros = k := by
  cases hgroup : withKey (fun hit : Instant × String => hit.1.micros) hits k with
  | nil =>
    rw [hgroup] at h
    cases h
  | cons hit rest =>
    have hhit : hit ∈ withKey (fun hit : Instant × String => hit.1.micros) hits k := by
      simp [hgroup]
    rw [hgroup] at h
    simp only [overlapOfHits?, Option.ite_none_right_eq_some, Option.some.injEq] at h
    rw [← h.2]
    exact (mem_withKey.mp hhit).2

/-- On any clocks, overlaps come in the order of time. -/
theorem overlapsOfHits_ascending (hits : List (Instant × String)) :
    (overlapsOfHits hits).all.Pairwise fun x y => x.time.micros < y.time.micros := by
  obtain ⟨keys, hkeys, hgroups⟩ :=
    exists_groupByKey_eq (fun hit : Instant × String => hit.1.micros) hits
  have hall : (overlapsOfHits hits).all = keys.filterMap fun k =>
      overlapOfHits? (withKey (fun hit : Instant × String => hit.1.micros) hits k) := by
    unfold overlapsOfHits
    rw [hgroups, List.filterMap_map]
    rfl
  rw [hall, List.pairwise_filterMap]
  apply hkeys.ascending.imp
  intro k l hkl x hx y hy
  rw [time_of_overlapOfHits? hx, time_of_overlapOfHits? hy]
  exact hkl

end

def Overlap.Precedes (x y : Overlap) : Prop :=
  y.count < x.count ∨ x.count = y.count ∧ x.time.micros < y.time.micros

theorem worseOrEqual_iff {x y : Overlap} : worseOrEqual x y = true ↔
    y.count < x.count ∨ x.count = y.count ∧ x.time.micros ≤ y.time.micros := by
  simp [worseOrEqual]

theorem worseOrEqual_trans (x y z : Overlap) (hxy : worseOrEqual x y = true)
    (hyz : worseOrEqual y z = true) : worseOrEqual x z = true := by
  rw [worseOrEqual_iff] at *
  omega

theorem worseOrEqual_total (x y : Overlap) : (worseOrEqual x y || worseOrEqual y x) = true := by
  rw [Bool.or_eq_true, worseOrEqual_iff, worseOrEqual_iff]
  omega

/-- Sorted by how bad they are, overlaps at different times stand in a strict order. -/
theorem mergeSort_precedes {overlaps : List Overlap}
    (ascending : overlaps.Pairwise fun x y => x.time.micros < y.time.micros) :
    (overlaps.mergeSort worseOrEqual).Pairwise Overlap.Precedes := by
  apply pairwise_mergeSort_of_ne (fun x => x.time.micros) worseOrEqual_trans worseOrEqual_total _
    (ascending.imp fun h => h.ne)
  intro x y hworse hne
  rw [worseOrEqual_iff] at hworse
  unfold Overlap.Precedes
  omega

section

variable {hits : List (Instant × String)} {jobs : List Job} {p : Job → Instant → Prop}

end

namespace Overlaps

/-- The worst overlaps are the first ten of all in the order of how bad they are, and the first of
them gives the most jobs that run at once. -/
structure Ranks (o : Overlaps) : Prop where
  worst : ∃ ranked : List Overlap, ranked.Perm o.all ∧ ranked.Pairwise Overlap.Precedes ∧
    o.worst = ranked.take (min 10 o.all.length)
  most : (o.all = [] ∧ o.maxConcurrent = 0) ∨
    IsGreatest {n | ∃ x ∈ o.all, x.count = n} o.maxConcurrent

end Overlaps

section

variable {hits : List (Instant × String)}

theorem overlapsOfHits_ranks (hits : List (Instant × String)) : (overlapsOfHits hits).Ranks := by
  have hranked := mergeSort_precedes (overlapsOfHits_ascending hits)
  have hperm := List.mergeSort_perm (overlapsOfHits hits).all worseOrEqual
  have hworst : (overlapsOfHits hits).worst =
      ((overlapsOfHits hits).all.mergeSort worseOrEqual).take Overlaps.worstLimit := rfl
  generalize (overlapsOfHits hits).all.mergeSort worseOrEqual = ranked at *
  refine ⟨⟨ranked, hperm, hranked, ?_⟩, ?_⟩
  · rw [hworst, List.take_eq_take_min, hperm.length_eq]
    rfl
  · rw [Overlaps.maxConcurrent, hworst]
    cases ranked with
    | nil => exact Or.inl ⟨hperm.nil_eq.symm, rfl⟩
    | cons x rest =>
      obtain ⟨hfirst, -⟩ := List.pairwise_cons.mp hranked
      refine Or.inr ⟨⟨x, hperm.subset List.mem_cons_self, rfl⟩, ?_⟩
      rintro n ⟨y, hy, rfl⟩
      change y.count ≤ x.count
      rcases List.mem_cons.mp (hperm.symm.subset hy) with rfl | hrest
      · exact le_rfl
      · rcases hfirst y hrest with hmore | ⟨hequal, -⟩
        · exact hmore.le
        · exact hequal.ge

end

namespace Scheduler.AnswersInUtc

variable {s : Scheduler} {w : Window}

end Scheduler.AnswersInUtc

namespace Scheduler

/-- A time in the eleventh hour of the first day of 2025. -/
def afterTen (minutes seconds : Nat) : Instant :=
  .utc (Instant.wallAt ⟨2025, 1, 1⟩ (36000000000 + minutes * 60000000 + seconds * 1000000))

/-- Two lists of runs, not in order and not within one window, and one expression that is
rejected. -/
def givenRuns : Scheduler :=
  replay [("c", ⟨.grammar, "c", []⟩)]
    [("a", [afterTen 7 0, afterTen 5 30, afterTen 5 0, afterTen 10 0, afterTen 2 0]),
      ("b", [afterTen 2 10, afterTen 5 20])]

theorem givenRuns_answersInUtc (start horizon : Instant) : givenRuns.AnswersInUtc start horizon :=
  replay_next_cases (by decide) start (some horizon)

def givenJob (line : Int) (expression : String) : Job := { line, expression }

end Scheduler

end CronLint
