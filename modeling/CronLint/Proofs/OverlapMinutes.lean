import Mathlib.Data.List.Nodup
import Mathlib.Data.Set.Card
import CronLint.Proofs.Answers
import CronLint.Proofs.Groups

/-!
# From hits to overlaps

A hit is a minute with the identifier of a job that runs in it. On UTC clocks, the overlaps of hits
are the minutes that are hit with several identifiers; an overlap lists each of them once. The hits
of jobs are put together from the runs of each.
-/
namespace CronLint

open Calendar

theorem Calendar.Instant.eq_utc {t : Instant} (h : t.offset = some 0) : t = .utc t.micros := by
  obtain ⟨wall, offset⟩ := t
  cases h
  simp [Instant.utc, Instant.micros]

/-! ### Lists without repetitions -/

theorem nodup_eraseDups {α : Type} [BEq α] [LawfulBEq α] (l : List α) : l.eraseDups.Nodup := by
  cases l with
  | nil => simp
  | cons a rest =>
    rw [List.eraseDups_cons, List.nodup_cons, List.mem_eraseDups]
    exact ⟨by simp, nodup_eraseDups _⟩
termination_by l.length
decreasing_by exact Nat.lt_succ_of_le (List.length_filter_le _ _)

section

variable {α : Type} {l : List α}

theorem ncard_of_nodup (h : l.Nodup) : {a | a ∈ l}.ncard = l.length := by
  classical
  have hset : {a | a ∈ l} = (l.toFinset : Set α) := by
    ext a
    simp
  rw [hset, Set.ncard_coe_finset, List.toFinset_card_of_nodup h]

theorem one_lt_length_iff_of_nodup (h : l.Nodup) :
    1 < l.length ↔ {a | a ∈ l}.Nontrivial := by
  rw [← ncard_of_nodup h, Set.one_lt_ncard_iff_nontrivial_and_finite]
  exact and_iff_left l.finite_toSet

/-- If all that comes before a kept element is kept, nothing is kept after the first that is not. -/
theorem takeWhile_eq_filter {p : α → Bool} (h : l.Pairwise fun a b => p b = true → p a = true) :
    l.takeWhile p = l.filter p := by
  induction l with
  | nil => rfl
  | cons a rest ih =>
    obtain ⟨hfirst, hrest⟩ := List.pairwise_cons.mp h
    by_cases ha : p a = true
    · rw [List.takeWhile_cons_of_pos ha, List.filter_cons_of_pos ha, ih hrest]
    · have hnone : rest.filter p = [] := by
        rw [List.filter_eq_nil_iff]
        intro b hb hpb
        exact ha (hfirst b hb hpb)
      rw [List.takeWhile_cons_of_neg ha, List.filter_cons_of_neg ha, hnone]

end

/-! ### The overlaps of hits -/

variable {hits : List (Instant × String)} {t : Instant} {id : String}

/-- The identifiers with which a minute is hit, each once, in the order of the hits. -/
def idsAt (hits : List (Instant × String)) (t : Instant) : List String :=
  ((hits.filter fun hit => decide (hit.1 = t)).map (·.2)).eraseDups

theorem mem_idsAt : id ∈ idsAt hits t ↔ (t, id) ∈ hits := by
  simp [idsAt, List.mem_eraseDups]

theorem idsAt_nodup (hits : List (Instant × String)) (t : Instant) : (idsAt hits t).Nodup :=
  nodup_eraseDups _

/-- The overlap in a minute, if it is one. -/
def overlapAt? (hits : List (Instant × String)) (t : Instant) : Option Overlap :=
  if 1 < (idsAt hits t).length then some ⟨t, idsAt hits t⟩ else none

theorem overlapAt?_eq_some_iff {o : Overlap} : overlapAt? hits t = some o ↔
    o.time = t ∧ o.jobIds = idsAt hits t ∧ 1 < o.jobIds.length := by
  obtain ⟨time, ids⟩ := o
  unfold overlapAt?
  split_ifs with hmany
  · simp only [Option.some.injEq, Overlap.mk.injEq]
    constructor
    · rintro ⟨rfl, rfl⟩
      exact ⟨rfl, rfl, hmany⟩
    · rintro ⟨rfl, rfl, -⟩
      exact ⟨rfl, rfl⟩
  · simp only [false_iff]
    rintro ⟨-, rfl, hmore⟩
    exact hmany hmore

theorem overlapOfHits?_withKey (utc : ∀ hit ∈ hits, hit.1.offset = some 0) (k : Int) :
    overlapOfHits? (withKey (fun hit : Instant × String => hit.1.micros) hits k) =
      overlapAt? hits (.utc k) := by
  have hminute : withKey (fun hit : Instant × String => hit.1.micros) hits k =
      hits.filter fun hit => decide (hit.1 = .utc k) := by
    apply List.filter_congr
    intro hit hhit
    congr 1
    rw [eq_iff_iff]
    constructor
    · rintro rfl
      exact Instant.eq_utc (utc hit hhit)
    · intro htime
      simp only [htime, Instant.micros_utc]
  rw [hminute]
  unfold overlapOfHits? overlapAt? idsAt
  cases hgroup : hits.filter fun hit => decide (hit.1 = .utc k) with
  | nil => simp
  | cons hit rest =>
    have hhit : hit ∈ hits.filter fun hit => decide (hit.1 = .utc k) := by simp [hgroup]
    rw [← of_decide_eq_true (List.mem_filter.mp hhit).2]

theorem overlapsOfHits_all (utc : ∀ hit ∈ hits, hit.1.offset = some 0) :
    ∃ keys, IsKeys (fun hit : Instant × String => hit.1.micros) hits keys ∧
      (overlapsOfHits hits).all = keys.filterMap fun k => overlapAt? hits (.utc k) := by
  obtain ⟨keys, hkeys, hgroups⟩ :=
    exists_groupByKey_eq (fun hit : Instant × String => hit.1.micros) hits
  refine ⟨keys, hkeys, ?_⟩
  unfold overlapsOfHits
  rw [hgroups, List.filterMap_map]
  exact List.filterMap_congr fun k _ => overlapOfHits?_withKey utc k

/-- The overlaps are the minutes hit with several identifiers, all of which are listed. -/
theorem mem_overlapsOfHits_iff (utc : ∀ hit ∈ hits, hit.1.offset = some 0) {o : Overlap} :
    o ∈ (overlapsOfHits hits).all ↔ o.jobIds = idsAt hits o.time ∧ 1 < o.jobIds.length := by
  obtain ⟨keys, hkeys, hall⟩ := overlapsOfHits_all utc
  simp only [hall, List.mem_filterMap, overlapAt?_eq_some_iff]
  constructor
  · rintro ⟨k, -, htime, hids, hmany⟩
    exact ⟨htime ▸ hids, hmany⟩
  · rintro ⟨hids, hmany⟩
    obtain ⟨id, hid⟩ := List.exists_mem_of_length_pos (by omega : 0 < o.jobIds.length)
    rw [hids, mem_idsAt] at hid
    have htime := Instant.eq_utc (utc _ hid)
    refine ⟨o.time.micros, (hkeys.mem_iff _).mpr ⟨_, hid, rfl⟩, htime, ?_, hmany⟩
    rw [← htime]
    exact hids

theorem exists_overlap_iff (utc : ∀ hit ∈ hits, hit.1.offset = some 0) :
    (∃ o ∈ (overlapsOfHits hits).all, o.time = t) ↔ {id | (t, id) ∈ hits}.Nontrivial := by
  simp only [← mem_idsAt]
  rw [← one_lt_length_iff_of_nodup (idsAt_nodup hits t)]
  constructor
  · rintro ⟨o, ho, rfl⟩
    obtain ⟨hids, hmany⟩ := (mem_overlapsOfHits_iff utc).mp ho
    exact hids ▸ hmany
  · intro hmany
    exact ⟨⟨t, idsAt hits t⟩, (mem_overlapsOfHits_iff utc).mpr ⟨rfl, hmany⟩, rfl⟩

theorem jobIds_of_mem_overlapsOfHits (utc : ∀ hit ∈ hits, hit.1.offset = some 0) {o : Overlap}
    (h : o ∈ (overlapsOfHits hits).all) :
    {id | id ∈ o.jobIds} = {id | (o.time, id) ∈ hits} ∧
      o.count = {id | (o.time, id) ∈ hits}.ncard := by
  obtain ⟨hids, -⟩ := (mem_overlapsOfHits_iff utc).mp h
  have hset : {id | id ∈ o.jobIds} = {id | (o.time, id) ∈ hits} := by
    ext id
    change id ∈ o.jobIds ↔ (o.time, id) ∈ hits
    rw [hids, mem_idsAt]
  refine ⟨hset, ?_⟩
  rw [← hset, ncard_of_nodup (hids ▸ idsAt_nodup hits o.time), Overlap.count]

/-! ### The hits of jobs -/

variable {s : Scheduler} {window : Window} {limit : Int} {jobs : List Job}

/-- The hits of jobs whose runs are given, job by job. -/
def hitsBy (runs : Job → List Instant) (jobs : List Job) : List (Instant × String) :=
  (jobs.filter Job.valid).flatMap fun job => (runs job).map fun t => (t.truncateToMinute, job.id)

theorem mem_hitsBy_iff {runs : Job → List Instant} : (t, id) ∈ hitsBy runs jobs ↔
    ∃ job ∈ jobs, job.id = id ∧ job.valid = true ∧ ∃ u ∈ runs job, u.truncateToMinute = t := by
  simp only [hitsBy, List.mem_flatMap, List.mem_filter, List.mem_map, Prod.mk.injEq]
  constructor
  · rintro ⟨job, ⟨hjob, hvalid⟩, u, hu, hminute, hid⟩
    exact ⟨job, hjob, hid, hvalid, u, hu, hminute⟩
  · rintro ⟨job, hjob, hid, hvalid, u, hu, hminute⟩
    exact ⟨job, ⟨hjob, hvalid⟩, u, hu, hminute, hid⟩

theorem offset_of_mem_hitsBy {runs : Job → List Instant}
    (utc : ∀ job, ∀ u ∈ runs job, u.offset = some 0) :
    ∀ hit ∈ hitsBy runs jobs, hit.1.offset = some 0 := by
  rintro ⟨t, id⟩ hhit
  obtain ⟨job, -, -, -, u, hu, rfl⟩ := mem_hitsBy_iff.mp hhit
  exact utc job u hu

theorem Scheduler.hits_eq {runs : Job → List Instant}
    (h : ∀ job ∈ jobs, job.valid = true →
      s.runsInWindow window limit job.expression = .ok (runs job)) :
    s.hits window limit jobs = .ok (hitsBy runs jobs) := by
  unfold hitsBy
  induction jobs with
  | nil => rfl
  | cons job jobs ih =>
    have hrest := ih fun j hj => h j (List.mem_cons_of_mem _ hj)
    by_cases hvalid : job.valid = true
    · rw [List.filter_cons_of_pos hvalid, List.flatMap_cons, Scheduler.hits, if_pos hvalid,
        h job List.mem_cons_self hvalid, hrest]
      rfl
    · rw [List.filter_cons_of_neg hvalid, Scheduler.hits, if_neg hvalid, hrest]

/-- Runs in ascending order are clipped to those between the ends of the window. -/
theorem Window.clip_of_ascending {times : List Instant}
    (ascending : times.Pairwise fun s t => s.micros < t.micros)
    (clock : ∀ t ∈ times, window.sameClock t = true) :
    window.clip times = .ok (times.filter fun t =>
      decide (window.start.micros ≤ t.micros) && decide (t.micros < window.stop.micros)) := by
  have hreached : times.takeWhile window.reaches =
      times.filter fun t => decide (t.micros < window.stop.micros) := by
    rw [takeWhile_eq_filter]
    · apply List.filter_congr
      intro t ht
      simp [Window.reaches, clock t ht]
    · apply ascending.imp_of_mem
      intro t u ht _ htu hu
      simp only [Window.reaches, Bool.and_eq_true, decide_eq_true_eq] at hu ⊢
      exact ⟨clock t ht, htu.trans hu.2⟩
  rw [Window.clip_eq clock, hreached, List.filter_filter]

end CronLint
