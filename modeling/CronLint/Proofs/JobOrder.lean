import CronLint.Proofs.OverlapRanking

/-!
# The order of jobs

Overlaps are told by which jobs hit which minutes. So it does not matter in which order the jobs
come, how often one is repeated, and which invalid or rejected jobs stand among them: all that can
change is the order of the identifiers within an overlap.
-/
namespace CronLint

open Calendar

/-- Lists of jobs that have the active ones in common: others may be put in or left out, jobs may be
reordered, and copies of a job may be added to it. -/
inductive Rearranged (active : Job → Prop) : List Job → List Job → Prop
  | reorder {jobs jobs' : List Job} : jobs.Perm jobs' → Rearranged active jobs jobs'
  | copy {job : Job} {jobs : List Job} : job ∈ jobs → Rearranged active jobs (job :: jobs)
  | idle {job : Job} {jobs : List Job} : ¬ active job → Rearranged active jobs (job :: jobs)
  | symm {jobs jobs' : List Job} : Rearranged active jobs jobs' → Rearranged active jobs' jobs
  | trans {jobs jobs' jobs'' : List Job} :
      Rearranged active jobs jobs' → Rearranged active jobs' jobs'' → Rearranged active jobs jobs''

theorem Rearranged.mem_iff {active : Job → Prop} {jobs jobs' : List Job}
    (h : Rearranged active jobs jobs') {job : Job} (hactive : active job) :
    job ∈ jobs ↔ job ∈ jobs' := by
  induction h with
  | reorder hperm => exact hperm.mem_iff
  | copy hmem =>
    rw [List.mem_cons]
    constructor
    · exact Or.inr
    · rintro (rfl | hjob)
      · exact hmem
      · exact hjob
  | idle hidle =>
    rw [List.mem_cons]
    constructor
    · exact Or.inr
    · rintro (rfl | hjob)
      · exact absurd hactive hidle
      · exact hjob
  | symm _ ih => exact ih.symm
  | trans _ _ ih ih' => exact ih.trans ih'

theorem Rearranged.exists_iff {active p : Job → Prop} {jobs jobs' : List Job}
    (h : Rearranged active jobs jobs') (hp : ∀ job, p job → active job) :
    (∃ job ∈ jobs, p job) ↔ ∃ job ∈ jobs', p job := by
  constructor
  · rintro ⟨job, hjob, hpjob⟩
    exact ⟨job, (h.mem_iff (hp job hpjob)).mp hjob, hpjob⟩
  · rintro ⟨job, hjob, hpjob⟩
    exact ⟨job, (h.mem_iff (hp job hpjob)).mpr hjob, hpjob⟩

/-! ### Overlaps up to the order of identifiers -/

/-- What is left of overlaps if the order of their identifiers is forgotten. -/
structure Overlaps.Outline where
  all : List (Instant × Nat × Set String)
  worst : List (Instant × Nat)
  total : Nat
  maxConcurrent : Nat

def Overlap.size (x : Overlap) : Instant × Nat := (x.time, x.count)

def Overlap.outline (x : Overlap) : Instant × Nat × Set String :=
  (x.time, x.count, {id | id ∈ x.jobIds})

def Overlaps.outline (o : Overlaps) : Overlaps.Outline where
  all := o.all.map Overlap.outline
  worst := o.worst.map Overlap.size
  total := o.all.length
  maxConcurrent := o.maxConcurrent

variable {hits hits' : List (Instant × String)}

theorem idsAt_perm (h : ∀ hit, hit ∈ hits ↔ hit ∈ hits') (t : Instant) :
    (idsAt hits t).Perm (idsAt hits' t) := by
  rw [List.perm_ext_iff_of_nodup (idsAt_nodup hits t) (idsAt_nodup hits' t)]
  intro id
  rw [mem_idsAt, mem_idsAt, h]

theorem overlapAt?_congr (h : ∀ hit, hit ∈ hits ↔ hit ∈ hits') (t : Instant) :
    (overlapAt? hits t).map Overlap.outline = (overlapAt? hits' t).map Overlap.outline := by
  have hperm := idsAt_perm h t
  unfold overlapAt?
  rw [hperm.length_eq]
  split_ifs with hmany
  · simp only [Option.map_some, Overlap.outline, Overlap.count, hperm.length_eq, hperm.mem_iff]
  · rfl

/-- Which of two overlaps is worse, told by their sizes. -/
def worseOrEqualSize (a b : Instant × Nat) : Bool :=
  b.2 < a.2 || (a.2 == b.2 && a.1.micros ≤ b.1.micros)

theorem worst_map_size (hits : List (Instant × String)) :
    (overlapsOfHits hits).worst.map Overlap.size =
      (((overlapsOfHits hits).all.map Overlap.size).mergeSort worseOrEqualSize).take
        Overlaps.worstLimit := by
  have hsorted : ((overlapsOfHits hits).all.mergeSort worseOrEqual).map Overlap.size =
      ((overlapsOfHits hits).all.map Overlap.size).mergeSort worseOrEqualSize :=
    List.map_mergeSort fun _ _ _ _ => rfl
  rw [← hsorted, ← List.map_take]
  rfl

theorem maxConcurrent_eq (o : Overlaps) :
    o.maxConcurrent = ((o.worst.map Overlap.size).head?.map Prod.snd).getD 0 := by
  rw [List.head?_map, Option.map_map]
  rfl

/-- The order of hits shows in the order of identifiers only. -/
theorem outline_congr (utc : ∀ hit ∈ hits, hit.1.offset = some 0)
    (h : ∀ hit, hit ∈ hits ↔ hit ∈ hits') :
    (overlapsOfHits hits).outline = (overlapsOfHits hits').outline := by
  obtain ⟨keys, hkeys, hall⟩ := overlapsOfHits_all utc
  obtain ⟨keys', hkeys', hall'⟩ := overlapsOfHits_all fun hit hhit => utc hit ((h hit).mpr hhit)
  obtain rfl := hkeys.eq hkeys' fun k => exists_congr fun hit => and_congr_left' (h hit)
  have houtline : (overlapsOfHits hits).all.map Overlap.outline =
      (overlapsOfHits hits').all.map Overlap.outline := by
    rw [hall, hall', List.map_filterMap, List.map_filterMap]
    exact List.filterMap_congr fun k _ => overlapAt?_congr h (.utc k)
  have hsizes : (overlapsOfHits hits).all.map Overlap.size =
      (overlapsOfHits hits').all.map Overlap.size := by
    have hforget := congrArg (List.map fun x => (x.1, x.2.1)) houtline
    rw [List.map_map, List.map_map] at hforget
    exact hforget
  have hworst : (overlapsOfHits hits).worst.map Overlap.size =
      (overlapsOfHits hits').worst.map Overlap.size := by
    rw [worst_map_size, worst_map_size, hsizes]
  have htotal : (overlapsOfHits hits).all.length = (overlapsOfHits hits').all.length := by
    simpa only [List.length_map] using congrArg List.length hsizes
  unfold Overlaps.outline
  rw [houtline, hworst, htotal, maxConcurrent_eq, hworst, ← maxConcurrent_eq]

/-! ### Jobs whose runs cannot be looked up -/

/-- The job is valid and accepted. -/
def Job.Active (s : Scheduler) (w : Window) (limit : Int) (job : Job) : Prop :=
  job.valid = true ∧ ∃ times, s.next job.expression w.start limit (some w.stop) = .ok times

/-- A run of the job cannot be compared with the window. -/
def Job.Stops (s : Scheduler) (w : Window) (limit : Int) (job : Job) : Prop :=
  job.valid = true ∧ s.runsInWindow w limit job.expression = .error .mixedClocks

namespace Scheduler

variable {s : Scheduler} {w : Window} {limit : Int} {jobs jobs' : List Job} {job : Job}

theorem AnswersInUtc.active_of_stops (h : s.AnswersInUtc w.start w.stop)
    (hstops : job.Stops s w limit) : job.Active s w limit := by
  obtain ⟨hvalid, herror⟩ := hstops
  refine ⟨hvalid, ?_⟩
  obtain ⟨r, hnext⟩ | ⟨times, hnext, -⟩ := h job.expression limit
  · rw [runsInWindow, hnext] at herror
    cases herror
  · exact ⟨times, hnext⟩

theorem AnswersInUtc.runsInWindow_eq_of_not_stops (h : s.AnswersInUtc w.start w.stop)
    (hvalid : job.valid = true) (hgoes : ¬ job.Stops s w limit) :
    s.runsInWindow w limit job.expression = .ok (s.runsOf w limit job) := by
  unfold Job.Stops at hgoes
  unfold runsOf
  cases hruns : s.runsInWindow w limit job.expression with
  | ok times => rfl
  | error err =>
    have hmixed : err = .mixedClocks := by
      unfold runsInWindow at hruns
      obtain ⟨r, hnext⟩ | ⟨times, hnext, -⟩ := h job.expression limit
      · rw [hnext] at hruns
        cases hruns
      · rw [hnext] at hruns
        simp only [Window.clip] at hruns
        split_ifs at hruns
        exact (Except.error.inj hruns).symm
    exact absurd ⟨hvalid, hmixed ▸ hruns⟩ hgoes

/-- The hits are looked up unless one job stops it. -/
theorem AnswersInUtc.hits_cases (h : s.AnswersInUtc w.start w.stop) (limit : Int)
    (jobs : List Job) :
    ((∃ job ∈ jobs, job.Stops s w limit) → s.hits w limit jobs = .error .mixedClocks) ∧
    ((¬ ∃ job ∈ jobs, job.Stops s w limit) →
      s.hits w limit jobs = .ok (hitsBy (s.runsOf w limit) jobs)) := by
  constructor
  · intro hstops
    induction jobs with
    | nil => simp at hstops
    | cons job jobs ih =>
      rw [List.exists_mem_cons_iff] at hstops
      unfold Scheduler.hits
      by_cases hfirst : job.Stops s w limit
      · rw [if_pos hfirst.1, hfirst.2]
        rfl
      · rw [ih (hstops.resolve_left hfirst)]
        split_ifs with hvalid
        · rw [h.runsInWindow_eq_of_not_stops hvalid hfirst]
          rfl
        · rfl
  · intro hgoes
    apply Scheduler.hits_eq
    intro job hjob hvalid
    exact h.runsInWindow_eq_of_not_stops hvalid fun hstops => hgoes ⟨job, hjob, hstops⟩

theorem mem_hits_congr (h : Rearranged (Job.Active s w limit) jobs jobs')
    (hit : Instant × String) :
    hit ∈ hitsBy (s.runsOf w limit) jobs ↔ hit ∈ hitsBy (s.runsOf w limit) jobs' := by
  obtain ⟨minute, id⟩ := hit
  rw [mem_hitsBy_iff, mem_hitsBy_iff]
  apply h.exists_iff
  rintro job ⟨-, hvalid, t, ht, -⟩
  obtain ⟨times, hnext, -⟩ := exists_of_mem_runsOf ht
  exact ⟨hvalid, times, hnext⟩

/-- The order of jobs, further copies of them and invalid or rejected jobs show in the order of
identifiers only. This holds for every clock and every window, also where overlaps cannot be told;
on a clock that knows its offset they can, if it shows the end of the window. -/
theorem overlaps_rearranged {now : Instant} {length : Int}
    (answers : ∀ w, Window.ofLength now.truncateToMinute length = .ok w →
      s.AnswersInUtc w.start w.stop)
    (h : ∀ w, Window.ofLength now.truncateToMinute length = .ok w →
      Rearranged (Job.Active s w (length / microsPerMinute + 1)) jobs jobs') :
    (s.overlaps jobs length now).map Overlaps.outline =
        (s.overlaps jobs' length now).map Overlaps.outline ∧
      (now.offset.isSome = true → (∃ w, Window.ofLength now.truncateToMinute length = .ok w) →
        ∃ overlaps, s.overlaps jobs length now = .ok overlaps) := by
  rw [overlaps_eq, overlaps_eq]
  cases hw : Window.ofLength now.truncateToMinute length with
  | error err => exact ⟨rfl, fun _ hfits => by simp at hfits⟩
  | ok w =>
    have hstops := (h w hw).exists_iff fun job => (answers w hw).active_of_stops
    obtain ⟨hstop, hgo⟩ := (answers w hw).hits_cases (length / microsPerMinute + 1) jobs
    obtain ⟨hstop', hgo'⟩ := (answers w hw).hits_cases (length / microsPerMinute + 1) jobs'
    simp only [Except.bind]
    constructor
    · by_cases hany : ∃ job ∈ jobs, job.Stops s w (length / microsPerMinute + 1)
      · rw [hstop hany, hstop' (hstops.mp hany)]
      · rw [hgo hany, hgo' fun hany' => hany (hstops.mpr hany')]
        exact congrArg Except.ok (outline_congr
          (offset_of_mem_hitsBy ((answers w hw).offset_of_mem_runsOf _)) (mem_hits_congr (h w hw)))
    · intro hzoned _
      have hstopZoned : w.stop.offset.isSome = true := by
        rw [Window.offset_of_ofLength hw]
        exact hzoned
      rw [(answers w hw).hits_eq hstopZoned]
      exact ⟨_, rfl⟩

/-- A rejected and an invalid job are put in, one job is repeated, and the order is turned
around. -/
theorem overlaps_rearranged_givenRuns :
    (givenRuns.overlaps [givenJob 1 "a", givenJob 0 "b"] (10 * microsPerMinute) (afterTen 0 30)).map
        Overlaps.outline =
      (givenRuns.overlaps [givenJob 0 "b", givenJob 4 "c", givenJob 1 "a",
        { givenJob 2 "a" with fault := some "refused" }, givenJob 1 "a"] (10 * microsPerMinute)
          (afterTen 0 30)).map Overlaps.outline := by
  refine (overlaps_rearranged (fun _ _ => givenRuns_answersInUtc _ _) ?_).1
  intro w _
  have hrejected :
      ¬ (givenJob 4 "c").Active givenRuns w (10 * microsPerMinute / microsPerMinute + 1) := by
    rintro ⟨-, times, hnext⟩
    cases hnext
  have hinvalid : ¬ ({ givenJob 2 "a" with fault := some "refused" } : Job).Active givenRuns w
      (10 * microsPerMinute / microsPerMinute + 1) := fun hactive => absurd hactive.1 (by decide)
  exact .trans (.copy (List.mem_cons_self)) (.trans (.idle hrejected)
    (.trans (.idle hinvalid) (.reorder (by decide))))

end Scheduler

end CronLint
