import CronLint.Analysis.Statistics
import CronLint.Proofs.Groups

/-!
# Rankings

A list has one ranking by a key: its elements in the order of the key, those with one key as they
stand in the list. The most frequent jobs are the top of the ranking by runs, the most first, and
the least frequent ones the top of the ranking with the fewest first. Both keep the order of jobs
with equally many runs, so one is not the other one reversed. Busy hours differ in the hour, so
there is one order for them.
-/
namespace CronLint

section

variable {α : Type} {key : α → Int} {l ranking other : List α}

/-- The elements of a list in the order of a key, those with one key as they stand in the list. -/
structure IsRanking (key : α → Int) (l ranking : List α) : Prop where
  perm : ranking.Perm l
  ordered : ranking.Pairwise fun a b => key a ≤ key b
  stable : ∀ k, withKey key ranking k = withKey key l k

/-- The listed elements are the first ones of the one ranking that there is, `count` of them or all.
None of the omitted ones has a smaller key than a listed one. -/
def IsTop (key : α → Int) (l : List α) (count : Nat) (listed : List α) : Prop :=
  ∃ omitted, (∀ ranking, IsRanking key l ranking ↔ ranking = listed ++ omitted) ∧
    listed.length = min count l.length ∧ ∀ a ∈ listed, ∀ b ∈ omitted, key a ≤ key b

/-! ### One ranking for each list -/

theorem mem_of_withKey_eq (h : ∀ k, withKey key ranking k = withKey key other k) {a : α}
    (ha : a ∈ ranking) : a ∈ other := by
  have hmem : a ∈ withKey key ranking (key a) := mem_withKey.mpr ⟨ha, rfl⟩
  rw [h] at hmem
  exact (mem_withKey.mp hmem).1

theorem eq_of_withKey_eq (h : ranking.Pairwise fun a b => key a ≤ key b)
    (h' : other.Pairwise fun a b => key a ≤ key b)
    (hkeys : ∀ k, withKey key ranking k = withKey key other k) : ranking = other := by
  induction ranking generalizing other with
  | nil =>
    symm
    rw [List.eq_nil_iff_forall_not_mem]
    intro b hb
    exact List.not_mem_nil (mem_of_withKey_eq (fun k => (hkeys k).symm) hb)
  | cons a rest ih =>
    cases other with
    | nil => exact absurd (mem_of_withKey_eq hkeys List.mem_cons_self) List.not_mem_nil
    | cons b rest' =>
      obtain ⟨hleast, hrest⟩ := List.pairwise_cons.mp h
      obtain ⟨hleast', hrest'⟩ := List.pairwise_cons.mp h'
      -- Each of the first elements occurs in the other list, so neither has the smaller key.
      have hle : key a ≤ key b := by
        rcases List.mem_cons.mp (mem_of_withKey_eq (fun k => (hkeys k).symm) List.mem_cons_self)
          with heq | hb
        · exact heq ▸ le_rfl
        · exact hleast b hb
      have hge : key b ≤ key a := by
        rcases List.mem_cons.mp (mem_of_withKey_eq hkeys List.mem_cons_self) with heq | ha
        · exact heq ▸ le_rfl
        · exact hleast' a ha
      have hkey : key a = key b := le_antisymm hle hge
      have hfirst := hkeys (key a)
      rw [withKey_cons_self, hkey, withKey_cons_self] at hfirst
      obtain ⟨rfl, hsame⟩ := List.cons.inj hfirst
      congr 1
      apply ih hrest hrest'
      intro k
      rcases eq_or_ne (key a) k with rfl | hne
      · exact hsame
      · have hother := hkeys k
        rwa [withKey_cons_of_ne hne, withKey_cons_of_ne hne] at hother

theorem isRanking_mergeSort (key : α → Int) (l : List α) :
    IsRanking key l (l.mergeSort fun a b => decide (key a ≤ key b)) where
  perm := List.mergeSort_perm _ _
  ordered := pairwise_mergeSort_key key l
  stable := withKey_mergeSort key l

theorem IsRanking.iff_eq (h : IsRanking key l ranking) :
    IsRanking key l other ↔ other = ranking := by
  constructor
  · intro h'
    apply eq_of_withKey_eq h'.ordered h.ordered
    intro k
    rw [h'.stable, h.stable]
  · rintro rfl
    exact h

theorem IsRanking.isTop (h : IsRanking key l ranking) (count : Nat) :
    IsTop key l count (ranking.take count) := by
  refine ⟨ranking.drop count, ?_, ?_, ?_⟩
  · intro other
    rw [List.take_append_drop, h.iff_eq]
  · rw [List.length_take, h.perm.length_eq]
  · have hordered := h.ordered
    rw [← List.take_append_drop count ranking, List.pairwise_append] at hordered
    exact hordered.2.2

theorem cut_natCast (count : Nat) (l : List α) : cut count l = l.take count := by
  rw [cut, if_pos (Int.natCast_nonneg count), Int.toNat_natCast]

/-- A list sorted by a comparison of keys and then cut is the top of its ranking. -/
theorem isTop_cut_mergeSort {le : α → α → Bool} (h : ∀ a b, le a b = decide (key a ≤ key b))
    (l : List α) (count : Nat) : IsTop key l count (cut count (l.mergeSort le)) := by
  obtain rfl : le = fun a b => decide (key a ≤ key b) := funext fun a => funext fun b => h a b
  rw [cut_natCast]
  exact (isRanking_mergeSort key l).isTop count

end

/-! ### Frequent jobs -/

namespace Statistics

theorem mostFrequent_isTop (s : Statistics) (count : Nat) :
    IsTop (fun f => -(f.runsPerDay : Int)) s.frequencies count (s.mostFrequent count) := by
  apply isTop_cut_mergeSort
  intro a b
  rw [decide_eq_decide]
  omega

theorem leastFrequent_isTop (s : Statistics) (count : Nat) :
    IsTop (fun f => (f.runsPerDay : Int)) s.frequencies count (s.leastFrequent count) := by
  apply isTop_cut_mergeSort
  intro a b
  rw [decide_eq_decide]
  omega

end Statistics

/-! ### Busy hours -/

def HourCount.Precedes (a b : HourCount) : Prop :=
  b.runs < a.runs ∨ a.runs = b.runs ∧ a.hour < b.hour

/-- An hour of the day that has runs, with its runs and jobs. -/
def Statistics.IsBusy (s : Statistics) (c : HourCount) : Prop :=
  ∃ _ : c.hour < 24, s.hourHistogram[c.hour] ≠ 0 ∧ c.runs = s.hourHistogram[c.hour] ∧
    c.jobs = s.hourJobs[c.hour]

namespace Statistics

variable {a b c : HourCount}

theorem busierOrEqual_iff : busierOrEqual a b = true ↔
    b.runs < a.runs ∨ a.runs = b.runs ∧ a.hour ≤ b.hour := by
  simp [busierOrEqual]

theorem mem_busyHours {s : Statistics} : c ∈ s.busyHours ↔ s.IsBusy c := by
  simp only [busyHours, List.mem_mergeSort, List.mem_filter, List.mem_map, List.mem_finRange,
    true_and, bne_iff_ne, IsBusy]
  constructor
  · rintro ⟨⟨h, rfl⟩, hruns⟩
    exact ⟨h.isLt, hruns, rfl, rfl⟩
  · obtain ⟨hour, runs, jobs⟩ := c
    rintro ⟨hday, hbusy, hruns, hjobs⟩
    dsimp only at hday hbusy hruns hjobs
    subst hruns hjobs
    exact ⟨⟨⟨hour, hday⟩, rfl⟩, hbusy⟩

theorem busyHours_pairwise (s : Statistics) : s.busyHours.Pairwise HourCount.Precedes := by
  apply pairwise_mergeSort_of_ne fun c => (c.hour : Int)
  · intro a b c hab hbc
    rw [busierOrEqual_iff] at *
    omega
  · intro a b
    rw [Bool.or_eq_true, busierOrEqual_iff, busierOrEqual_iff]
    omega
  · intro a b hbusier hne
    rw [busierOrEqual_iff] at hbusier
    unfold HourCount.Precedes
    omega
  · apply List.Pairwise.filter
    rw [List.pairwise_map]
    apply (List.nodup_finRange 24).imp
    intro h k hne heq
    exact hne (Fin.ext (Int.natCast_inj.mp heq))

/-- There is one order of the busy hours in which more runs come first, and earlier hours among
equals. -/
theorem eq_busyHours_iff {s : Statistics} {hours : List HourCount} : hours = s.busyHours ↔
    (∀ c, c ∈ hours ↔ s.IsBusy c) ∧ hours.Pairwise HourCount.Precedes := by
  constructor
  · rintro rfl
    exact ⟨fun c => mem_busyHours, s.busyHours_pairwise⟩
  · rintro ⟨hmem, hordered⟩
    have : Std.Irrefl HourCount.Precedes := ⟨fun a h => by simp [HourCount.Precedes] at h⟩
    have : Std.Antisymm HourCount.Precedes := ⟨fun a b hab hba => by
      unfold HourCount.Precedes at hab hba
      omega⟩
    apply hordered.eq_of_mem_iff s.busyHours_pairwise
    intro c
    rw [hmem, mem_busyHours]

/-- The rankings of any statistics are the tops of their jobs by runs, in both orders, and the busy
hours cut to as many. -/
theorem rankings_of_jobs_and_hours (s : Statistics) (count : Nat) :
    IsTop (fun f => -(f.runsPerDay : Int)) s.frequencies count (s.mostFrequent count) ∧
    IsTop (fun f => (f.runsPerDay : Int)) s.frequencies count (s.leastFrequent count) ∧
    (∀ hours, hours = s.busiestHours ↔
      (∀ c, c ∈ hours ↔ s.IsBusy c) ∧ hours.Pairwise HourCount.Precedes) ∧
    s.busiestHours (some (count : Int)) = s.busiestHours.take count :=
  ⟨s.mostFrequent_isTop count, s.leastFrequent_isTop count, fun _ => eq_busyHours_iff,
    cut_natCast count _⟩

/-- The equally frequent jobs of lines 1 and 3 keep their order at both ends. -/
example :
    let s : Statistics :=
      { frequencies := [⟨"line-1", "a", 1, 0⟩, ⟨"line-2", "b", 24, 1⟩, ⟨"line-3", "c", 1, 0⟩] }
    (s.mostFrequent 3).map (·.jobId) = ["line-2", "line-1", "line-3"] ∧
      (s.leastFrequent 3).map (·.jobId) = ["line-1", "line-3", "line-2"] := by
  cbv

end Statistics

end CronLint
