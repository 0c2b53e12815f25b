import CronLint.Recurrence.Upcoming
import Mathlib.Tactic

/-!
# The search for upcoming runs

The search goes through days, then through hours, then through minutes. Each of its stages finds the
first number with a property in a half-open stretch; `IsFirst` says so, and its lemmas put the
stages together. What comes out are all runs of the stretch in order, up to the number asked for.
-/
namespace CronLint

/-- `found` is the first number from `low` to before `high` with the property, if there is one. -/
def IsFirst (p : Nat → Bool) (low high : Nat) (found : Option Nat) : Prop :=
  match found with
  | none => ∀ n, low ≤ n → n < high → p n = false
  | some n => (low ≤ n ∧ n < high) ∧ p n = true ∧ ∀ m, low ≤ m → m < n → p m = false

namespace IsFirst

variable {p q : Nat → Bool} {low mid high : Nat} {o o' : Option Nat}

theorem nil (p : Nat → Bool) (n : Nat) : IsFirst p n n none := by
  intro m hlow hhigh
  omega

/-- A stretch is searched by searching its two halves in order. -/
theorem append (h : IsFirst p low mid o) (h' : IsFirst p mid high o') (hlow : low ≤ mid)
    (hhigh : mid ≤ high) : IsFirst p low high (o.or o') := by
  cases o with
  | some n =>
    obtain ⟨⟨hn, hn'⟩, hp, before⟩ := h
    exact ⟨⟨hn, by omega⟩, hp, before⟩
  | none =>
    cases o' with
    | none =>
      intro n hn hn'
      rcases Nat.lt_or_ge n mid with hmid | hmid
      · exact h n hn hmid
      · exact h' n hmid hn'
    | some n =>
      obtain ⟨⟨hn, hn'⟩, hp, before⟩ := h'
      refine ⟨⟨by omega, hn'⟩, hp, ?_⟩
      intro m hm hm'
      rcases Nat.lt_or_ge m mid with hmid | hmid
      · exact h m hm hmid
      · exact before m hmid hm'

/-- Nothing beyond the end of a shorter stretch counts. -/
theorem cut (h : IsFirst p low high o) (hmid : mid ≤ high) :
    IsFirst p low mid (o.filter fun n => decide (n < mid)) := by
  cases o with
  | none =>
    intro n hn hn'
    exact h n hn (by omega)
  | some n =>
    obtain ⟨⟨hn, hn'⟩, hp, before⟩ := h
    by_cases hcut : n < mid
    · rw [Option.filter_some_pos (by simpa using hcut)]
      exact ⟨⟨hn, hcut⟩, hp, before⟩
    · rw [Option.filter_some_neg (by simpa using hcut)]
      intro m hm hm'
      exact before m hm (by omega)

/-- A list in ascending order is searched from its start. -/
theorem find {l : List Nat} (ascending : l.Pairwise (· < ·)) (bounded : ∀ n ∈ l, n < high) :
    IsFirst l.contains low high (l.find? fun n => decide (low ≤ n)) := by
  cases h : l.find? fun n => decide (low ≤ n) with
  | none =>
    intro n hn hn'
    have hnone := List.find?_eq_none.mp h
    have : n ∉ l := fun hmem => hnone n hmem (by simpa using hn)
    simpa using this
  | some n =>
    obtain ⟨hn, before, after, rfl, hbefore⟩ := List.find?_eq_some_iff_append.mp h
    refine ⟨⟨by simpa using hn, bounded n (by simp)⟩, by simp, ?_⟩
    intro m hm hm'
    have hout : m ∉ before ++ n :: after := by
      intro hmem
      rcases List.mem_append.mp hmem with hmem | hmem
      · have := hbefore m hmem
        simp [hm] at this
      · obtain ⟨-, hsorted, -⟩ := List.pairwise_append.mp ascending
        rcases List.mem_cons.mp hmem with rfl | hmem
        · omega
        · have := List.rel_of_pairwise_cons hsorted hmem
          omega
    simpa using hout

variable {a b : Nat → Bool} {k : Nat}

/-- The rest of one block of `k` numbers: the block has to qualify, and the place in it. -/
theorem inBlock {x : Nat} (h : IsFirst b low k o) :
    IsFirst (fun n => a (n / k) && b (n % k)) (x * k + low) ((x + 1) * k)
      (if a x then o.map (x * k + ·) else none) := by
  have hdiv {n : Nat} (hn : x * k ≤ n) (hn' : n < (x + 1) * k) : n / k = x ∧ n % k = n - x * k := by
    have hx : n / k = x := Nat.div_eq_of_lt_le hn hn'
    refine ⟨hx, ?_⟩
    have := Nat.div_add_mod n k
    rw [hx, Nat.mul_comm] at this
    omega
  have hsize : (x + 1) * k = x * k + k := Nat.succ_mul x k
  by_cases ha : a x = true
  · rw [if_pos ha]
    cases o with
    | none =>
      intro n hn hn'
      obtain ⟨hx, hy⟩ := hdiv (by omega) hn'
      simp only [hx, hy, ha, Bool.true_and]
      exact h _ (by omega) (by omega)
    | some y =>
      obtain ⟨⟨hlow, hhigh⟩, hb, before⟩ := h
      simp only [Option.map_some]
      refine ⟨⟨by omega, by omega⟩, ?_, ?_⟩
      · obtain ⟨hx, hy⟩ := hdiv (n := x * k + y) (by omega) (by omega)
        simp only [hx, hy, ha, Bool.true_and, Nat.add_sub_cancel_left, hb]
      · intro n hn hn'
        obtain ⟨hx, hy⟩ := hdiv (n := n) (by omega) (by omega)
        simp only [hx, hy, ha, Bool.true_and]
        exact before _ (by omega) (by omega)
  · rw [if_neg ha]
    intro n hn hn'
    obtain ⟨hx, -⟩ := hdiv (by omega) hn'
    simp only [hx, Bool.eq_false_iff.mpr ha, Bool.false_and]

/-- Whole blocks of `k` numbers: the first block that qualifies, and the first place in it. -/
theorem blocks {x : Option Nat} (hk : 0 < k) (hx : IsFirst a low high x) (hy : IsFirst b 0 k o) :
    IsFirst (fun n => a (n / k) && b (n % k)) (low * k) (high * k)
      (x.bind fun x => o.map (x * k + ·)) := by
  have hlow {n m : Nat} : m * k ≤ n ↔ m ≤ n / k := (Nat.le_div_iff_mul_le hk).symm
  have hhigh {n m : Nat} : n < m * k ↔ n / k < m := (Nat.div_lt_iff_lt_mul hk).symm
  cases x with
  | none =>
    intro n hn hn'
    simp only [hx _ (hlow.mp hn) (hhigh.mp hn'), Bool.false_and]
  | some x =>
    obtain ⟨⟨hxlow, hxhigh⟩, ha, before⟩ := hx
    cases o with
    | none =>
      intro n hn hn'
      simp only [hy _ (Nat.zero_le _) (Nat.mod_lt n hk), Bool.and_false]
    | some y =>
      obtain ⟨⟨-, hyk⟩, hb, hfirst⟩ := hy
      have hdiv : (x * k + y) / k = x := by
        rw [Nat.add_comm, Nat.add_mul_div_right _ _ hk, Nat.div_eq_of_lt hyk, Nat.zero_add]
      have hmod : (x * k + y) % k = y := by
        rw [Nat.add_comm, Nat.add_mul_mod_self_right, Nat.mod_eq_of_lt hyk]
      simp only [Option.bind_some, Option.map_some]
      have hfrom : low * k ≤ x * k + y := hlow.mpr (by rw [hdiv]; exact hxlow)
      have hbelow : x * k + y < high * k := hhigh.mpr (by rw [hdiv]; exact hxhigh)
      refine ⟨⟨hfrom, hbelow⟩, ?_, ?_⟩
      · simp only [hdiv, hmod, ha, hb, Bool.and_self]
      · intro n hn hn'
        rcases Nat.lt_or_ge (n / k) x with hearly | hlate
        · simp only [before _ (hlow.mp hn) hearly, Bool.false_and]
        · have hplace : n % k < y := by
            have := Nat.div_add_mod n k
            have := Nat.mul_le_mul_left k hlate
            have := Nat.mul_comm x k
            omega
          simp only [hfirst _ (Nat.zero_le _) hplace, Bool.and_false]

theorem filter_eq_nil (h : IsFirst p low high none) :
    (List.range' low (high - low)).filter p = [] := by
  rw [List.filter_eq_nil_iff]
  intro n hn
  rw [List.mem_range'_1] at hn
  simpa using h n hn.1 (by omega)

theorem filter_eq_cons {n : Nat} (h : IsFirst p low high (some n)) :
    (List.range' low (high - low)).filter p =
      n :: (List.range' (n + 1) (high - (n + 1))).filter p := by
  obtain ⟨⟨hlow, hhigh⟩, hp, before⟩ := h
  have hsplit : List.range' low (high - low) =
      List.range' low (n - low) ++ n :: List.range' (n + 1) (high - (n + 1)) := by
    rw [← List.range'_succ, show high - low = (n - low) + (high - (n + 1) + 1) by omega,
      ← List.range'_append_1, show low + (n - low) = n by omega]
  have hbefore : (List.range' low (n - low)).filter p = [] :=
    (show IsFirst p low n none from before).filter_eq_nil
  rw [hsplit, List.filter_append, hbefore, List.filter_cons_of_pos hp, List.nil_append]

end IsFirst

/-- The values of a position in ascending order and within its bounds. -/
structure ValueSet.Ordered (p : Position) (s : ValueSet) : Prop where
  ascending : s.values.Pairwise (· < ·)
  bounded : ∀ v ∈ s.values, p.low ≤ v ∧ v ≤ p.high

theorem ValueSet.ofSpans_ordered (p : Position) (spans : List Span) :
    (ValueSet.ofSpans p spans).Ordered p where
  ascending := List.Pairwise.filter _ List.pairwise_lt_range'
  bounded _ hv := (mem_ofSpans.mp hv).1

namespace Recurrence

/-- The hours and minutes of a recurrence are those of a day, in ascending order. -/
structure OrderedTimes (r : Recurrence) : Prop where
  hour : r.sets.hour.Ordered .hour
  minute : r.sets.minute.Ordered .minute

variable {r : Recurrence}

/-- The search within a day in two stages: the rest of the hour, and the hours after it. -/
theorem firstTime?_eq (r : Recurrence) (minute : Nat) :
    r.firstTime? minute =
      (if r.sets.hour.values.contains (minute / 60) then
        (r.sets.minute.values.find? fun m => decide (minute % 60 ≤ m)).map (minute / 60 * 60 + ·)
      else none).or
      ((r.sets.hour.values.find? fun h => decide (minute / 60 + 1 ≤ h)).bind fun h =>
        (r.sets.minute.values.find? fun m => decide (0 ≤ m)).map (h * 60 + ·)) := by
  have hhead : r.sets.minute.values.find? (fun m => decide (0 ≤ m)) =
      r.sets.minute.values.head? := by
    cases r.sets.minute.values <;> simp
  rw [hhead]
  unfold firstTime?
  dsimp only
  cases if r.sets.hour.values.contains (minute / 60) then
      (r.sets.minute.values.find? fun m => decide (minute % 60 ≤ m)).map (minute / 60 * 60 + ·)
    else none with
  | some t => rfl
  | none =>
    simp only [Option.none_or, Nat.lt_iff_add_one_le]
    cases r.sets.hour.values.find? fun h => decide (minute / 60 + 1 ≤ h) with
    | none => rfl
    | some h => cases r.sets.minute.values.head? <;> rfl

theorem firstTime?_isFirst (h : r.OrderedTimes) {minute : Nat} (hminute : minute < 1440) :
    IsFirst r.atTime minute 1440 (r.firstTime? minute) := by
  have hminutes (low : Nat) : IsFirst r.sets.minute.values.contains low 60
      (r.sets.minute.values.find? fun m => decide (low ≤ m)) :=
    IsFirst.find h.minute.ascending fun m hm => Nat.lt_succ_of_le (h.minute.bounded m hm).2
  have hhours (low : Nat) : IsFirst r.sets.hour.values.contains low 24
      (r.sets.hour.values.find? fun m => decide (low ≤ m)) :=
    IsFirst.find h.hour.ascending fun m hm => Nat.lt_succ_of_le (h.hour.bounded m hm).2
  have hsame := IsFirst.inBlock (a := r.sets.hour.values.contains) (x := minute / 60)
    (hminutes (minute % 60))
  have hlater := IsFirst.blocks (k := 60) (by decide) (hhours (minute / 60 + 1)) (hminutes 0)
  rw [Nat.div_add_mod'] at hsame
  rw [firstTime?_eq]
  exact hsame.append hlater (by omega) (by omega)

theorem firstDay?_isFirst (r : Recurrence) (count day : Nat) :
    IsFirst r.onDay day (day + count) (r.firstDay? count day) := by
  induction count generalizing day with
  | zero => exact IsFirst.nil _ _
  | succ count ih =>
    unfold firstDay?
    split_ifs with hday
    · exact ⟨⟨le_rfl, by omega⟩, hday, fun m hm hm' => by omega⟩
    · have hfirst : IsFirst r.onDay day (day + 1) none := by
        intro n hn hn'
        obtain rfl : n = day := by omega
        simpa using hday
      have := hfirst.append (ih (day + 1)) (by omega) (by omega)
      rwa [Option.none_or, Nat.add_assoc, Nat.add_comm 1] at this

/-- The search over days in two stages: the rest of the day, and the days after it. -/
theorem next?_eq (r : Recurrence) (first last : Nat) :
    r.next? first last =
      ((if r.onDay (first / 1440) then
          (r.firstTime? (first % 1440)).map (first / 1440 * 1440 + ·)
        else none).or
        ((r.firstDay? (last / 1440 - first / 1440) (first / 1440 + 1)).bind fun d =>
          (r.firstTime? 0).map (d * 1440 + ·))).filter fun run => decide (run < last + 1) := by
  have hlater : (do
        let d ← r.firstDay? (last / 1440 - first / 1440) (first / 1440 + 1)
        return d * 1440 + (← r.firstTime? 0)) =
      (r.firstDay? (last / 1440 - first / 1440) (first / 1440 + 1)).bind fun d =>
        (r.firstTime? 0).map (d * 1440 + ·) := by
    cases r.firstDay? (last / 1440 - first / 1440) (first / 1440 + 1) with
    | none => rfl
    | some d => cases r.firstTime? 0 <;> rfl
  unfold next?
  dsimp only
  rw [hlater]
  simp only [Nat.lt_succ_iff]
  split_ifs
  · cases r.firstTime? (first % 1440) <;> rfl
  · rfl

/-- The search finds the first run from minute `first` to minute `last`. -/
theorem next?_isFirst (h : r.OrderedTimes) (first last : Nat) :
    IsFirst r.runsAt first (last + 1) (r.next? first last) := by
  have htoday := IsFirst.inBlock (a := r.onDay) (x := first / 1440)
    (firstTime?_isFirst h (Nat.mod_lt first (by decide)))
  have hlater := IsFirst.blocks (by decide)
    (firstDay?_isFirst r (last / 1440 - first / 1440) (first / 1440 + 1))
    (firstTime?_isFirst h (show 0 < 1440 by decide))
  rw [Nat.div_add_mod'] at htoday
  rw [next?_eq]
  exact (htoday.append hlater (by omega) (by omega)).cut (by omega)

/-- All runs from minute `first` to minute `last`, in order. -/
def runsBetween (r : Recurrence) (first last : Nat) : List Nat :=
  (List.range' first (last + 1 - first)).filter r.runsAt

theorem mem_runsBetween {first last t : Nat} :
    t ∈ r.runsBetween first last ↔ (first ≤ t ∧ t ≤ last) ∧ r.runsAt t = true := by
  simp only [runsBetween, List.mem_filter, List.mem_range'_1]
  constructor
  · rintro ⟨h, hr⟩
    exact ⟨by omega, hr⟩
  · rintro ⟨h, hr⟩
    exact ⟨by omega, hr⟩

theorem runsBetween_ascending (r : Recurrence) (first last : Nat) :
    (r.runsBetween first last).Pairwise (· < ·) :=
  List.Pairwise.filter _ List.pairwise_lt_range'

theorem runsBetween_eq (h : r.OrderedTimes) (first last : Nat) :
    r.runsBetween first last =
      match r.next? first last with
      | none => []
      | some t => t :: r.runsBetween (t + 1) last := by
  have hfirst := next?_isFirst h first last
  cases hnext : r.next? first last with
  | none =>
    rw [hnext] at hfirst
    exact hfirst.filter_eq_nil
  | some t =>
    rw [hnext] at hfirst
    exact hfirst.filter_eq_cons

theorem upcomingAfter_eq (h : r.OrderedTimes) (last count first : Nat) (found : List Nat) :
    r.upcomingAfter last count first found =
      found.reverse ++ (r.runsBetween first last).take count := by
  induction count generalizing first found with
  | zero => simp [upcomingAfter]
  | succ count ih =>
    unfold upcomingAfter
    rw [runsBetween_eq h]
    cases r.next? first last with
    | none => simp
    | some t => simp [ih]

theorem upcoming_eq (h : r.OrderedTimes) (first last count : Nat) :
    r.upcoming first last count = (r.runsBetween first last).take count := by
  rw [upcoming, upcomingAfter_eq h, List.reverse_nil, List.nil_append]

end Recurrence

end CronLint
