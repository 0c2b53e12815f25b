import CronLint.Proofs.DayConflicts
import CronLint.Proofs.Groups

/-!
# What a field tells of itself

Each query is told by the parts: how many there are, of which kind the first one is, and whether
some step is above one. A field is a lone wildcard, a lone range, a lone value or a list, or else a
single part with a step. A field of an accepted expression denotes some values, and all of them lie
within its bounds: what the parser takes it to denote, the scheduler does too, and the scheduler
checks the bounds.
-/
namespace CronLint

/-! ### Values in ascending order -/

theorem dropRepeats_pairwise {l : List Int} (h : l.Pairwise (· ≤ ·)) :
    (dropRepeats l).Pairwise (· < ·) := by
  fun_induction dropRepeats l with
  | case1 => exact List.Pairwise.nil
  | case2 a => exact List.pairwise_singleton _ _
  | case3 b rest ih => exact ih (List.pairwise_cons.mp h).2
  | case4 a b rest hne ih =>
    obtain ⟨hleast, hrest⟩ := List.pairwise_cons.mp h
    obtain ⟨hnext, -⟩ := List.pairwise_cons.mp hrest
    refine List.pairwise_cons.mpr ⟨?_, ih hrest⟩
    intro c hc
    have hfirst : a < b := lt_of_le_of_ne (hleast b List.mem_cons_self) hne
    rcases List.mem_cons.mp (mem_dropRepeats.mp hc) with rfl | hc
    · exact hfirst
    · exact hfirst.trans_le (hnext c hc)

theorem ascending_pairwise (values : List Int) : (ascending values).Pairwise (· < ·) :=
  dropRepeats_pairwise (pairwise_mergeSort_key id values)

namespace Field

theorem values_pairwise (f : Field) : f.values.Pairwise (· < ·) := ascending_pairwise _

/-! ### Queries and parts -/

variable {f : Field} {start stop v : Int}

theorem rangeBounds?_eq_some_iff :
    f.rangeBounds? = some (start, stop) ↔ ∃ k, f.parts = [.range start stop k] := by
  unfold rangeBounds?
  split
  · next start' stop' k hparts => simp [hparts]
  · next hparts =>
    simp only [reduceCtorEq, false_iff]
    rintro ⟨k, heq⟩
    exact hparts _ _ k heq

theorem value?_eq_some_iff : f.value? = some v ↔ ∃ k ≤ 1, f.parts = [.single v k] := by
  unfold value?
  split
  · next w k hparts =>
    split_ifs with hk
    · simp [hparts, hk]
    · simp only [hparts, List.cons.injEq, Part.single.injEq, false_iff]
      rintro ⟨k', hk', ⟨-, rfl⟩, -⟩
      exact hk hk'
  · next hparts =>
    simp only [reduceCtorEq, false_iff]
    rintro ⟨k, -, heq⟩
    exact hparts _ k heq

theorem isRange_iff_parts : f.isRange = true ↔ ∃ start stop k, f.parts = [.range start stop k] := by
  unfold isRange
  split
  · next start stop k hparts => simp [hparts]
  · next hparts =>
    simp only [Bool.false_eq_true, false_iff]
    rintro ⟨start, stop, k, heq⟩
    exact hparts start stop k heq

theorem isSingle_iff_parts : f.isSingle = true ↔ ∃ v, ∃ k ≤ 1, f.parts = [.single v k] := by
  unfold isSingle
  split
  · next v k hparts => simp [hparts]
  · next hparts =>
    simp only [Bool.false_eq_true, false_iff]
    rintro ⟨v, k, -, heq⟩
    exact hparts v k heq

theorem isRange_iff_rangeBounds : f.isRange = true ↔ ∃ bounds, f.rangeBounds? = some bounds := by
  simp only [isRange_iff_parts, Prod.exists, rangeBounds?_eq_some_iff]

theorem isSingle_iff_value : f.isSingle = true ↔ ∃ v, f.value? = some v := by
  simp only [isSingle_iff_parts, value?_eq_some_iff]

theorem isList_iff_parts : f.isList = true ↔ 1 < f.parts.length := decide_eq_true_iff

theorem isStep_iff_parts : f.isStep = true ↔ ∃ p ∈ f.parts, 1 < p.step := by
  simp [isStep]

theorem isStep_iff_stepValue : f.isStep = true ↔ 1 < f.stepValue := by
  rw [isStep_iff_parts, stepValue]
  cases hfirst : f.parts.find? fun p => decide (1 < p.step) with
  | none =>
    have hnone := List.find?_eq_none.mp hfirst
    simp only [decide_eq_true_eq] at hnone
    simp only [Option.map_none, Option.getD_none, lt_irrefl, iff_false, not_exists, not_and]
    exact hnone
  | some p =>
    have hstep : 1 < p.step := by simpa using List.find?_some hfirst
    exact iff_of_true ⟨p, List.mem_of_find?_eq_some hfirst, hstep⟩ hstep

theorem exists_parts_of_not_isList (h : f.isList = false) : ∃ p, f.parts = [p] := by
  have hlength : ¬ 1 < f.parts.length := by
    rw [← isList_iff_parts, h]
    exact Bool.false_ne_true
  rw [← List.length_eq_one_iff]
  have := List.length_pos_of_ne_nil f.parts_ne_nil
  omega

/-! ### Lone parts -/

theorem values_of_value? (h : f.value? = some v) : f.values = [v] := by
  obtain ⟨k, hk, hparts⟩ := value?_eq_some_iff.mp h
  apply f.values_pairwise.eq_of_mem_iff (List.pairwise_singleton _ _)
  intro w
  simp [mem_values, hparts, Part.values, hk.not_gt]

theorem mem_values_of_isEvery (h : f.isEvery = true) :
    v ∈ f.values ↔ f.low ≤ v ∧ v ≤ f.high := by
  obtain ⟨k, hk, hparts⟩ := isEvery_iff_parts.mp h
  simp [mem_values, hparts, Part.values, hk, mem_progression]

/-- What the queries of a field have to do with each other, with the parts and with the values. -/
structure Consistent (f : Field) : Prop where
  exclusive : [f.isEvery, f.isRange, f.isSingle, f.isList].Pairwise fun a b =>
    ¬ (a = true ∧ b = true)
  exhaustive : f.isEvery = false → f.isRange = false → f.isSingle = false → f.isList = false →
    f.isStep = true
  isStep_iff : f.isStep = true ↔ 1 < f.stepValue
  unstepped : f.isEvery = true ∨ f.isSingle = true → f.isStep = false
  isSingle_iff : f.isSingle = true ↔ ∃ v, f.value? = some v
  value_iff : ∀ v, f.value? = some v ↔ ∃ k ≤ 1, f.parts = [.single v k]
  isRange_iff : f.isRange = true ↔ ∃ bounds, f.rangeBounds? = some bounds
  rangeBounds_iff : ∀ start stop,
    f.rangeBounds? = some (start, stop) ↔ ∃ k, f.parts = [.range start stop k]
  ascending : f.values.Pairwise (· < ·)
  values_single : f.isSingle = true → ∃ v, f.value? = some v ∧ f.values = [v]
  values_every : f.isEvery = true → ∀ v, v ∈ f.values ↔ f.low ≤ v ∧ v ≤ f.high

theorem of_isList (h : f.isList = true) :
    f.isEvery = false ∧ f.isRange = false ∧ f.isSingle = false := by
  have hmany (p : Part) : f.parts ≠ [p] := by
    intro hparts
    rw [isList_iff_parts, hparts] at h
    exact lt_irrefl _ h
  simp only [Bool.eq_false_iff, Ne, isEvery_iff_parts, isRange_iff_parts, isSingle_iff_parts, hmany,
    and_false, exists_false, not_false_eq_true, and_self]

theorem exclusive (f : Field) : [f.isEvery, f.isRange, f.isSingle, f.isList].Pairwise fun a b =>
    ¬ (a = true ∧ b = true) := by
  cases hlist : f.isList with
  | true =>
    obtain ⟨hevery, hrange, hsingle⟩ := of_isList hlist
    simp [hevery, hrange, hsingle]
  | false =>
    obtain ⟨p, hparts⟩ := exists_parts_of_not_isList hlist
    cases p with
    | every k => simp [isRange, isSingle, hparts]
    | single v k => simp [isEvery, isRange, hparts]
    | range start stop k => simp [isEvery, isSingle, hparts]

theorem isStep_of_none (hevery : f.isEvery = false) (hrange : f.isRange = false)
    (hsingle : f.isSingle = false) (hlist : f.isList = false) : f.isStep = true := by
  obtain ⟨p, hparts⟩ := exists_parts_of_not_isList hlist
  rw [Bool.eq_false_iff, Ne, isEvery_iff_parts, hparts] at hevery
  rw [Bool.eq_false_iff, Ne, isRange_iff_parts, hparts] at hrange
  rw [Bool.eq_false_iff, Ne, isSingle_iff_parts, hparts] at hsingle
  rw [isStep_iff_parts, hparts]
  refine ⟨p, List.mem_cons_self, ?_⟩
  cases p with
  | every k =>
    by_contra hk
    exact hevery ⟨k, not_lt.mp hk, rfl⟩
  | single v k =>
    by_contra hk
    exact hsingle ⟨v, k, not_lt.mp hk, rfl⟩
  | range start stop k => exact absurd ⟨start, stop, k, rfl⟩ hrange

theorem isStep_eq_false {p : Part} (hparts : f.parts = [p]) (hstep : p.step ≤ 1) :
    f.isStep = false := by
  simp [isStep, hparts, hstep]

theorem consistent (f : Field) : f.Consistent where
  exclusive := f.exclusive
  exhaustive := isStep_of_none
  isStep_iff := isStep_iff_stepValue
  unstepped := by
    rintro (hevery | hsingle)
    · obtain ⟨k, hk, hparts⟩ := isEvery_iff_parts.mp hevery
      exact isStep_eq_false hparts hk
    · obtain ⟨v, k, hk, hparts⟩ := isSingle_iff_parts.mp hsingle
      exact isStep_eq_false hparts hk
  isSingle_iff := isSingle_iff_value
  value_iff := fun _ => value?_eq_some_iff
  isRange_iff := isRange_iff_rangeBounds
  rangeBounds_iff := fun _ _ => rangeBounds?_eq_some_iff
  ascending := f.values_pairwise
  values_single := by
    intro hsingle
    obtain ⟨v, hv⟩ := isSingle_iff_value.mp hsingle
    exact ⟨v, hv, values_of_value? hv⟩
  values_every := fun h _ => mem_values_of_isEvery h

end Field

/-! ### Fields of accepted expressions -/

namespace Position

variable {p : Position} {member : List Char} {first last step n : Int}

theorem RunsFrom.read (h : p.RunsFrom member n) :
    Part.read Symbols.english member = .ok (.single n 1) := by
  obtain ⟨base, s, rfl, hbase, hstep⟩ := h
  rw [Part.read, Text.breakOn_append_cons hbase.slash_notMem]
  simp only [hstep]
  rw [Part.readBase, if_neg hbase.ne_star, Text.breakOn_of_notMem hbase.chars.1]
  simp only [hbase.readValue]
  rfl

/-- A member of an accepted field is read as a part that denotes some value. -/
theorem exists_mem_part (h : p.Stretch member first last step)
    (hbounds : first ≤ last ∧ last ≤ p.high) :
    ∃ part v, Part.read Symbols.english member = .ok part ∧ v ∈ part.values p.low p.high := by
  obtain ⟨part, hpart, hvalues⟩ := read_of_stretch h hbounds
  rcases (hvalues first).mp ⟨le_rfl, hbounds.1, by simp⟩ with hmem | ⟨n, hruns, -⟩
  · exact ⟨part, first, hpart, hmem⟩
  · exact ⟨.single n 1, n, hruns.read, by simp [Part.values]⟩

end Position

namespace Field

variable {p : Position} {raw : String} {set : ValueSet} {f : Field}

theorem values_ne_nil (hset : ValueSet.read p raw = .ok set)
    (hfield : Field.read Symbols.english raw p.low p.high = .ok f) : f.values ≠ [] := by
  obtain ⟨hparts, -, hlow, hhigh⟩ := read_eq_ok_iff.mp hfield
  obtain ⟨member, hmember⟩ := List.exists_mem_of_ne_nil _ (members_ne_nil raw)
  obtain ⟨first, last, step, hstretch⟩ := ValueSet.stretch_of_read hset hmember
  have hbounds := ValueSet.bounds_of_read hset hmember hstretch
  obtain ⟨part, v, hpart, hv⟩ := Position.exists_mem_part hstretch hbounds.2
  have hmem : v ∈ f.values := by
    rw [mem_values, hlow, hhigh]
    exact ⟨part, (mem_of_readAll hparts).mpr ⟨member, hmember, hpart⟩, hv⟩
  exact List.ne_nil_of_mem hmem

theorem bounded_of_mem_values (hset : ValueSet.read p raw = .ok set)
    (hfield : Field.read Symbols.english raw p.low p.high = .ok f) {v : Int} (hv : v ∈ f.values) :
    p.low ≤ v ∧ v ≤ p.high := by
  obtain ⟨n, hn, rfl⟩ := (mem_set_iff hset hfield v).mpr (Or.inl hv)
  have := (ValueSet.ordered_of_read hset).bounded n hn
  omega

/-- The queries of any field are consistent. If the field belongs to an accepted expression, it has
the bounds of its position and denotes some values, all of them within these bounds. -/
theorem queries_are_consistent (f : Field) : f.Consistent ∧
    ∀ e s p, ({} : Parser).parse e = .ok s → s.fields.get p = f →
      f.low = p.low ∧ f.high = p.high ∧ f.values ≠ [] ∧ ∀ v ∈ f.values, f.low ≤ v ∧ v ≤ f.high := by
  refine ⟨f.consistent, ?_⟩
  rintro e s p accepted rfl
  obtain ⟨request, r, -, hr, hfields⟩ := Parser.recurrence_of_parse accepted
  have hset := Recurrence.ofFields_eq_ok_iff.mp hr p
  have hfield := Fields.traverse_eq_ok_iff.mp hfields p
  obtain ⟨-, -, hlow, hhigh⟩ := read_eq_ok_iff.mp hfield
  refine ⟨hlow, hhigh, values_ne_nil hset hfield, ?_⟩
  intro v hv
  rw [hlow, hhigh]
  exact bounded_of_mem_values hset hfield hv

/-- The hours of an expression with steps of many kinds. -/
theorem queries_are_consistent_of_steps :
    ∃ s, ({} : Parser).parse "*/20 8-18/2,22/1 * jan mon-fri" = .ok s ∧
      s.fields.hour.Consistent ∧ s.fields.hour.low = 0 ∧ s.fields.hour.high = 23 ∧
      s.fields.hour.values ≠ [] ∧
      ∀ v ∈ s.fields.hour.values, s.fields.hour.low ≤ v ∧ v ≤ s.fields.hour.high := by
  obtain ⟨s, hs⟩ : ∃ s, ({} : Parser).parse "*/20 8-18/2,22/1 * jan mon-fri" = .ok s :=
    exists_of_isOk (by decide)
  obtain ⟨hconsistent, haccepted⟩ := queries_are_consistent s.fields.hour
  exact ⟨s, hs, hconsistent, haccepted _ s .hour hs rfl⟩

end Field

end CronLint
