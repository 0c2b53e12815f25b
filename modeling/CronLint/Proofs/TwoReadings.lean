import CronLint.Proofs.Spelling

/-!
# Two readings of a field

The parser reads a field into parts and the scheduler reads it into spans. What a field denotes by
the one and by the other differs only in its members `N/1`: to the scheduler they run on to the
upper bound, among the parts they are the single value `N`.
-/
namespace CronLint

theorem mem_progression {first last step v : Int} (hstep : 0 < step) :
    v ∈ progression first last step ↔ first ≤ v ∧ v ≤ last ∧ step ∣ v - first := by
  unfold progression
  split_ifs with hempty
  · simp only [List.not_mem_nil, false_iff]
    omega
  · have hnonneg : 0 ≤ (last - first) / step := Int.ediv_nonneg (by omega) hstep.le
    simp only [List.mem_map, List.mem_range, Nat.lt_succ_iff]
    constructor
    · rintro ⟨k, hk, rfl⟩
      have hle : (k : Int) ≤ (last - first) / step := by omega
      rw [Int.le_ediv_iff_mul_le hstep, Int.mul_comm] at hle
      have hpos : 0 ≤ step * (k : Int) := Int.mul_nonneg hstep.le k.cast_nonneg
      refine ⟨by omega, by omega, ?_⟩
      rw [add_sub_cancel_left]
      exact Int.dvd_mul_right step k
    · rintro ⟨hfirst, hlast, k, hk⟩
      have hk0 : 0 ≤ k := nonneg_of_mul_nonneg_right (by omega : 0 ≤ step * k) hstep
      have hle : k ≤ (last - first) / step := by
        rw [Int.le_ediv_iff_mul_le hstep, Int.mul_comm]
        omega
      refine ⟨k.toNat, by omega, ?_⟩
      rw [Int.toNat_of_nonneg hk0]
      omega

open Text

namespace Position

variable {p : Position} {text base member s : List Char} {v w n first last step : Int}
  {closed : Bool} {part : Part}

theorem Denotes.unique (h : p.Denotes text v) (h' : p.Denotes text w) : v = w := by
  have hv := (readValue_eq_ok_iff h.chars.1).mpr h
  have hw := (readValue_eq_ok_iff h.chars.1).mpr h'
  exact Except.ok.inj (hv.symm.trans hw)

/-- The names of a position are known to the parser, with the same values. -/
theorem names_resolve (p : Position) :
    ∀ entry ∈ p.names, Symbols.english.resolve? entry.1 = some (entry.2 : Int) := by
  cases p <;> decide

theorem Denotes.readValue (h : p.Denotes text v) : Symbols.english.readValue text = .ok v := by
  unfold Symbols.readValue
  cases h with
  | @name name n hname hlower =>
    have hupper : upperText (String.ofList text) = upperText name := by
      rw [upperText, upperText, String.toList_ofList, ← hlower,
        upper_lowerAscii (letters_of_name hname hlower)]
    have hresolve := p.names_resolve _ hname
    rw [Symbols.resolve?, ← hupper] at hresolve
    rw [integer?_of_name hname hlower]
    simp only [Symbols.resolve?, hresolve]
  | literal _ hint => rw [hint]

/-- A member `N/1` that starts at `n`. -/
def RunsFrom (p : Position) (member : List Char) (n : Int) : Prop :=
  ∃ base s, member = base ++ '/' :: s ∧ p.Denotes base n ∧ integer? s = some 1

theorem RunsFrom.slash_mem (h : p.RunsFrom member n) : '/' ∈ member := by
  obtain ⟨base, s, rfl, -, -⟩ := h
  simp

theorem runsFrom_append_iff (hslash : '/' ∉ base) :
    p.RunsFrom (base ++ '/' :: s) n ↔ p.Denotes base n ∧ integer? s = some 1 := by
  constructor
  · rintro ⟨base', s', heq, hbase, hstep⟩
    obtain ⟨rfl, rfl⟩ := append_cons_inj hslash hbase.slash_notMem heq
    exact ⟨hbase, hstep⟩
  · rintro ⟨hbase, hstep⟩
    exact ⟨base, s, rfl, hbase, hstep⟩

/-- Two written ends are not a value. -/
theorem Base.not_denotes (h : p.Base base first last true) : ¬ p.Denotes base v := by
  intro hvalue
  cases h with
  | every => exact hvalue.ne_star rfl
  | range => exact hvalue.chars.1 (by simp)

/-! ### Parts -/

/-- The part that is read from what stands before a step. -/
theorem readBase_of_base (h : p.Base base first last closed) (step : Int) :
    ∃ part, Part.readBase Symbols.english base step = .ok part ∧
      part.values p.low p.high =
        if closed then progression first last (max step 1)
        else if 1 < step then progression first p.high step else [first] := by
  unfold Part.readBase
  cases h with
  | every => exact ⟨.every step, rfl, rfl⟩
  | value ha =>
    refine ⟨.single first step, ?_, rfl⟩
    rw [if_neg ha.ne_star, breakOn_of_notMem ha.chars.1]
    simp only [ha.readValue]
    rfl
  | @range a b _ _ ha hb =>
    refine ⟨.range first last step, ?_, rfl⟩
    rw [if_neg (range_ne_star a b), breakOn_append_cons ha.chars.1]
    simp only [ha.readValue, hb.readValue]
    rfl

/-- A part denotes what its member stands for, unless that is a run. -/
theorem read_of_stretch (h : p.Stretch member first last step)
    (hbounds : first ≤ last ∧ last ≤ p.high) :
    ∃ part, Part.read Symbols.english member = .ok part ∧ ∀ v,
      (first ≤ v ∧ v ≤ last ∧ step ∣ v - first) ↔
        v ∈ part.values p.low p.high ∨ ∃ n, p.RunsFrom member n ∧ n ≤ v ∧ v ≤ p.high := by
  unfold Part.read
  cases h with
  | plain hbase =>
    obtain ⟨part, hpart, hvalues⟩ := readBase_of_base hbase 1
    have hslash := hbase.slash_notMem
    refine ⟨part, by rw [breakOn_of_notMem hslash]; exact hpart, fun v => ?_⟩
    have hruns (n : Int) : ¬ p.RunsFrom member n := fun h => hslash h.slash_mem
    simp only [hvalues, hruns, false_and, exists_false, or_false]
    cases hbase with
    | every => exact (mem_progression (by decide)).symm
    | value => simp; omega
    | range => exact (mem_progression (by decide)).symm
  | @stepped base s _ _ _ closed hbase hstep =>
    obtain ⟨part, hpart, hvalues⟩ := readBase_of_base hbase step
    have hslash := hbase.slash_notMem
    refine ⟨part, by rw [breakOn_append_cons hslash]; simp only [hstep.1, hpart], fun v => ?_⟩
    simp only [hvalues, runsFrom_append_iff hslash]
    cases closed with
    | true =>
      have hmax : max step 1 = step := by
        have := hstep.2
        omega
      simp only [hbase.not_denotes, false_and, exists_false, or_false, if_true, hmax,
        mem_progression hstep.2]
    | false =>
      cases hbase with
      | value ha =>
        rcases eq_or_ne step 1 with rfl | hmore
        · simp only [Bool.false_eq_true, if_false, lt_irrefl, List.mem_singleton, one_dvd, and_true,
            hstep.1]
          constructor
          · rintro ⟨hfirst, hlast⟩
            exact Or.inr ⟨first, ha, hfirst, hlast⟩
          · rintro (rfl | ⟨n, hn, hfirst, hlast⟩)
            · omega
            · cases hn.unique ha
              exact ⟨hfirst, hlast⟩
        · have hone : integer? s ≠ some 1 := by
            rw [hstep.1, Ne, Option.some.injEq]
            exact hmore
          have hlarge : 1 < step := by
            have := hstep.2
            omega
          simp only [Bool.false_eq_true, if_false, if_pos hlarge, mem_progression hstep.2, hone,
            and_false, false_and, exists_false, or_false]

end Position

/-! ### Fields -/

theorem Field.read_eq_ok_iff {symbols : Symbols} {raw : String} {low high : Int} {f : Field} :
    Field.read symbols raw low high = .ok f ↔
      readAll (Part.read symbols) (Field.members raw) = .ok f.parts ∧ f.raw = raw ∧ f.low = low ∧
        f.high = high := by
  unfold Field.read
  constructor
  · intro h
    split at h
    · cases h
    · next parts hparts =>
      cases h
      exact ⟨hparts, rfl, rfl, rfl⟩
  · rintro ⟨hparts, rfl, rfl, rfl⟩
    split
    · next e he => rw [hparts] at he; cases he
    · next parts hparts' =>
      obtain rfl : f.parts = parts := Except.ok.inj (hparts.symm.trans hparts')
      rfl

variable {p : Position} {raw : String} {set : ValueSet} {f : Field}

theorem mem_set_iff (hset : ValueSet.read p raw = .ok set)
    (hfield : Field.read Symbols.english raw p.low p.high = .ok f) (v : Int) :
    (∃ n ∈ set.values, (n : Int) = v) ↔
      v ∈ f.values ∨
        ∃ member ∈ Field.members raw, ∃ n, p.RunsFrom member n ∧ n ≤ v ∧ v ≤ p.high := by
  obtain ⟨hparts, -, hlow, hhigh⟩ := Field.read_eq_ok_iff.mp hfield
  rw [ValueSet.exists_mem_of_read_iff hset, Field.mem_values, hlow, hhigh]
  constructor
  · rintro ⟨member, hmember, first, last, step, hstretch, hv⟩
    have hbounds := ValueSet.bounds_of_read hset hmember hstretch
    obtain ⟨part, hpart, hvalues⟩ := Position.read_of_stretch hstretch hbounds.2
    refine ((hvalues v).mp hv).imp ?_ ?_
    · intro hmem
      exact ⟨part, (mem_of_readAll hparts).mpr ⟨member, hmember, hpart⟩, hmem⟩
    · intro hruns
      exact ⟨member, hmember, hruns⟩
  · intro hv
    have hadmits : ∃ member ∈ Field.members raw, ∀ part,
        Part.read Symbols.english member = .ok part →
          v ∈ part.values p.low p.high ∨ ∃ n, p.RunsFrom member n ∧ n ≤ v ∧ v ≤ p.high := by
      rcases hv with ⟨part, hpart, hmem⟩ | ⟨member, hmember, hruns⟩
      · obtain ⟨member, hmember, hread⟩ := (mem_of_readAll hparts).mp hpart
        refine ⟨member, hmember, fun part' hread' => Or.inl ?_⟩
        cases hread.symm.trans hread'
        exact hmem
      · exact ⟨member, hmember, fun _ _ => Or.inr hruns⟩
    obtain ⟨member, hmember, hdenotes⟩ := hadmits
    obtain ⟨first, last, step, hstretch⟩ := ValueSet.stretch_of_read hset hmember
    have hbounds := ValueSet.bounds_of_read hset hmember hstretch
    obtain ⟨part, hpart, hvalues⟩ := Position.read_of_stretch hstretch hbounds.2
    exact ⟨member, hmember, first, last, step, hstretch, (hvalues v).mpr (hdenotes part hpart)⟩

/-- What the parser and the scheduler take a field of an accepted expression to denote. Both agree
if and only if the parts cover every member `N/1` up to the upper bound. -/
theorem readings_agree_iff {e : String} {s : Schedule} (accepted : ({} : Parser).parse e = .ok s)
    (p : Position) :
    ∃ request r, Request.ofExpression e = .ok request ∧
      Recurrence.ofExpression request.text = .ok r ∧
      (s.fields.get p).raw = request.fields.get p ∧
      ValueSet.read p (s.fields.get p).raw = .ok (r.sets.get p) ∧
      (∀ v : Int, (∃ n ∈ (r.sets.get p).values, (n : Int) = v) ↔ v ∈ (s.fields.get p).values ∨
        ∃ member ∈ Field.members (s.fields.get p).raw, ∃ n, p.RunsFrom member n ∧ n ≤ v ∧
          v ≤ p.high) ∧
      ((∀ v : Int, (∃ n ∈ (r.sets.get p).values, (n : Int) = v) ↔ v ∈ (s.fields.get p).values) ↔
        ∀ member ∈ Field.members (s.fields.get p).raw, ∀ n, p.RunsFrom member n →
          ∀ v, n ≤ v → v ≤ p.high → v ∈ (s.fields.get p).values) := by
  obtain ⟨request, r, hrequest, hr, hfields⟩ := Parser.recurrence_of_parse accepted
  have hset := Recurrence.ofFields_eq_ok_iff.mp hr p
  have hfield := Fields.traverse_eq_ok_iff.mp hfields p
  have hraw := (Field.read_eq_ok_iff.mp hfield).2.1
  have hvalues := mem_set_iff hset hfield
  rw [← hraw] at hset hvalues
  refine ⟨request, r, hrequest, by rw [ofExpression_text hrequest, hr], hraw, hset, hvalues, ?_⟩
  simp only [hvalues]
  constructor
  · intro h member hmember n hruns v hlow hhigh
    exact (h v).mp (Or.inr ⟨member, hmember, n, hruns, hlow, hhigh⟩)
  · intro h v
    refine ⟨?_, Or.inl⟩
    rintro (hmem | ⟨member, hmember, n, hruns, hlow, hhigh⟩)
    · exact hmem
    · exact h member hmember n hruns v hlow hhigh

/-- The hours of an expression with steps of many kinds. -/
theorem readings_agree_iff_of_steps :
    ∃ s request r, ({} : Parser).parse "*/20 8-18/2,22/3 * jan mon-fri" = .ok s ∧
      Request.ofExpression "*/20 8-18/2,22/3 * jan mon-fri" = .ok request ∧
      Recurrence.ofExpression request.text = .ok r ∧
      ∀ v : Int, (∃ n ∈ r.sets.hour.values, (n : Int) = v) ↔ v ∈ s.fields.hour.values ∨
        ∃ member ∈ Field.members s.fields.hour.raw, ∃ n, Position.hour.RunsFrom member n ∧ n ≤ v ∧
          v ≤ 23 := by
  obtain ⟨s, hs⟩ : ∃ s, ({} : Parser).parse "*/20 8-18/2,22/3 * jan mon-fri" = .ok s :=
    exists_of_isOk (by decide)
  obtain ⟨request, r, hrequest, hr, -, -, hvalues, -⟩ := readings_agree_iff hs .hour
  exact ⟨s, request, r, hs, hrequest, hr, hvalues⟩

/-- To the scheduler `22/1` takes in 23 o'clock, among the parts it does not. -/
theorem readings_differ_on_unit_step :
    ∃ s r, ({} : Parser).parse "0 22/1 1 1 0" = .ok s ∧
      Recurrence.ofExpression "0 22/1 1 1 0" = .ok r ∧
      23 ∈ r.sets.hour.values ∧ (23 : Int) ∉ s.fields.hour.values := by
  obtain ⟨s, hs⟩ : ∃ s, ({} : Parser).parse "0 22/1 1 1 0" = .ok s :=
    exists_of_isOk (by decide)
  obtain ⟨r, hr⟩ : ∃ r, Recurrence.ofExpression "0 22/1 1 1 0" = .ok r :=
    exists_of_isOk (by decide)
  have hparts : (({} : Parser).parse "0 22/1 1 1 0").map (·.fields.hour.parts) =
      .ok [.single 22 1] := by
    decide
  have hvalues : (Recurrence.ofExpression "0 22/1 1 1 0").map (·.sets.hour.values) =
      .ok [22, 23] := by
    decide
  rw [hs, Except.map, Except.ok.injEq] at hparts
  rw [hr, Except.map, Except.ok.injEq] at hvalues
  refine ⟨s, r, hs, hr, by rw [hvalues]; decide, ?_⟩
  rw [Field.mem_values, hparts]
  simp [Part.values]

end CronLint
