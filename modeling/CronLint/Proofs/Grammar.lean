import CronLint.Proofs.Literals
import CronLint.Proofs.Outcomes
import CronLint.Scheduler

/-!
# The grammar of an expression

`Position.Stretch` says how a member of a field is written and which values it stands for,
`Position.Admits` which values a whole field admits. Both are independent of the reader; the lemmas
here show that the reader follows them, member by member and then for all five fields.
-/
namespace CronLint

namespace Position

open Text

/-- How the value `v` may be written in a position: as one of its names in any case, or as an
integer literal without a hyphen. -/
inductive Denotes (p : Position) : List Char → Int → Prop
  | name {text : List Char} {name : String} {n : Nat} :
      (name, n) ∈ p.names → lowerAscii text = name.toList → Denotes p text n
  | literal {text : List Char} {v : Int} : '-' ∉ text → integer? text = some v → Denotes p text v

def IsStep (text : List Char) (step : Int) : Prop := integer? text = some step ∧ 0 < step

/-- What may stand before a step, and from where to where it stretches: an asterisk, a value, or two
values joined by a hyphen. `closed` says that a step leaves the upper end alone; after a single
value it does not. -/
inductive Base (p : Position) : (base : List Char) → (first last : Int) → (closed : Bool) → Prop
  | every : Base p ['*'] p.low p.high true
  | value {a : List Char} {v : Int} : p.Denotes a v → Base p a v v false
  | range {a b : List Char} {v w : Int} :
      p.Denotes a v → p.Denotes b w → Base p (a ++ '-' :: b) v w true

/-- How a member of a field is written, and the values `first, first + step, …` up to `last` that it
stands for. A single value with a step runs on to the upper bound. -/
inductive Stretch (p : Position) : (member : List Char) → (first last step : Int) → Prop
  | plain {base : List Char} {first last : Int} {closed : Bool} :
      p.Base base first last closed → Stretch p base first last 1
  | stepped {base s : List Char} {first last step : Int} {closed : Bool} :
      p.Base base first last closed → IsStep s step →
        Stretch p (base ++ '/' :: s) first (if closed then last else p.high) step

/-- A member that leaves its field unrestricted: an asterisk, alone or with a step of one. -/
def IsWildcard (member : List Char) : Prop :=
  member = ['*'] ∨ ∃ s, member = ['*'] ++ '/' :: s ∧ integer? s = some 1

/-- The values that a field admits. -/
def Admits (p : Position) (raw : String) (v : Int) : Prop :=
  ∃ member ∈ Field.members raw, ∃ first last step, p.Stretch member first last step ∧
    first ≤ v ∧ v ≤ last ∧ step ∣ v - first

/-! ### Values -/

variable {p : Position} {text : List Char} {v : Int}

theorem letters_of_name {name : String} {n : Nat} (hname : (name, n) ∈ p.names)
    (hlower : lowerAscii text = name.toList) : ∀ c ∈ text, IsAsciiLetter c := by
  intro c hc
  have hlow : lowerAsciiChar c ∈ lowerAscii text := List.mem_map_of_mem hc
  rw [hlower] at hlow
  obtain ⟨hsmall, hk⟩ := (p.names_letters _ hname).2 _ hlow
  exact isAsciiLetter_of_lowered hsmall hk

theorem Denotes.chars (h : p.Denotes text v) :
    '-' ∉ text ∧ ∀ c ∈ text, IsAsciiLetter c ∨ IsLiteralChar c := by
  cases h with
  | name hname hlower =>
    have hletters := letters_of_name hname hlower
    refine ⟨?_, fun c hc => Or.inl (hletters c hc)⟩
    intro hyphen
    have := isAsciiLetter_iff.mp (hletters _ hyphen)
    simp at this
  | literal hhyphen hint => exact ⟨hhyphen, fun c hc => Or.inr (isLiteralChar_of_integer? hint hc)⟩

theorem Denotes.notMem (h : p.Denotes text v) {c : Char} (hletter : ¬ IsAsciiLetter c)
    (hliteral : ¬ IsLiteralChar c) : c ∉ text :=
  fun hc => (h.chars.2 c hc).elim hletter hliteral

theorem Denotes.slash_notMem (h : p.Denotes text v) : '/' ∉ text :=
  h.notMem (by decide) (by decide)

theorem Denotes.ne_star (h : p.Denotes text v) : text ≠ ['*'] := by
  rintro rfl
  exact h.notMem (c := '*') (by decide) (by decide) List.mem_cons_self

theorem integer?_of_name {name : String} {n : Nat} (hname : (name, n) ∈ p.names)
    (hlower : lowerAscii text = name.toList) : integer? text = none := by
  cases h : integer? text with
  | none => rfl
  | some v =>
    cases text with
    | nil => exact absurd hlower.symm (p.names_letters _ hname).1
    | cons c cs =>
      have hliteral := isLiteralChar_of_integer? h List.mem_cons_self
      have hletter := letters_of_name hname hlower c List.mem_cons_self
      exact absurd hliteral (not_isLiteralChar_of_letter hletter)

theorem mem_names_of_lookup {key : String} {n : Nat} (h : p.names.lookup key = some n) :
    (key, n) ∈ p.names := by
  obtain ⟨before, after, hnames, -⟩ := List.lookup_eq_some_iff.mp h
  rw [hnames]
  simp

theorem readValue_eq_ok_iff (hyphen : '-' ∉ text) :
    p.readValue text = .ok v ↔ p.Denotes text v := by
  have hkey : lowerAscii text = (String.ofList (lowerAscii text)).toList :=
    String.toList_ofList.symm
  unfold readValue
  constructor
  · intro h
    cases hlookup : p.names.lookup (String.ofList (lowerAscii text)) with
    | some n =>
      rw [hlookup] at h
      cases h
      exact .name (mem_names_of_lookup hlookup) hkey
    | none =>
      rw [hlookup] at h
      dsimp only at h
      cases hint : integer? text with
      | none => rw [hint] at h; cases h
      | some n =>
        rw [hint] at h
        cases h
        exact .literal hyphen hint
  · intro h
    cases h with
    | @name name n hname hlower =>
      have hlookup := p.names_lookup (name, n) hname
      rw [hlower, String.ofList_toList, hlookup]
    | literal _ hint =>
      cases hlookup : p.names.lookup (String.ofList (lowerAscii text)) with
      | none => rw [hint]
      | some n =>
        rw [integer?_of_name (mem_names_of_lookup hlookup) hkey] at hint
        cases hint

/-! ### Members -/

variable {base member : List Char} {first last step : Int} {closed : Bool} {span : Span}

theorem Base.slash_notMem (h : p.Base base first last closed) : '/' ∉ base := by
  cases h with
  | every => decide
  | value ha => exact ha.slash_notMem
  | range ha hb =>
    simp only [List.mem_append, List.mem_cons, not_or]
    exact ⟨ha.slash_notMem, by decide, hb.slash_notMem⟩

theorem range_ne_star (a b : List Char) : a ++ '-' :: b ≠ ['*'] := by
  intro h
  have hyphen : '-' ∈ ['*'] := h ▸ List.mem_append_right a List.mem_cons_self
  simp at hyphen

theorem readEnds_eq_ok_iff :
    p.readEnds member base = .ok ((first, last), closed) ↔ p.Base base first last closed := by
  unfold readEnds
  constructor
  · intro h
    split_ifs at h with hstar
    · cases pure_eq_ok_iff.mp h
      exact hstar ▸ .every
    · split at h
      · next value hbreak =>
        obtain ⟨rfl, hyphen⟩ := breakOn_eq_none_iff.mp hbreak
        simp only [bind_eq_ok_iff, pure_eq_ok_iff] at h
        obtain ⟨v, hv, heq⟩ := h
        cases heq
        exact .value ((readValue_eq_ok_iff hyphen).mp hv)
      · next a b hbreak =>
        obtain ⟨rfl, hyphen⟩ := breakOn_eq_some_iff.mp hbreak
        split_ifs at h with hmore
        · cases h
        · simp only [bind_eq_ok_iff, pure_eq_ok_iff] at h
          obtain ⟨v, hv, w, hw, heq⟩ := h
          cases heq
          have hyphen' : '-' ∉ b := by simpa using hmore
          exact .range ((readValue_eq_ok_iff hyphen).mp hv) ((readValue_eq_ok_iff hyphen').mp hw)
  · intro h
    cases h with
    | every => rfl
    | value ha =>
      rw [if_neg ha.ne_star, breakOn_of_notMem ha.chars.1]
      simp only [(readValue_eq_ok_iff ha.chars.1).mpr ha]
      rfl
    | @range a b _ _ ha hb =>
      have hmore : b.contains '-' = false := by simpa using hb.chars.1
      rw [if_neg (range_ne_star a b), breakOn_append_cons ha.chars.1]
      simp only [hmore, (readValue_eq_ok_iff ha.chars.1).mpr ha,
        (readValue_eq_ok_iff hb.chars.1).mpr hb]
      rfl

theorem readStep_some_eq_ok_iff {s : List Char} :
    readStep member (some s) = .ok step ↔ IsStep s step := by
  unfold IsStep
  cases h : integer? s with
  | none => simp [readStep, h]
  | some k =>
    simp only [readStep, h, Option.some.injEq]
    constructor
    · intro hok
      split_ifs at hok with hk
      cases hok
      exact ⟨rfl, by omega⟩
    · rintro ⟨rfl, hk⟩
      rw [if_neg (by omega)]

/-- What a well-formed member is read as, its bounds still to be checked. -/
theorem readSpan_of_stretch (h : p.Stretch member first last step) :
    p.readSpan member =
      p.spanBetween member first last step ((breakOn '/' member).1 == ['*']) := by
  unfold readSpan
  cases h with
  | plain hbase =>
    rw [breakOn_of_notMem hbase.slash_notMem]
    simp only [readEnds_eq_ok_iff.mpr hbase, readStep]
    simp only [Option.getD_none, List.contains_nil, Bool.false_eq_true, Option.isSome_none,
      Bool.false_and, if_false]
    rfl
  | @stepped base s _ last _ closed hbase hstep =>
    have hslash : s.contains '/' = false := by
      have : '/' ∉ s := fun hmem => by
        have := isLiteralChar_of_integer? hstep.1 hmem
        revert this
        decide
      simpa using this
    rw [breakOn_append_cons hbase.slash_notMem]
    simp only [readEnds_eq_ok_iff.mpr hbase, readStep_some_eq_ok_iff.mpr hstep, Option.getD_some,
      hslash, Bool.false_eq_true, Option.isSome_some, Bool.true_and, if_false]
    cases closed <;> rfl

/-- Only well-formed members are read. -/
theorem stretch_of_readSpan (h : p.readSpan member = .ok span) :
    ∃ first last step, p.Stretch member first last step := by
  unfold readSpan at h
  cases hbreak : breakOn '/' member with
  | mk base stepText =>
    rw [hbreak] at h
    dsimp only at h
    split_ifs at h with hslash
    · obtain ⟨_, h, -⟩ := bind_eq_ok_iff.mp h
      cases h
    · simp only [bind_eq_ok_iff] at h
      obtain ⟨⟨⟨first, last⟩, closed⟩, hends, step, hstep, -⟩ := h
      have hbase := readEnds_eq_ok_iff.mp hends
      cases stepText with
      | none =>
        obtain ⟨rfl, -⟩ := breakOn_eq_none_iff.mp hbreak
        exact ⟨_, _, _, .plain hbase⟩
      | some s =>
        obtain ⟨rfl, -⟩ := breakOn_eq_some_iff.mp hbreak
        exact ⟨_, _, _, .stepped hbase (readStep_some_eq_ok_iff.mp hstep)⟩

theorem spanBetween_eq_ok_iff {star : Bool} :
    p.spanBetween member first last step star = .ok span ↔
      (p.low ≤ first ∧ first ≤ last ∧ last ≤ p.high) ∧
        span = ⟨first.toNat, last.toNat, step.toNat, star && step == 1⟩ := by
  unfold spanBetween
  constructor
  · intro h
    split_ifs at h
    cases h
    exact ⟨by omega, rfl⟩
  · rintro ⟨⟨hlow, hle, hhigh⟩, rfl⟩
    rw [if_neg (by omega), if_neg (by omega), if_neg (by omega)]

theorem Stretch.step_pos (h : p.Stretch member first last step) : 0 < step := by
  cases h with
  | plain => decide
  | stepped _ hstep => exact hstep.2

theorem star_and_unit_iff (h : p.Stretch member first last step) :
    ((breakOn '/' member).1 == ['*'] && step == 1) = true ↔ IsWildcard member := by
  simp only [Bool.and_eq_true, beq_iff_eq]
  cases h with
  | plain hbase =>
    have hslash := hbase.slash_notMem
    rw [breakOn_of_notMem hslash]
    constructor
    · rintro ⟨rfl, -⟩
      exact Or.inl rfl
    · rintro (rfl | ⟨s, rfl, -⟩)
      · exact ⟨rfl, rfl⟩
      · simp at hslash
  | @stepped base s _ _ _ _ hbase hstep =>
    have hslash := hbase.slash_notMem
    rw [breakOn_append_cons hslash]
    constructor
    · rintro ⟨rfl, rfl⟩
      exact Or.inr ⟨s, rfl, hstep.1⟩
    · rintro (hstar | ⟨s', heq, hunit⟩)
      · have : '/' ∈ ['*'] := hstar ▸ by simp
        simp at this
      · obtain ⟨rfl, rfl⟩ := append_cons_inj hslash (by decide) heq
        exact ⟨rfl, Option.some.inj (hstep.1.symm.trans hunit)⟩

theorem readSpan_eq_ok_iff :
    p.readSpan member = .ok span ↔ ∃ first last step, p.Stretch member first last step ∧
      (p.low ≤ first ∧ first ≤ last ∧ last ≤ p.high) ∧
      span = ⟨first.toNat, last.toNat, step.toNat,
        (breakOn '/' member).1 == ['*'] && step == 1⟩ := by
  constructor
  · intro h
    obtain ⟨first, last, step, hstretch⟩ := stretch_of_readSpan h
    rw [readSpan_of_stretch hstretch, spanBetween_eq_ok_iff] at h
    exact ⟨first, last, step, hstretch, h⟩
  · rintro ⟨first, last, step, hstretch, h⟩
    rw [readSpan_of_stretch hstretch, spanBetween_eq_ok_iff]
    exact h

theorem admits_of_readSpan (h : p.readSpan member = .ok span) (n : Nat) :
    span.admits n = true ↔ ∃ first last step, p.Stretch member first last step ∧
      first ≤ n ∧ n ≤ last ∧ step ∣ n - first := by
  have hadmits {first last step : Int} (hstretch : p.Stretch member first last step) :
      span.admits n = true ↔ first ≤ n ∧ n ≤ last ∧ step ∣ n - first := by
    rw [readSpan_of_stretch hstretch, spanBetween_eq_ok_iff] at h
    obtain ⟨⟨hlow, hle, -⟩, rfl⟩ := h
    have hpos := hstretch.step_pos
    obtain ⟨first, rfl⟩ := Int.eq_ofNat_of_zero_le (show 0 ≤ first by omega)
    obtain ⟨last, rfl⟩ := Int.eq_ofNat_of_zero_le (show 0 ≤ last by omega)
    obtain ⟨step, rfl⟩ := Int.eq_ofNat_of_zero_le hpos.le
    simp only [Span.admits, Bool.and_eq_true, decide_eq_true_eq, beq_iff_eq, Int.toNat_natCast,
      Nat.cast_le, and_assoc]
    refine and_congr_right fun hfirst => and_congr_right fun _ => ?_
    rw [← Nat.cast_sub hfirst, Int.natCast_dvd_natCast, Nat.dvd_iff_mod_eq_zero]
  constructor
  · intro hn
    obtain ⟨first, last, step, hstretch⟩ := stretch_of_readSpan h
    exact ⟨first, last, step, hstretch, (hadmits hstretch).mp hn⟩
  · rintro ⟨first, last, step, hstretch, hn⟩
    exact (hadmits hstretch).mpr hn

theorem unrestricted_of_readSpan (h : p.readSpan member = .ok span) :
    span.unrestricted = true ↔ IsWildcard member := by
  obtain ⟨first, last, step, hstretch, -, rfl⟩ := readSpan_eq_ok_iff.mp h
  exact star_and_unit_iff hstretch

end Position

/-! ### Fields and expressions -/

namespace ValueSet

variable {p : Position} {raw : String} {set : ValueSet}

theorem read_eq_ok_iff : read p raw = .ok set ↔
    ∃ spans, readAll p.readSpan (Field.members raw) = .ok spans ∧ ofSpans p spans = set :=
  map_eq_ok_iff

theorem mem_of_read (h : read p raw = .ok set) (n : Nat) : n ∈ set.values ↔ p.Admits raw n := by
  obtain ⟨spans, hspans, rfl⟩ := read_eq_ok_iff.mp h
  rw [mem_ofSpans]
  constructor
  · rintro ⟨-, span, hspan, hadmits⟩
    obtain ⟨member, hmember, hread⟩ := (mem_of_readAll hspans).mp hspan
    exact ⟨member, hmember, (Position.admits_of_readSpan hread n).mp hadmits⟩
  · rintro ⟨member, hmember, hadmits⟩
    obtain ⟨span, hread⟩ := exists_of_readAll hspans hmember
    have hadmits := (Position.admits_of_readSpan hread n).mpr hadmits
    refine ⟨?_, span, (mem_of_readAll hspans).mpr ⟨member, hmember, hread⟩, hadmits⟩
    obtain ⟨first, last, step, -, hbounds, rfl⟩ := Position.readSpan_eq_ok_iff.mp hread
    simp only [Span.admits, Bool.and_eq_true, decide_eq_true_eq] at hadmits
    omega

theorem bounds_of_read (h : read p raw = .ok set) {member : List Char} {first last step : Int}
    (hmember : member ∈ Field.members raw) (hstretch : p.Stretch member first last step) :
    p.low ≤ first ∧ first ≤ last ∧ last ≤ p.high := by
  obtain ⟨spans, hspans, -⟩ := read_eq_ok_iff.mp h
  obtain ⟨span, hspan⟩ := exists_of_readAll hspans hmember
  rw [Position.readSpan_of_stretch hstretch, Position.spanBetween_eq_ok_iff] at hspan
  exact hspan.1

theorem stretch_of_read (h : read p raw = .ok set) {member : List Char}
    (hmember : member ∈ Field.members raw) :
    ∃ first last step, p.Stretch member first last step := by
  obtain ⟨spans, hspans, -⟩ := read_eq_ok_iff.mp h
  obtain ⟨span, hspan⟩ := exists_of_readAll hspans hmember
  exact Position.stretch_of_readSpan hspan

/-- Only values that a position can have are admitted. -/
theorem exists_mem_of_read_iff (h : read p raw = .ok set) (v : Int) :
    (∃ n ∈ set.values, (n : Int) = v) ↔ p.Admits raw v := by
  constructor
  · rintro ⟨n, hn, rfl⟩
    exact (mem_of_read h n).mp hn
  · intro hv
    have ⟨member, hmember, first, last, step, hstretch, hfirst, _⟩ := hv
    have hlow := bounds_of_read h hmember hstretch
    obtain ⟨n, rfl⟩ := Int.eq_ofNat_of_zero_le (show 0 ≤ v by omega)
    exact ⟨n, (mem_of_read h n).mpr hv, rfl⟩

theorem values_ne_nil_of_read (h : read p raw = .ok set) : set.values ≠ [] := by
  obtain ⟨member, hmember⟩ := List.exists_mem_of_ne_nil _ (Field.members_ne_nil raw)
  obtain ⟨first, last, step, hstretch⟩ := stretch_of_read h hmember
  have hle := (bounds_of_read h hmember hstretch).2.1
  have hadmits : p.Admits raw first :=
    ⟨member, hmember, first, last, step, hstretch, le_rfl, hle, by simp⟩
  obtain ⟨n, hn, -⟩ := (exists_mem_of_read_iff h first).mpr hadmits
  exact List.ne_nil_of_mem hn

theorem unrestricted_of_read (h : read p raw = .ok set) :
    set.unrestricted = true ↔ ∃ member ∈ Field.members raw, Position.IsWildcard member := by
  obtain ⟨spans, hspans, rfl⟩ := read_eq_ok_iff.mp h
  simp only [ofSpans, List.any_eq_true]
  constructor
  · rintro ⟨span, hspan, hstar⟩
    obtain ⟨member, hmember, hread⟩ := (mem_of_readAll hspans).mp hspan
    exact ⟨member, hmember, (Position.unrestricted_of_readSpan hread).mp hstar⟩
  · rintro ⟨member, hmember, hstar⟩
    obtain ⟨span, hread⟩ := exists_of_readAll hspans hmember
    exact ⟨span, (mem_of_readAll hspans).mpr ⟨member, hmember, hread⟩,
      (Position.unrestricted_of_readSpan hread).mpr hstar⟩

end ValueSet

/-! ### Expressions -/

/-- The five fields that an expression spells out: its words, or those that its alias stands for.
Blanks may follow an alias. -/
inductive Spells (e : String) (raw : Fields String) : Prop
  | asAlias : e.toList.head? = some '@' → (String.ofList (Text.trim e.toList), raw) ∈ aliases →
      Spells e raw
  | asWords : e.toList.head? ≠ some '@' → wordsOf e = raw.toList → Spells e raw

section

variable {e name : String} {raw : Fields String}

theorem Spells.words (h : Spells e raw) (hhead : e.toList.head? ≠ some '@') :
    wordsOf e = raw.toList :=
  match h with
  | .asAlias hat _ => absurd hat hhead
  | .asWords _ hwords => hwords

theorem splitExpression_eq_ok_iff (h : e.toList.head? ≠ some '@') :
    splitExpression e = .ok raw ↔ Fields.ofList? (wordsOf e) = some raw := by
  rw [splitExpression, if_neg h]
  dsimp only
  split
  · next fields hfields => rw [hfields, Except.ok.injEq, Option.some.injEq]
  · next hfields => simp [hfields]

theorem aliasFields?_eq_some_iff : aliasFields? name = some raw ↔ (name, raw) ∈ aliases := by
  have haliases : ∀ a ∈ aliases, aliasFields? a.1 = some a.2 := by decide
  constructor
  · intro h
    obtain ⟨before, after, heq, -⟩ := List.lookup_eq_some_iff.mp h
    rw [heq]
    simp
  · exact haliases _

theorem splitExpression_eq_ok_iff_spells : splitExpression e = .ok raw ↔ Spells e raw := by
  by_cases hhead : e.toList.head? = some '@'
  · have hspells : Spells e raw ↔ (String.ofList (Text.trim e.toList), raw) ∈ aliases :=
      ⟨fun | .asAlias _ hmem => hmem | .asWords hwords _ => absurd hhead hwords, .asAlias hhead⟩
    rw [hspells, ← aliasFields?_eq_some_iff, splitExpression, if_pos hhead]
    dsimp only
    split
    · next fields hfields => rw [hfields, Except.ok.injEq, Option.some.injEq]
    · next hfields => simp [hfields]
  · have hspells : Spells e raw ↔ wordsOf e = raw.toList :=
      ⟨fun h => h.words hhead, .asWords hhead⟩
    rw [hspells, splitExpression_eq_ok_iff hhead, Fields.ofList?_eq_some_iff]

theorem Spells.unique {raw' : Fields String} (h : Spells e raw) (h' : Spells e raw') : raw = raw' :=
  Except.ok.inj ((splitExpression_eq_ok_iff_spells.mpr h).symm.trans
    (splitExpression_eq_ok_iff_spells.mpr h'))

end

namespace Recurrence

variable {raw : Fields String} {r : Recurrence}

theorem ofFields_eq_ok_iff :
    ofFields raw = .ok r ↔ ∀ p, ValueSet.read p (raw.get p) = .ok (r.sets.get p) := by
  rw [ofFields, map_eq_ok_iff]
  constructor
  · rintro ⟨sets, hsets, rfl⟩
    exact Fields.traverse_eq_ok_iff.mp hsets
  · intro h
    exact ⟨r.sets, Fields.traverse_eq_ok_iff.mpr h, rfl⟩

theorem ofExpression_eq_ok_iff {expression : String} :
    ofExpression expression = .ok r ↔
      ∃ raw, Spells expression raw ∧ ofFields raw = .ok r := by
  simp only [← splitExpression_eq_ok_iff_spells]
  exact bind_eq_ok_iff

end Recurrence

/-! ### Acceptance -/

theorem calendarScheduler_validate_eq_ok_iff {e : String} :
    calendarScheduler.validate e = .ok () ↔ ∃ r, Recurrence.ofExpression e = .ok r := by
  cases h : Recurrence.ofExpression e with
  | ok r => simp [calendarScheduler, h, Except.map, Except.mapError]
  | error fault => simp [calendarScheduler, h, Except.map, Except.mapError]

theorem calendarScheduler_next_of_ok {e : String} {r : Recurrence}
    (h : Recurrence.ofExpression e = .ok r) (start : Calendar.Instant) (count : Int)
    (horizon : Option Calendar.Instant) : calendarScheduler.next e start count horizon =
      (Scheduler.project r start count horizon).mapError .calendar := by
  simp only [calendarScheduler, h]

theorem calendarScheduler_next_of_rejected {e : String}
    (h : ∀ r, Recurrence.ofExpression e ≠ .ok r) (start : Calendar.Instant) (count : Int)
    (horizon : Option Calendar.Instant) :
    ∃ rejection, calendarScheduler.next e start count horizon = .error (.rejected rejection) := by
  cases hfault : Recurrence.ofExpression e with
  | ok r => exact absurd hfault (h r)
  | error fault => exact ⟨fault.toRejection, by simp only [calendarScheduler, hfault]⟩

end CronLint
