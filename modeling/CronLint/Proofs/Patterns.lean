import CronLint.Proofs.FirstRuns
import CronLint.Proofs.Literals

/-!
# Texts for triggers

A set of values is written for a trigger as an asterisk if it is full, or else as the list of its
values. What such a text selects is said without the grammar of expressions; it selects the values
it is written for and no others.
-/
namespace CronLint

/-- How a value is written for a trigger. Days of the week go by their names, since triggers may
count them from another day. -/
def Position.word (p : Position) (v : Nat) : String :=
  match p with
  | .dayOfWeek => ((Position.dayOfWeek.names.map Prod.fst)[v]?).getD ""
  | _ => toString v

/-- How a set of values is written for a trigger. A full set is an asterisk. -/
def ValueSet.pattern (p : Position) (set : ValueSet) : String :=
  if set.values.length = p.high - p.low + 1 then "*" else ",".intercalate (set.values.map p.word)

/-- The names of the days of the week that triggers know, in the order in which they count them. -/
def triggerWeekdays : List String := ["mon", "tue", "wed", "thu", "fri", "sat", "sun"]

/-- What triggers take for a value. They count the days of the week from Monday, so Sunday is the
last one. -/
def Position.triggerWord (p : Position) (v : Nat) : String :=
  match p with
  | .dayOfWeek => (triggerWeekdays[(v + 6) % 7]?).getD ""
  | _ => toString v

def Position.Selects (p : Position) (text : String) (v : Nat) : Prop :=
  ∃ part ∈ Field.members text, part = ['*'] ∨ part = (p.triggerWord v).toList

/-- The texts that triggers are made for: each part is an asterisk or a value of the position. -/
def Position.IsPattern (p : Position) (text : String) : Prop :=
  ∀ part ∈ Field.members text,
    part = ['*'] ∨ ∃ v, (p.low ≤ v ∧ v ≤ p.high) ∧ part = (p.triggerWord v).toList

namespace Text

theorem isDigit_of_mem_toString {v : Nat} {c : Char} (hc : c ∈ (toString v).toList) :
    c.isDigit = true :=
  Nat.isDigit_of_mem_toDigits (by decide) (by decide) (Nat.toList_repr ▸ hc)

theorem toString_injective {v w : Nat} (h : toString v = toString w) : v = w := by
  have hdigits : Nat.toDigits 10 v = Nat.toDigits 10 w := by
    rw [← Nat.toList_repr, ← Nat.toList_repr]
    exact congrArg String.toList h
  rw [← Nat.ofDigitChars_toDigits (b := 10) (n := v) (by decide) (by decide), hdigits,
    Nat.ofDigitChars_toDigits (by decide) (by decide)]

end Text

namespace Position

open Text

/-- Neither a comma nor an asterisk falls inside a value. -/
theorem notMem_word {p : Position} {v : Nat} :
    ',' ∉ (p.word v).toList ∧ '*' ∉ (p.word v).toList := by
  have hnumber : ',' ∉ (toString v).toList ∧ '*' ∉ (toString v).toList :=
    ⟨fun h => absurd (isDigit_of_mem_toString h) (by decide),
      fun h => absurd (isDigit_of_mem_toString h) (by decide)⟩
  cases p with
  | dayOfWeek =>
    unfold word
    cases hname : (Position.dayOfWeek.names.map Prod.fst)[v]? with
    | none => exact ⟨by simp, by simp⟩
    | some name =>
      obtain ⟨entry, hentry, rfl⟩ := List.mem_map.mp (List.mem_of_getElem? hname)
      have hletters := (names_letters .dayOfWeek entry hentry).2
      exact ⟨fun h => absurd (hletters _ h).1 (by decide),
        fun h => absurd (hletters _ h).1 (by decide)⟩
  | minute => exact hnumber
  | hour => exact hnumber
  | dayOfMonth => exact hnumber
  | month => exact hnumber

theorem word_injective {p : Position} {v w : Nat} (hv : v ≤ p.high) (hw : w ≤ p.high)
    (h : p.word v = p.word w) : v = w := by
  cases p with
  | dayOfWeek =>
    have hnames : ∀ v ∈ List.range 7, ∀ w ∈ List.range 7,
        Position.dayOfWeek.word v = Position.dayOfWeek.word w → v = w := by
      decide
    simp only [high] at hv hw
    exact hnames v (List.mem_range.mpr (by omega)) w (List.mem_range.mpr (by omega)) h
  | minute => exact toString_injective h
  | hour => exact toString_injective h
  | dayOfMonth => exact toString_injective h
  | month => exact toString_injective h

/-- Values are written in the words that triggers take for them. -/
theorem word_eq_triggerWord {p : Position} {v : Nat} (hv : v ≤ p.high) :
    p.word v = p.triggerWord v := by
  cases p with
  | dayOfWeek =>
    have hdays : ∀ v ∈ List.range 7,
        Position.dayOfWeek.word v = Position.dayOfWeek.triggerWord v := by
      decide
    simp only [high] at hv
    exact hdays v (List.mem_range.mpr (by omega))
  | minute => rfl
  | hour => rfl
  | dayOfMonth => rfl
  | month => rfl

theorem selects_star (p : Position) (v : Nat) : p.Selects "*" v :=
  ⟨['*'], by decide, Or.inl rfl⟩

theorem isPattern_star (p : Position) : p.IsPattern "*" := by
  intro part hpart
  have hmembers : Field.members "*" = [['*']] := by decide
  rw [hmembers, List.mem_singleton] at hpart
  exact Or.inl hpart

end Position

namespace ValueSet

variable {p : Position} {set : ValueSet}

theorem members_pattern (nonempty : set.values ≠ [])
    (hpartial : set.values.length ≠ p.high - p.low + 1) :
    Field.members (set.pattern p) = set.values.map fun v => (p.word v).toList := by
  rw [pattern, if_neg hpartial, Field.members, String.toList_intercalate, List.map_map]
  refine Text.segments_intercalate (by decide) ?_ (by simpa using nonempty)
  intro word hword c hc
  obtain ⟨v, -, rfl⟩ := List.mem_map.mp hword
  have hcomma : c ≠ ',' := by
    rintro rfl
    exact Position.notMem_word.1 hc
  simpa using hcomma

/-- As many values as a position has are all of them. -/
theorem mem_of_full (h : set.Ordered p) (full : set.values.length = p.high - p.low + 1) {v : Nat}
    (hv : p.low ≤ v ∧ v ≤ p.high) : v ∈ set.values := by
  have hsubset : set.values ⊆ List.range' p.low (p.high - p.low + 1) := by
    intro w hw
    have := h.bounded w hw
    rw [List.mem_range'_1]
    omega
  have hnodup : set.values.Nodup := h.ascending.imp fun hlt => hlt.ne
  have hperm := (hnodup.subperm hsubset).perm_of_length_le (by rw [full, List.length_range'])
  rw [hperm.mem_iff, List.mem_range'_1]
  omega

theorem selects_pattern_iff (h : set.Ordered p) (nonempty : set.values ≠ []) {v : Nat}
    (hv : p.low ≤ v ∧ v ≤ p.high) : p.Selects (set.pattern p) v ↔ v ∈ set.values := by
  by_cases full : set.values.length = p.high - p.low + 1
  · rw [pattern, if_pos full]
    exact ⟨fun _ => mem_of_full h full hv, fun _ => p.selects_star v⟩
  · rw [Position.Selects, members_pattern nonempty full, ← Position.word_eq_triggerWord hv.2]
    constructor
    · rintro ⟨part, hpart, hselects⟩
      obtain ⟨w, hw, rfl⟩ := List.mem_map.mp hpart
      rcases hselects with hstar | hword
      · exact absurd (hstar ▸ List.mem_singleton_self '*') Position.notMem_word.2
      · have hvw := Position.word_injective hv.2 (h.bounded w hw).2
          (String.toList_injective hword.symm)
        exact hvw ▸ hw
    · intro hmem
      exact ⟨_, List.mem_map_of_mem hmem, Or.inr rfl⟩

theorem isPattern_pattern (h : set.Ordered p) (nonempty : set.values ≠ []) :
    p.IsPattern (set.pattern p) := by
  by_cases full : set.values.length = p.high - p.low + 1
  · rw [pattern, if_pos full]
    exact p.isPattern_star
  · rw [Position.IsPattern, members_pattern nonempty full]
    intro part hpart
    obtain ⟨v, hv, rfl⟩ := List.mem_map.mp hpart
    have hbounds := h.bounded v hv
    exact Or.inr ⟨v, hbounds, by rw [Position.word_eq_triggerWord hbounds.2]⟩

end ValueSet

end CronLint
