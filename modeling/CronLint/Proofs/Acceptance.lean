import CronLint.Proofs.Failures
import CronLint.Proofs.UnitSteps

/-!
# Accepted expressions

The scheduler accepts an expression if and only if it is an alias or five fields all of whose
members are well formed and stay within the bounds of their position. What it makes of an accepted
field is the list of the values that the field admits, or an asterisk if these are all values of the
position.
-/
namespace CronLint

open Text

theorem exists_readAll_iff {f : α → Except ε β} {l : List α} :
    (∃ r, readAll f l = .ok r) ↔ ∀ a ∈ l, ∃ b, f a = .ok b := by
  constructor
  · rintro ⟨r, hr⟩ a ha
    exact exists_of_readAll hr ha
  · intro h
    cases hread : readAll f l with
    | ok r => exact ⟨r, rfl⟩
    | error e =>
      obtain ⟨before, a, after, rfl, -, ha⟩ := readAll_eq_error_iff.mp hread
      obtain ⟨b, hb⟩ := h a (by simp)
      cases hb.symm.trans ha

theorem Fields.exists_traverse_iff {f : Position → α → Except ε β} {x : Fields α} :
    (∃ y, x.traverse f = .ok y) ↔ ∀ p, ∃ b, f p (x.get p) = .ok b := by
  constructor
  · rintro ⟨y, hy⟩ p
    exact ⟨y.get p, Fields.traverse_eq_ok_iff.mp hy p⟩
  · exact Fields.exists_traverse

/-! ### Members and fields -/

namespace Position

variable {p : Position} {member : List Char}

/-- A member that is well formed and stays within the bounds of the position. -/
def IsMember (p : Position) (member : List Char) : Prop :=
  ∃ first last step, p.Stretch member first last step ∧
    p.low ≤ first ∧ first ≤ last ∧ last ≤ p.high

/-- A field that consists of such members. -/
def IsField (p : Position) (raw : String) : Prop :=
  ∀ member ∈ Field.members raw, p.IsMember member

theorem exists_readSpan_iff : (∃ span, p.readSpan member = .ok span) ↔ p.IsMember member := by
  constructor
  · rintro ⟨span, h⟩
    obtain ⟨first, last, step, hstretch, hbounds, -⟩ := readSpan_eq_ok_iff.mp h
    exact ⟨first, last, step, hstretch, hbounds⟩
  · rintro ⟨first, last, step, hstretch, hbounds⟩
    exact ⟨_, readSpan_eq_ok_iff.mpr ⟨first, last, step, hstretch, hbounds, rfl⟩⟩

theorem isField_star (p : Position) : p.IsField "*" := by
  intro member hmember
  have hmembers : Field.members "*" = [['*']] := rfl
  obtain rfl := List.mem_singleton.mp (hmembers ▸ hmember)
  have := p.low_le_high
  exact ⟨p.low, p.high, 1, .plain .every, by omega⟩

theorem isField_literal {raw : String} {cs : List Char} {v : Int}
    (hmembers : Field.members raw = [cs]) (hyphen : '-' ∉ cs) (hint : integer? cs = some v)
    (hv : p.low ≤ v ∧ v ≤ p.high) : p.IsField raw := by
  intro member hmember
  obtain rfl := List.mem_singleton.mp (hmembers ▸ hmember)
  exact ⟨v, v, 1, .plain (.value (.literal hyphen hint)), hv.1, le_rfl, hv.2⟩

end Position

theorem ValueSet.exists_read_iff {p : Position} {raw : String} :
    (∃ set, ValueSet.read p raw = .ok set) ↔ p.IsField raw := by
  have hspans : (∃ spans, readAll p.readSpan (Field.members raw) = .ok spans) ↔ p.IsField raw := by
    simp only [exists_readAll_iff, Position.exists_readSpan_iff, Position.IsField]
  rw [← hspans]
  simp only [read_eq_ok_iff]
  constructor
  · rintro ⟨_, spans, h, -⟩
    exact ⟨spans, h⟩
  · rintro ⟨spans, h⟩
    exact ⟨_, spans, h, rfl⟩

theorem Recurrence.exists_ofFields_iff {raw : Fields String} :
    (∃ r, Recurrence.ofFields raw = .ok r) ↔ ∀ p : Position, p.IsField (raw.get p) := by
  simp only [← ValueSet.exists_read_iff, ← Fields.exists_traverse_iff, Recurrence.ofFields,
    map_eq_ok_iff]
  constructor
  · rintro ⟨_, sets, h, -⟩
    exact ⟨sets, h⟩
  · rintro ⟨sets, h⟩
    exact ⟨_, sets, h, rfl⟩

/-! ### Expressions -/

variable {e name : String} {raw : Fields String} {r : Recurrence}

theorem isField_of_mem_aliases (h : (name, raw) ∈ aliases) (p : Position) :
    p.IsField (raw.get p) := by
  have haliases : ∀ a ∈ aliases, ∀ p ∈ Position.all,
      a.2.get p = "*" ∨ a.2.get p = "0" ∧ p.low = 0 ∨ a.2.get p = "1" := by
    decide
  have hp : p ∈ Position.all := by cases p <;> decide
  obtain hstar | ⟨hzero, hlow⟩ | hone := haliases _ h p hp
  · rw [hstar]
    exact p.isField_star
  · have hmembers : Field.members "0" = [['0']] := rfl
    have hint : integer? ['0'] = some 0 := by decide
    rw [hzero]
    exact Position.isField_literal hmembers (by decide) hint (by omega)
  · have hmembers : Field.members "1" = [['1']] := rfl
    have hint : integer? ['1'] = some 1 := by decide
    rw [hone]
    refine Position.isField_literal hmembers (by decide) hint ?_
    cases p <;> decide

theorem exists_ofExpression_iff : (∃ r, Recurrence.ofExpression e = .ok r) ↔
    ∃ raw, Spells e raw ∧ ∀ p : Position, p.IsField (raw.get p) := by
  simp only [Recurrence.ofExpression_eq_ok_iff, ← Recurrence.exists_ofFields_iff]
  constructor
  · rintro ⟨r, raw, hraw, hr⟩
    exact ⟨raw, hraw, r, hr⟩
  · rintro ⟨raw, hraw, r, hr⟩
    exact ⟨r, raw, hraw, hr⟩

/-! ### Values -/

/-- How the values that a field admits are written: an asterisk for all values of the position, else
the values in ascending order, each once, and days of the week by name. -/
inductive Position.Lists (p : Position) (raw : String) : (text : String) → Prop
  | all : p.AdmitsAll raw → p.Lists raw "*"
  | some {values : List Nat} : ¬ p.AdmitsAll raw → values.Pairwise (· < ·) →
      (∀ v : Int, p.Admits raw v ↔ ∃ n ∈ values, (n : Int) = v) →
      p.Lists raw (",".intercalate (values.map p.word))

theorem ValueSet.length_eq_iff_admitsAll {p : Position} {raw : String} {set : ValueSet}
    (h : ValueSet.read p raw = .ok set) (ordered : set.Ordered p) :
    set.values.length = p.high - p.low + 1 ↔ p.AdmitsAll raw := by
  have hmem := ValueSet.mem_of_read h
  constructor
  · intro full v hlow hhigh
    exact (hmem v).mp (mem_of_full ordered full ⟨hlow, hhigh⟩)
  · intro hall
    have hperm : set.values.Perm (List.range' p.low (p.high - p.low + 1)) := by
      rw [List.perm_ext_iff_of_nodup (ordered.ascending.imp fun hlt => hlt.ne) List.nodup_range']
      intro v
      have := p.low_le_high
      rw [List.mem_range'_1]
      constructor
      · intro hv
        have := ordered.bounded v hv
        omega
      · intro hv
        exact (hmem v).mpr (hall v (by omega) (by omega))
    rw [hperm.length_eq, List.length_range']

theorem Recurrence.lists_pattern (h : Recurrence.ofFields raw = .ok r) (p : Position) :
    p.Lists (raw.get p) (r.patterns.get p) := by
  have hread := Recurrence.ofFields_eq_ok_iff.mp h p
  have hordered := Scheduler.ordered_of_ofFields h p
  rw [Recurrence.patterns, Fields.get_ofFn, ValueSet.pattern]
  split_ifs with hfull
  · exact .all ((ValueSet.length_eq_iff_admitsAll hread hordered).mp hfull)
  · have hsome := mt (ValueSet.length_eq_iff_admitsAll hread hordered).mpr hfull
    refine .some hsome hordered.ascending fun v => ?_
    exact (ValueSet.exists_mem_of_read_iff hread v).symm

/-- The scheduler accepts exactly the aliases, which blanks may follow, and the texts of five words
whose members are all well formed and within the bounds of their position. From an accepted
expression it makes the lists of the values that the five fields admit; one of the two day fields
is enough if neither has a wildcard among its members. -/
theorem validate_ok_iff_grammatical (e : String) :
    (calendarScheduler.validate e = .ok () ↔
      (e.toList.head? = some '@' ∧ ∃ a ∈ aliases, String.ofList (trim e.toList) = a.1) ∨
      (e.toList.head? ≠ some '@' ∧ ∃ raw : Fields String, wordsOf e = raw.toList ∧
        ∀ p : Position, p.IsField (raw.get p))) ∧
    (calendarScheduler.validate e = .ok () → ∃ raw r, Spells e raw ∧
      Recurrence.ofExpression e = .ok r ∧
      (∀ p : Position, p.Lists (raw.get p) (r.patterns.get p)) ∧
      (r.eitherDay = true ↔ Restricted raw.dayOfMonth ∧ Restricted raw.dayOfWeek)) := by
  rw [calendarScheduler_validate_eq_ok_iff]
  constructor
  · rw [exists_ofExpression_iff]
    constructor
    · rintro ⟨raw, ⟨hhead, hmem⟩ | ⟨hhead, hwords⟩, hfields⟩
      · exact Or.inl ⟨hhead, _, hmem, rfl⟩
      · exact Or.inr ⟨hhead, raw, hwords, hfields⟩
    · rintro (⟨hhead, ⟨name, raw⟩, hmem, htrim⟩ | ⟨hhead, raw, hwords, hfields⟩)
      · exact ⟨raw, .asAlias hhead (htrim ▸ hmem), isField_of_mem_aliases hmem⟩
      · exact ⟨raw, .asWords hhead hwords, hfields⟩
  · rintro ⟨r, hr⟩
    obtain ⟨raw, hspells, hraw⟩ := Recurrence.ofExpression_eq_ok_iff.mp hr
    exact ⟨raw, r, hspells, hr, Recurrence.lists_pattern hraw,
      Scheduler.eitherDay_iff hraw⟩

/-- An integer may be written with a sign, underscores and digits of any script. -/
example : calendarScheduler.validate "*/1_0 +٣ 1-31/2 Jan-mar mON,0" = .ok () := by decide

/-- Names of another field, reversed ranges and a second slash are refused. -/
example : (["0 0 * mon *", "0 0 5-1 * *", "0 0/2/3 * * *"].all fun e =>
    (calendarScheduler.validate e).isOk) = false := by decide

end CronLint
