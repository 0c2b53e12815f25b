import CronLint.Proofs.Failures
import CronLint.Proofs.FieldQueries
import CronLint.Proofs.Patterns

/-!
# Lists of lists

A comma joins two texts into a list of the members of both. So what is read from the whole comes
from what is read from the two sides, by the parser as by the scheduler: there is a failure if one
side has one, the left one first, and else the values are those of both sides. It does not matter
whether a side is empty or has commas of its own.
-/
namespace CronLint

section

variable {α β ε : Type} {join : α → α → α → Prop} {join' : β → β → β → Prop}
  {x y both : Except ε α} {x' y' both' : Except ε β}

/-- What is read from two texts together fails with the first failure of the two, and is otherwise
joined from what is read from each. -/
structure Composes (join : α → α → α → Prop) (x y both : Except ε α) : Prop where
  fails_iff : ∀ e, both = .error e ↔ x = .error e ∨ (∃ a, x = .ok a) ∧ y = .error e
  succeeds_iff : (∃ c, both = .ok c) ↔ (∃ a, x = .ok a) ∧ ∃ b, y = .ok b
  joins : ∀ a b c, x = .ok a → y = .ok b → both = .ok c → join a b c

theorem readAll_composes (f : α → Except ε β) (l r : List α) :
    Composes (fun a b c => c = a ++ b) (readAll f l) (readAll f r) (readAll f (l ++ r)) where
  fails_iff e := by
    have hpure (c : List β) : (pure c : Except ε (List β)) ≠ .error e := nofun
    simp only [readAll_append, bind_eq_error_iff, hpure, and_false, exists_false, or_false,
      exists_and_right]
  succeeds_iff := by
    simp only [readAll_append, bind_eq_ok_iff, pure_eq_ok_iff]
    constructor
    · rintro ⟨c, a, ha, b, hb, -⟩
      exact ⟨⟨a, ha⟩, b, hb⟩
    · rintro ⟨⟨a, ha⟩, b, hb⟩
      exact ⟨a ++ b, a, ha, b, hb, rfl⟩
  joins := by
    intro a b c ha hb hc
    rw [readAll_append, ha, hb] at hc
    exact (pure_eq_ok_iff.mp hc).symm

theorem exists_ok_iff_of_failures (h : ∀ e, x' = .error e ↔ x = .error e) :
    (∃ a, x' = .ok a) ↔ ∃ a, x = .ok a := by
  cases x with
  | error e => simp [(h e).mpr rfl]
  | ok a =>
    cases x' with
    | error e => simpa using h e
    | ok b => simp

theorem Composes.of_failures (h : Composes join x y both) (hx : ∀ e, x' = .error e ↔ x = .error e)
    (hy : ∀ e, y' = .error e ↔ y = .error e) (hboth : ∀ e, both' = .error e ↔ both = .error e)
    (joins : ∀ a b c, x' = .ok a → y' = .ok b → both' = .ok c → join' a b c) :
    Composes join' x' y' both' where
  fails_iff e := by
    rw [hboth, h.fails_iff, hx, hy, exists_ok_iff_of_failures hx]
  succeeds_iff := by
    rw [exists_ok_iff_of_failures hboth, h.succeeds_iff, exists_ok_iff_of_failures hx,
      exists_ok_iff_of_failures hy]
  joins := joins

end

namespace Field

/-- A comma ends a member, so that no member has parts of both texts. -/
theorem members_append (a b : String) : members (a ++ "," ++ b) = members a ++ members b := by
  have htext : (a ++ "," ++ b).toList = a.toList ++ ',' :: b.toList := by simp
  rw [members, htext, Text.segments_append_cons (by decide)]
  rfl

/-- A field has the parts of two others, one after the other, and the values of both in ascending
order. -/
structure IsJoin (f g joined : Field) : Prop where
  raw : joined.raw = f.raw ++ "," ++ g.raw
  parts : joined.parts = f.parts ++ g.parts
  low : joined.low = f.low ∧ joined.low = g.low
  high : joined.high = f.high ∧ joined.high = g.high
  ascending : joined.values.Pairwise (· < ·)
  mem_values : ∀ v, v ∈ joined.values ↔ v ∈ f.values ∨ v ∈ g.values

variable {symbols : Symbols} {raw a b : String} {low high : Int} {f g joined : Field}

theorem read_eq_error_iff {e : FieldFault} : Field.read symbols raw low high = .error e ↔
    readAll (Part.read symbols) (members raw) = .error e := by
  unfold Field.read
  split
  · next e' he => rw [he, Except.error.injEq, Except.error.injEq]
  · next parts hparts => simp [hparts]

theorem isJoin_of_read (hf : Field.read symbols a low high = .ok f)
    (hg : Field.read symbols b low high = .ok g)
    (hjoined : Field.read symbols (a ++ "," ++ b) low high = .ok joined) : IsJoin f g joined := by
  obtain ⟨hfparts, rfl, rfl, rfl⟩ := read_eq_ok_iff.mp hf
  obtain ⟨hgparts, rfl, hglow, hghigh⟩ := read_eq_ok_iff.mp hg
  obtain ⟨hparts, hraw, hlow, hhigh⟩ := read_eq_ok_iff.mp hjoined
  rw [members_append] at hparts
  have hsplit := (readAll_composes _ _ _).joins _ _ _ hfparts hgparts hparts
  refine ⟨hraw, hsplit, ⟨hlow, hlow.trans hglow.symm⟩, ⟨hhigh, hhigh.trans hghigh.symm⟩,
    joined.values_pairwise, ?_⟩
  · intro v
    simp only [mem_values, hsplit, hlow, hhigh, hglow, hghigh, List.mem_append, or_and_right,
      exists_or]

theorem read_composes (symbols : Symbols) (low high : Int) (a b : String) :
    Composes IsJoin (Field.read symbols a low high) (Field.read symbols b low high)
      (Field.read symbols (a ++ "," ++ b) low high) := by
  apply (readAll_composes (Part.read symbols) (members a) (members b)).of_failures
  · exact fun _ => read_eq_error_iff
  · exact fun _ => read_eq_error_iff
  · intro e
    rw [read_eq_error_iff, members_append]
  · exact fun _ _ _ => isJoin_of_read

end Field

namespace ValueSet

/-- A set has the values of two others, in ascending order, and leaves its position unrestricted if
one of the two does. The text written for it selects what their texts select. -/
structure IsUnion (p : Position) (s t union : ValueSet) : Prop where
  ascending : union.values.Pairwise (· < ·)
  mem_values : ∀ v, v ∈ union.values ↔ v ∈ s.values ∨ v ∈ t.values
  unrestricted : union.unrestricted = (s.unrestricted || t.unrestricted)
  selects_iff : ∀ v, p.low ≤ v ∧ v ≤ p.high →
    (p.Selects (union.pattern p) v ↔ p.Selects (s.pattern p) v ∨ p.Selects (t.pattern p) v)

variable {p : Position} {a b : String} {s t union : ValueSet}

theorem selects_iff_of_read {raw : String} {set : ValueSet} (h : ValueSet.read p raw = .ok set)
    {v : Nat} (hv : p.low ≤ v ∧ v ≤ p.high) : p.Selects (set.pattern p) v ↔ v ∈ set.values :=
  selects_pattern_iff (ordered_of_read h) (values_ne_nil_of_read h) hv

theorem isUnion_of_read (hs : ValueSet.read p a = .ok s) (ht : ValueSet.read p b = .ok t)
    (hunion : ValueSet.read p (a ++ "," ++ b) = .ok union) : IsUnion p s t union := by
  obtain ⟨xs, hxs, hsx⟩ := read_eq_ok_iff.mp hs
  obtain ⟨ys, hys, hty⟩ := read_eq_ok_iff.mp ht
  obtain ⟨zs, hzs, huz⟩ := read_eq_ok_iff.mp hunion
  rw [Field.members_append] at hzs
  have hsplit := (readAll_composes _ _ _).joins _ _ _ hxs hys hzs
  have hmem (v : Nat) : v ∈ union.values ↔ v ∈ s.values ∨ v ∈ t.values := by
    rw [← hsx, ← hty, ← huz, hsplit]
    simp only [mem_ofSpans, List.mem_append, or_and_right, exists_or, and_or_left]
  refine ⟨(ordered_of_read hunion).ascending, hmem, ?_, ?_⟩
  · rw [← hsx, ← hty, ← huz, hsplit]
    exact List.any_append
  · intro v hv
    rw [selects_iff_of_read hs hv, selects_iff_of_read ht hv, selects_iff_of_read hunion hv, hmem]

theorem read_composes (p : Position) (a b : String) :
    Composes (IsUnion p) (ValueSet.read p a) (ValueSet.read p b)
      (ValueSet.read p (a ++ "," ++ b)) := by
  apply (readAll_composes p.readSpan (Field.members a) (Field.members b)).of_failures
  · exact fun _ => map_eq_error_iff
  · exact fun _ => map_eq_error_iff
  · intro e
    rw [ValueSet.read, map_eq_error_iff, Field.members_append]
  · exact fun _ _ _ => isUnion_of_read

end ValueSet

/-- In any names and bounds, and in any position of the scheduler, a list of two texts is read as
the two texts are. -/
theorem comma_lists_compose (symbols : Symbols) (low high : Int) (p : Position) (a b : String) :
    Composes Field.IsJoin (Field.read symbols a low high) (Field.read symbols b low high)
      (Field.read symbols (a ++ "," ++ b) low high) ∧
    Composes (ValueSet.IsUnion p) (ValueSet.read p a) (ValueSet.read p b)
      (ValueSet.read p (a ++ "," ++ b)) :=
  ⟨Field.read_composes symbols low high a b, ValueSet.read_composes p a b⟩

/-- Of two faults the left one is reported, here the number out of bounds and not the empty text. -/
example : ValueSet.read .minute "60," = .error (.aboveMaximum 60 59 "60") ∧
    ValueSet.read .minute "," = .error (.notANumber "" .minute) := by decide

end CronLint
