import CronLint.Recurrence.Span
import Mathlib.Data.List.TakeWhile
import Mathlib.Tactic

/-!
# The characters of values

A value is written as an integer literal or as a name. Neither can hold a comma, a slash or an
asterisk, so the separators of a field never fall inside a value, and no name is a literal.
-/
namespace CronLint

namespace Text

/-- The text breaks only at a separator, and no earlier than at the first one. -/
theorem breakOn_eq_none_iff {sep : Char} {cs a : List Char} :
    breakOn sep cs = (a, none) ↔ a = cs ∧ sep ∉ cs := by
  constructor
  · intro h
    by_cases hsep : sep ∈ cs
    · obtain ⟨b, c, rfl, hb⟩ := List.eq_append_cons_of_mem hsep
      rw [breakOn_append_cons hb] at h
      simp at h
    · rw [breakOn_of_notMem hsep, Prod.mk.injEq] at h
      exact ⟨h.1.symm, hsep⟩
  · rintro ⟨rfl, h⟩
    exact breakOn_of_notMem h

theorem breakOn_eq_some_iff {sep : Char} {cs a b : List Char} :
    breakOn sep cs = (a, some b) ↔ cs = a ++ sep :: b ∧ sep ∉ a := by
  constructor
  · intro h
    by_cases hsep : sep ∈ cs
    · obtain ⟨a', b', rfl, ha⟩ := List.eq_append_cons_of_mem hsep
      rw [breakOn_append_cons ha, Prod.mk.injEq, Option.some.injEq] at h
      obtain ⟨rfl, rfl⟩ := h
      exact ⟨rfl, ha⟩
    · rw [breakOn_of_notMem hsep] at h
      simp at h
  · rintro ⟨rfl, h⟩
    exact breakOn_append_cons h b

/-- A change of texts that leaves the separator alone does not move the break. -/
theorem breakOn_changed {sep : Char} {f : List Char → List Char}
    (hmem : ∀ cs, sep ∈ f cs ↔ sep ∈ cs) (hsplit : ∀ a b, f (a ++ sep :: b) = f a ++ sep :: f b)
    (cs : List Char) :
    breakOn sep (f cs) = (f (breakOn sep cs).1, (breakOn sep cs).2.map f) := by
  cases hbreak : breakOn sep cs with
  | mk a rest =>
    cases rest with
    | none =>
      obtain ⟨rfl, hsep⟩ := breakOn_eq_none_iff.mp hbreak
      exact breakOn_of_notMem (mt (hmem _).mp hsep)
    | some b =>
      obtain ⟨rfl, hsep⟩ := breakOn_eq_some_iff.mp hbreak
      rw [hsplit]
      exact breakOn_append_cons (mt (hmem a).mp hsep) (f b)

theorem append_cons_inj {sep : Char} {a a' b b' : List Char} (ha : sep ∉ a) (ha' : sep ∉ a')
    (h : a ++ sep :: b = a' ++ sep :: b') : a = a' ∧ b = b' := by
  have hbreak := breakOn_append_cons ha b
  rw [h, breakOn_append_cons ha' b', Prod.mk.injEq, Option.some.injEq] at hbreak
  exact ⟨hbreak.1.symm, hbreak.2.symm⟩

/-- Text without separators goes to the first stretch. -/
theorem segments_append {p : Char → Bool} {cs a s : List Char} {rest : List (List Char)}
    (ha : ∀ c ∈ a, p c = false) (hs : segments p cs = s :: rest) :
    segments p (a ++ cs) = (a ++ s) :: rest := by
  induction a with
  | nil => exact hs
  | cons c a ih =>
    obtain ⟨hc, ha⟩ := List.forall_mem_cons.mp ha
    rw [List.cons_append, segments, hc, ih ha]
    rfl

theorem segments_intercalate {p : Char → Bool} {sep : Char} {texts : List (List Char)}
    (hsep : p sep = true) (htexts : ∀ text ∈ texts, ∀ c ∈ text, p c = false) (hne : texts ≠ []) :
    segments p ([sep].intercalate texts) = texts := by
  have hwhole {text : List Char} (h : ∀ c ∈ text, p c = false) : segments p text = [text] := by
    simpa using segments_append h (show segments p [] = [] :: [] from rfl)
  induction texts with
  | nil => exact absurd rfl hne
  | cons text texts ih =>
    obtain ⟨htext, htexts⟩ := List.forall_mem_cons.mp htexts
    cases texts with
    | nil => simpa using hwhole htext
    | cons next rest =>
      have hjoin : [sep].intercalate (text :: next :: rest) =
          text ++ sep :: [sep].intercalate (next :: rest) := by
        simp
      rw [hjoin, segments_append_cons hsep, hwhole htext, ih htexts (by simp)]
      rfl

/-- The characters that an integer literal can be made of. -/
def IsLiteralChar (c : Char) : Prop :=
  isNumberBlank c = true ∨ isDecimal c = true ∨ c = '_' ∨ c = '-' ∨ c = '+'

instance : DecidablePred IsLiteralChar := fun _ => inferInstanceAs (Decidable (_ ∨ _))

theorem isNumberBlank_of_trimmed {cs : List Char} {c : Char} (h : c ∈ cs) :
    c ∈ trimNumber cs ∨ isNumberBlank c = true := by
  have hstart : c ∈ cs.takeWhile isNumberBlank ∨ c ∈ cs.dropWhile isNumberBlank := by
    rw [← List.mem_append, List.takeWhile_append_dropWhile]
    exact h
  rcases hstart with hblank | hrest
  · exact Or.inr (List.mem_takeWhile_imp hblank)
  · have hend : c ∈ (cs.dropWhile isNumberBlank).reverse.takeWhile isNumberBlank ∨
        c ∈ (cs.dropWhile isNumberBlank).reverse.dropWhile isNumberBlank := by
      rw [← List.mem_append, List.takeWhile_append_dropWhile, List.mem_reverse]
      exact hrest
    rcases hend with hblank | hkept
    · exact Or.inr (List.mem_takeWhile_imp hblank)
    · exact Or.inl (List.mem_reverse.mpr hkept)

theorem mem_readSign {cs : List Char} {c : Char} (h : c ∈ cs) :
    c = '-' ∨ c = '+' ∨ c ∈ (readSign cs).2 := by
  unfold readSign
  split
  · rcases List.mem_cons.mp h with rfl | h
    · exact Or.inl rfl
    · exact Or.inr (Or.inr h)
  · rcases List.mem_cons.mp h with rfl | h
    · exact Or.inr (Or.inl rfl)
    · exact Or.inr (Or.inr h)
  · exact Or.inr (Or.inr h)

/-- A literal consists of the digits that follow its sign. -/
theorem takeWhile_of_integer? {cs : List Char} {v : Int} (h : integer? cs = some v) :
    (readSign (trimNumber cs)).2.takeWhile (fun c => isDecimal c || c == '_') =
      (readSign (trimNumber cs)).2 := by
  simp only [integer?, readInteger] at h
  split at h
  · simp [Except.toOption] at h
  · split_ifs at h with hlong hlength
    · simp [Except.toOption] at h
    · exact (List.takeWhile_prefix _).eq_of_length hlength
    · simp [Except.toOption] at h

theorem isLiteralChar_of_integer? {cs : List Char} {v : Int} (h : integer? cs = some v) {c : Char}
    (hc : c ∈ cs) : IsLiteralChar c := by
  rcases isNumberBlank_of_trimmed hc with hkept | hblank
  · rcases mem_readSign hkept with rfl | rfl | hbody
    · exact Or.inr (Or.inr (Or.inr (Or.inl rfl)))
    · exact Or.inr (Or.inr (Or.inr (Or.inr rfl)))
    · rw [← takeWhile_of_integer? h] at hbody
      have hdigit := List.mem_takeWhile_imp hbody
      simp only [Bool.or_eq_true, beq_iff_eq] at hdigit
      rcases hdigit with hdigit | rfl
      · exact Or.inr (Or.inl hdigit)
      · exact Or.inr (Or.inr (Or.inl rfl))
  · exact Or.inl hblank

/-- A change of texts that leaves the characters of literals alone, and makes none, leaves integers
alone. -/
theorem integer?_changed {f : List Char → List Char}
    (hkept : ∀ cs, (∀ c ∈ cs, IsLiteralChar c) → f cs = cs)
    (hmade : ∀ cs, (∀ c ∈ f cs, IsLiteralChar c) → f cs = cs) (cs : List Char) :
    integer? (f cs) = integer? cs := by
  cases h : integer? cs with
  | some v => rw [hkept cs fun c => isLiteralChar_of_integer? h, h]
  | none =>
    cases h' : integer? (f cs) with
    | none => rfl
    | some v =>
      rw [hmade cs fun c => isLiteralChar_of_integer? h', h] at h'
      cases h'

theorem isDecimal_range {c : Char} (h : isDecimal c = true) :
    (48 ≤ c.toNat ∧ c.toNat ≤ 57) ∨ 0x660 ≤ c.toNat := by
  simp only [isDecimal, digitValue?, Option.isSome_map, List.find?_isSome, Bool.and_eq_true,
    decide_eq_true_eq] at h
  obtain ⟨z, hz, hlow, hhigh⟩ := h
  have hzeros : ∀ z ∈ digitZeros, z = 48 ∨ 0x660 ≤ z := by decide
  rcases hzeros z hz with rfl | hz
  · exact Or.inl ⟨hlow, hhigh⟩
  · exact Or.inr (hz.trans hlow)

def IsAsciiLetter (c : Char) : Prop := isAsciiLower c = true ∨ isAsciiUpper c = true

instance : DecidablePred IsAsciiLetter := fun _ => inferInstanceAs (Decidable (_ ∨ _))

theorem isAsciiLetter_iff {c : Char} :
    IsAsciiLetter c ↔ (97 ≤ c.toNat ∧ c.toNat ≤ 122) ∨ (65 ≤ c.toNat ∧ c.toNat ≤ 90) := by
  simp only [IsAsciiLetter, isAsciiLower, isAsciiUpper, Bool.and_eq_true, decide_eq_true_eq,
    Char.le_def, UInt32.le_iff_toNat_le]
  rfl

/-- What holds of the letters among the first 128 characters holds of all ASCII letters. -/
@[elab_as_elim]
theorem letter_induction {P : Char → Prop} {c : Char} (hc : IsAsciiLetter c)
    (h : ∀ n < 128, IsAsciiLetter (Char.ofNat n) → P (Char.ofNat n)) : P c := by
  have hbound : c.toNat < 128 := by
    rw [isAsciiLetter_iff] at hc
    omega
  have hn := h c.toNat hbound
  rw [Char.ofNat_toNat] at hn
  exact hn hc

theorem not_isLiteralChar_of_letter {c : Char} (h : IsAsciiLetter c) : ¬ IsLiteralChar c := by
  rw [isAsciiLetter_iff] at h
  rintro (hblank | hdigit | rfl | rfl | rfl)
  · simp only [isNumberBlank, isBlank, Bool.and_eq_true, Bool.or_eq_true, decide_eq_true_eq,
      beq_iff_eq] at hblank
    omega
  · have := isDecimal_range hdigit
    omega
  · simp at h
  · simp at h
  · simp at h

/-- A capital or the Kelvin sign aside, lowering changes nothing. -/
theorem isAsciiLetter_of_lowered {c : Char} (h : isAsciiLower (lowerAsciiChar c) = true)
    (hk : lowerAsciiChar c ≠ 'k') : IsAsciiLetter c := by
  unfold lowerAsciiChar at h hk
  split_ifs at h hk with hupper hkelvin
  · exact Or.inr hupper
  · exact absurd rfl hk
  · exact Or.inl h

end Text

namespace Position

open Text

/-- The names of a position consist of small letters, of which the letter k is none. -/
theorem names_letters (p : Position) :
    ∀ entry ∈ p.names, entry.1.toList ≠ [] ∧
      ∀ c ∈ entry.1.toList, isAsciiLower c = true ∧ c ≠ 'k' := by
  have hnames : ∀ entry ∈ p.names, entry.1.toList ≠ [] ∧
      entry.1.toList.all (fun c => isAsciiLower c && c != 'k') = true := by
    cases p <;> decide
  intro entry hentry
  obtain ⟨hne, hall⟩ := hnames entry hentry
  refine ⟨hne, fun c hc => ?_⟩
  have := List.all_eq_true.mp hall c hc
  simpa using this

theorem names_lookup (p : Position) :
    ∀ entry ∈ p.names, p.names.lookup entry.1 = some entry.2 := by
  cases p <;> decide

end Position

end CronLint
