import CronLint.Proofs.Literals
import CronLint.Text.LetterCase

/-!
# Cutting a text in upper case

Blanks, decimal digits and the signs of an expression have no case, and nothing else turns into one
of them. So it makes no difference whether a text is turned to upper case before or after it is cut.
Of the letters beyond ASCII, only the long s and the dotless i can turn into a part of a name.
-/
namespace CronLint.Text

/-- The code points of blanks, decimal digits and the signs that mean something in an expression. -/
def caselessRanges : List (Nat × Nat) :=
  [(0x9, 0xd), (0x1c, 0x20), (0x2a, 0x2d), (0x2f, 0x2f), (0x40, 0x40), (0x5f, 0x5f), (0x85, 0x85),
    (0xa0, 0xa0), (0x1680, 0x1680), (0x2000, 0x200a), (0x2028, 0x2029), (0x202f, 0x202f),
    (0x205f, 0x205f), (0x3000, 0x3000)] ++ digitZeros.map fun z => (z, z + 9)

def IsCaseless (c : Char) : Prop := inRanges caselessRanges c = true

instance : DecidablePred IsCaseless := fun _ => inferInstanceAs (Decidable (_ = _))

theorem isCaseless_iff {c : Char} :
    IsCaseless c ↔ ∃ r ∈ caselessRanges, r.1 ≤ c.toNat ∧ c.toNat ≤ r.2 := inRanges_iff

theorem isCaseless_of_isBlank {c : Char} (h : isBlank c = true) : IsCaseless c := by
  simp only [isBlank, Bool.or_eq_true, Bool.and_eq_true, decide_eq_true_eq, beq_iff_eq] at h
  rw [isCaseless_iff]
  rcases h with (((((((((h | h) | h) | h) | h) | h) | h) | h) | h) | h) | h
  · exact ⟨(0x9, 0xd), by decide, h⟩
  · exact ⟨(0x1c, 0x20), by decide, h⟩
  · exact ⟨(0x85, 0x85), by decide, h.ge, h.le⟩
  · exact ⟨(0xa0, 0xa0), by decide, h.ge, h.le⟩
  · exact ⟨(0x1680, 0x1680), by decide, h.ge, h.le⟩
  · exact ⟨(0x2000, 0x200a), by decide, h⟩
  · exact ⟨(0x2028, 0x2029), by decide, h.ge, h.le.trans (by decide)⟩
  · exact ⟨(0x2028, 0x2029), by decide, h.ge.trans' (by decide), h.le⟩
  · exact ⟨(0x202f, 0x202f), by decide, h.ge, h.le⟩
  · exact ⟨(0x205f, 0x205f), by decide, h.ge, h.le⟩
  · exact ⟨(0x3000, 0x3000), by decide, h.ge, h.le⟩

theorem isCaseless_of_isDecimal {c : Char} (h : isDecimal c = true) : IsCaseless c := by
  simp only [isDecimal, digitValue?, Option.isSome_map, List.find?_isSome, Bool.and_eq_true,
    decide_eq_true_eq] at h
  obtain ⟨z, hz, hc⟩ := h
  exact isCaseless_iff.mpr ⟨(z, z + 9), List.mem_append_right _ (List.mem_map_of_mem hz), hc⟩

theorem isCaseless_of_literal {c : Char} (h : IsLiteralChar c) : IsCaseless c := by
  rcases h with hblank | hdigit | rfl | rfl | rfl
  · simp only [isNumberBlank, Bool.and_eq_true] at hblank
    exact isCaseless_of_isBlank hblank.1
  · exact isCaseless_of_isDecimal hdigit
  · decide
  · decide
  · decide

theorem not_isCaseless_of_letter {c : Char} (h : IsAsciiLetter c) : ¬ IsCaseless c := by
  have hranges : ∀ r ∈ caselessRanges, r.2 < 65 ∨ (90 < r.1 ∧ r.2 < 97) ∨ 122 < r.1 := by decide
  rw [isAsciiLetter_iff] at h
  rw [isCaseless_iff]
  rintro ⟨r, hr, hlow, hhigh⟩
  have := hranges r hr
  omega

/-! ### The upper-case form of a character -/

theorem toNat_ofNat (n : Nat) : (Char.ofNat n).toNat = n ∨ (Char.ofNat n).toNat = 0 := by
  unfold Char.ofNat
  by_cases h : n.isValidChar
  · rw [dif_pos h]
    exact Or.inl rfl
  · rw [dif_neg h]
    exact Or.inr rfl

/-- The capital of an ASCII letter is an ASCII letter, and has the same small letter. -/
theorem upperChar_of_letter {c : Char} (h : IsAsciiLetter c) :
    ∃ d, upperChar c = [d] ∧ IsAsciiLetter d ∧ lowerAsciiChar d = lowerAsciiChar c ∧
      upperChar (lowerAsciiChar c) = [d] := by
  have hascii : ∀ n < 128, IsAsciiLetter (Char.ofNat n) →
      let d := (upperChar (Char.ofNat n)).headD ' '
      upperChar (Char.ofNat n) = [d] ∧ IsAsciiLetter d ∧
        lowerAsciiChar d = lowerAsciiChar (Char.ofNat n) ∧
        upperChar (lowerAsciiChar (Char.ofNat n)) = [d] := by
    decide
  refine letter_induction h fun n hn hletter => ?_
  exact ⟨_, hascii n hn hletter⟩

/-- A character turns into an ASCII capital, stays as it is, expands, or is shifted. -/
theorem upperChar_cases (c : Char) :
    (isAsciiLower c = true ∧ upperChar c = [Char.ofNat (c.toNat - 32)]) ∨
    upperChar c = [c] ∨
    (∃ codes, (c.toNat, codes) ∈ capitalExpansions ∧ upperChar c = codes.map Char.ofNat) ∨
    (∃ r ∈ capitalRuns, (r.first ≤ c.toNat ∧ c.toNat ≤ r.last) ∧
      upperChar c = [Char.ofNat (c.toNat + r.shift).toNat]) := by
  unfold upperChar
  split_ifs with hlower hascii
  · exact Or.inl ⟨hlower, rfl⟩
  · exact Or.inr (Or.inl rfl)
  · split
    · next codes hcodes =>
      obtain ⟨before, after, heq, -⟩ := List.lookup_eq_some_iff.mp hcodes
      exact Or.inr (Or.inr (Or.inl ⟨codes, heq ▸ by simp, rfl⟩))
    · unfold capital
      split
      · next r hr =>
        have hbounds := List.find?_some hr
        simp only [Bool.and_eq_true, decide_eq_true_eq] at hbounds
        exact Or.inr (Or.inr (Or.inr ⟨r, List.mem_of_find?_eq_some hr, hbounds.1, rfl⟩))
      · exact Or.inr (Or.inl rfl)

theorem upperChar_ne_nil (c : Char) : upperChar c ≠ [] := by
  have hcodes : ∀ e ∈ capitalExpansions, e.2 ≠ [] := by decide
  obtain ⟨-, h⟩ | h | ⟨codes, hmem, h⟩ | ⟨r, -, -, h⟩ := upperChar_cases c
  · simp [h]
  · simp [h]
  · rw [h]
    simpa using hcodes _ hmem
  · simp [h]

theorem capitalRuns_caseless {r : CaseRun} (hr : r ∈ capitalRuns) {s : Nat × Nat}
    (hs : s ∈ caselessRanges) : (r.last < s.1 ∨ s.2 < r.first) ∧
      ((r.last + r.shift).toNat < s.1 ∨ s.2 < (r.first + r.shift).toNat) := by
  have hall : (capitalRuns.all fun r => caselessRanges.all fun s =>
      (Nat.blt r.last s.1 || Nat.blt s.2 r.first) &&
        (Nat.blt (r.last + r.shift).toNat s.1 || Nat.blt s.2 (r.first + r.shift).toNat)) =
      true := by
    decide +kernel
  simp only [List.all_eq_true, Bool.and_eq_true, Bool.or_eq_true, Nat.blt_eq] at hall
  exact hall r hr s hs

theorem capitalExpansions_caseless : ∀ e ∈ capitalExpansions,
    ¬ IsCaseless (Char.ofNat e.1) ∧ ∀ code ∈ e.2, ¬ IsCaseless (Char.ofNat code) := by
  decide +kernel

theorem upperChar_of_caseless {c : Char} (h : IsCaseless c) : upperChar c = [c] := by
  obtain ⟨hlower, -⟩ | hsame | ⟨codes, hmem, -⟩ | ⟨r, hr, hbounds, -⟩ := upperChar_cases c
  · exact absurd h (not_isCaseless_of_letter (Or.inl hlower))
  · exact hsame
  · have := (capitalExpansions_caseless _ hmem).1
    rw [Char.ofNat_toNat] at this
    exact absurd h this
  · obtain ⟨s, hs, hc⟩ := isCaseless_iff.mp h
    have := (capitalRuns_caseless hr hs).1
    omega

theorem isCaseless_of_mem_upperChar {c d : Char} (hd : d ∈ upperChar c) (h : IsCaseless d) :
    IsCaseless c := by
  obtain ⟨hlower, -⟩ | heq | ⟨codes, hmem, heq⟩ | ⟨r, hr, hbounds, heq⟩ := upperChar_cases c
  · obtain ⟨capital, hcapital, hletter, -⟩ := upperChar_of_letter (Or.inl hlower)
    rw [hcapital, List.mem_singleton] at hd
    exact absurd (hd ▸ h) (not_isCaseless_of_letter hletter)
  · rw [heq, List.mem_singleton] at hd
    exact hd ▸ h
  · rw [heq, List.mem_map] at hd
    obtain ⟨code, hcode, rfl⟩ := hd
    exact absurd h ((capitalExpansions_caseless _ hmem).2 code hcode)
  · rw [heq, List.mem_singleton] at hd
    obtain ⟨s, hs, hc⟩ := isCaseless_iff.mp h
    have hpositive : ∀ s ∈ caselessRanges, 0 < s.1 := by decide
    have := hpositive s hs
    have := (capitalRuns_caseless hr hs).2
    rcases toNat_ofNat (c.toNat + r.shift).toNat with hcode | hcode
    · rw [hd, hcode] at hc
      omega
    · rw [hd, hcode] at hc
      omega

/-! ### Cutting -/

variable {cs : List Char}

theorem upper_cons (c : Char) (cs : List Char) : upper (c :: cs) = upperChar c ++ upper cs :=
  List.flatMap_cons

theorem mem_upper_iff {c : Char} (h : IsCaseless c) : c ∈ upper cs ↔ c ∈ cs := by
  rw [upper, List.mem_flatMap]
  constructor
  · rintro ⟨d, hd, hc⟩
    rw [upperChar_of_caseless (isCaseless_of_mem_upperChar hc h), List.mem_singleton] at hc
    exact hc ▸ hd
  · intro hc
    exact ⟨c, hc, by rw [upperChar_of_caseless h, List.mem_singleton]⟩

theorem upper_of_caseless (h : ∀ c ∈ cs, IsCaseless c) : upper cs = cs := by
  induction cs with
  | nil => rfl
  | cons c cs ih =>
    obtain ⟨hc, hcs⟩ := List.forall_mem_cons.mp h
    rw [upper_cons, upperChar_of_caseless hc, ih hcs, List.singleton_append]

/-- A text whose upper-case form has no letters is in upper case already. -/
theorem upper_eq_self (h : ∀ c ∈ upper cs, IsCaseless c) : upper cs = cs := by
  refine upper_of_caseless fun c hc => ?_
  obtain ⟨d, hd⟩ := List.exists_mem_of_ne_nil _ (upperChar_ne_nil c)
  exact isCaseless_of_mem_upperChar hd (h d (List.mem_flatMap.mpr ⟨c, hc, hd⟩))

theorem upper_eq_nil_iff : upper cs = [] ↔ cs = [] := by
  cases cs with
  | nil => simp [upper]
  | cons c cs => simp [upper_cons, upperChar_ne_nil]

theorem breakOn_upper {sep : Char} (h : IsCaseless sep) (cs : List Char) :
    breakOn sep (upper cs) = (upper (breakOn sep cs).1, (breakOn sep cs).2.map upper) := by
  refine breakOn_changed (fun _ => mem_upper_iff h) (fun a b => ?_) cs
  rw [upper_append, upper_cons, upperChar_of_caseless h, List.singleton_append]

variable {p : Char → Bool}

theorem segments_upper (h : ∀ c, p c = true → IsCaseless c) (cs : List Char) :
    segments p (upper cs) = (segments p cs).map upper := by
  induction cs with
  | nil => rfl
  | cons c cs ih =>
    rw [upper_cons]
    by_cases hc : p c = true
    · rw [upperChar_of_caseless (h c hc), List.singleton_append, segments, segments, if_pos hc,
        if_pos hc, ih]
      rfl
    · obtain ⟨s, rest, hs⟩ := List.exists_cons_of_ne_nil (segments_ne_nil p cs)
      have hkept : ∀ d ∈ upperChar c, p d = false := by
        intro d hd
        by_contra hsep
        have hd' := h d (by simpa using hsep)
        have hcaseless := isCaseless_of_mem_upperChar hd hd'
        rw [upperChar_of_caseless hcaseless, List.mem_singleton] at hd
        exact hc (by rw [← hd]; simpa using hsep)
      rw [hs, List.map_cons] at ih
      rw [segments_append hkept ih, segments, if_neg hc, hs]
      simp [upper_cons]

theorem words_upper (cs : List Char) : words (upper cs) = (words cs).map upper := by
  have hempty (w : List Char) : (upper w).isEmpty = w.isEmpty := by
    rw [Bool.eq_iff_iff, List.isEmpty_iff, List.isEmpty_iff, upper_eq_nil_iff]
  rw [words, words, segments_upper fun c => isCaseless_of_isBlank, List.filter_map]
  congr 2
  funext w
  simp only [Function.comp_apply, hempty]

theorem mem_segments {c : Char} (hc : c ∈ cs) : p c = true ∨ ∃ s ∈ segments p cs, c ∈ s := by
  induction cs with
  | nil => cases hc
  | cons d cs ih =>
    obtain ⟨s, rest, hs⟩ := List.exists_cons_of_ne_nil (segments_ne_nil p cs)
    by_cases hd : p d = true
    · rw [segments, if_pos hd]
      rcases List.mem_cons.mp hc with rfl | hc
      · exact Or.inl hd
      · refine (ih hc).imp_right ?_
        rintro ⟨t, ht, hct⟩
        exact ⟨t, List.mem_cons_of_mem _ ht, hct⟩
    · rw [segments, if_neg hd, hs]
      rcases List.mem_cons.mp hc with rfl | hc
      · exact Or.inr ⟨c :: s, List.mem_cons_self, List.mem_cons_self⟩
      · refine (ih hc).imp_right ?_
        rintro ⟨t, ht, hct⟩
        rw [hs] at ht
        rcases List.mem_cons.mp ht with rfl | ht
        · exact ⟨d :: t, List.mem_cons_self, List.mem_cons_of_mem _ hct⟩
        · exact ⟨t, List.mem_cons_of_mem _ ht, hct⟩

/-- Every character of a text is a blank or belongs to a word. -/
theorem isBlank_or_mem_words {c : Char} (hc : c ∈ cs) :
    isBlank c = true ∨ ∃ w ∈ words cs, c ∈ w := by
  refine (mem_segments hc).imp_right ?_
  rintro ⟨w, hw, hcw⟩
  exact ⟨w, List.mem_filter.mpr ⟨hw, by simpa using List.ne_nil_of_mem hcw⟩, hcw⟩

theorem subset_of_mem_segments {s : List Char} (hs : s ∈ segments p cs) : s ⊆ cs := by
  induction cs generalizing s with
  | nil => rwa [segments, List.mem_singleton, ← List.subset_nil] at hs
  | cons d cs ih =>
    obtain ⟨t, rest, ht⟩ := List.exists_cons_of_ne_nil (segments_ne_nil p cs)
    rw [ht] at ih
    by_cases hd : p d = true
    · rw [segments, if_pos hd, ht] at hs
      rcases List.mem_cons.mp hs with rfl | hs
      · exact List.nil_subset _
      · exact List.subset_cons_of_subset d (ih hs)
    · rw [segments, if_neg hd, ht] at hs
      rcases List.mem_cons.mp hs with rfl | hs
      · exact List.cons_subset_cons d (ih List.mem_cons_self)
      · exact List.subset_cons_of_subset d (ih (List.mem_cons_of_mem _ hs))

/-! ### Names -/

/-- The letters beyond ASCII whose capital is an ASCII letter. -/
def IsStrayLetter (c : Char) : Prop := c = 'ſ' ∨ c = 'ı'

instance : DecidablePred IsStrayLetter := fun _ => inferInstanceAs (Decidable (_ ∨ _))

/-- Whether a text has no stray letter. -/
def IsPlain (cs : List Char) : Prop := ∀ c ∈ cs, ¬ IsStrayLetter c

instance : DecidablePred IsPlain := fun cs =>
  decidable_of_iff (cs.all (fun c => !decide (IsStrayLetter c)) = true) (by simp [IsPlain])

theorem isPlain_append {a b : List Char} : IsPlain (a ++ b) ↔ IsPlain a ∧ IsPlain b :=
  List.forall_mem_append

theorem isPlain_cons {c : Char} : IsPlain (c :: cs) ↔ ¬ IsStrayLetter c ∧ IsPlain cs :=
  List.forall_mem_cons

theorem IsPlain.subset {a b : List Char} (h : IsPlain b) (hab : a ⊆ b) : IsPlain a :=
  fun c hc => h c (hab hc)

theorem capitalRuns_stray : ∀ r ∈ capitalRuns, 122 < (r.first + r.shift).toNat ∨
    (r.first = r.last ∧ IsStrayLetter (Char.ofNat r.first)) := by
  decide +kernel

theorem lowerAscii_upper (h : ∀ c ∈ cs, IsAsciiLetter c) :
    lowerAscii (upper cs) = lowerAscii cs := by
  induction cs with
  | nil => rfl
  | cons c cs ih =>
    obtain ⟨hc, hcs⟩ := List.forall_mem_cons.mp h
    obtain ⟨d, hd, -, hlower, -⟩ := upperChar_of_letter hc
    rw [upper_cons, hd, List.singleton_append, lowerAscii, List.map_cons, hlower]
    exact congrArg _ (ih hcs)

theorem upper_lowerAscii (h : ∀ c ∈ cs, IsAsciiLetter c) :
    upper (lowerAscii cs) = upper cs := by
  induction cs with
  | nil => rfl
  | cons c cs ih =>
    obtain ⟨hc, hcs⟩ := List.forall_mem_cons.mp h
    obtain ⟨d, hd, -, -, hlower⟩ := upperChar_of_letter hc
    rw [lowerAscii, List.map_cons, upper_cons, upper_cons, hd, hlower]
    exact congrArg _ (ih hcs)

end CronLint.Text

namespace CronLint.Position

open Text

theorem names_expansions (p : Position) : ∀ entry ∈ p.names, ∀ e ∈ capitalExpansions,
    ¬ lowerAscii (e.2.map Char.ofNat) <:+: entry.1.toList := by
  cases p <;> decide +kernel

/-- What turns into a name in upper case has ASCII letters or stray ones. -/
theorem letters_of_upper {p : Position} {text : List Char} {name : String} {n : Nat}
    (hname : (name, n) ∈ p.names) (hlower : lowerAscii (upper text) = name.toList) {c : Char}
    (hc : c ∈ text) : IsAsciiLetter c ∨ IsStrayLetter c := by
  have hinfix : lowerAscii (upperChar c) <:+: name.toList := by
    obtain ⟨before, after, rfl⟩ := List.append_of_mem hc
    refine ⟨lowerAscii (upper before), lowerAscii (upper after), ?_⟩
    rw [← hlower, upper_append, upper_cons]
    simp [lowerAscii]
  have hletter : ∀ d ∈ upperChar c, IsAsciiLetter d := by
    intro d hd
    have hmem := hinfix.subset (List.mem_map_of_mem hd)
    have hsmall := (p.names_letters _ hname).2 _ hmem
    exact isAsciiLetter_of_lowered hsmall.1 hsmall.2
  obtain ⟨hsmall, -⟩ | heq | ⟨codes, hmem, heq⟩ | ⟨r, hr, hbounds, heq⟩ := upperChar_cases c
  · exact Or.inl (Or.inl hsmall)
  · exact Or.inl (hletter c (by rw [heq, List.mem_singleton]))
  · rw [heq] at hinfix
    exact absurd hinfix (p.names_expansions _ hname _ hmem)
  · have hd := isAsciiLetter_iff.mp (hletter _ (by rw [heq, List.mem_singleton]))
    rcases capitalRuns_stray r hr with hfar | ⟨hsingle, hstray⟩
    · have := toNat_ofNat (c.toNat + r.shift).toNat
      omega
    · obtain rfl : c = Char.ofNat r.first := by
        rw [show r.first = c.toNat by omega, Char.ofNat_toNat]
      exact Or.inr hstray

end CronLint.Position
