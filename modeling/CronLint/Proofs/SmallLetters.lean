import CronLint.Proofs.Failures
import CronLint.Proofs.Spelling

/-!
# Reading in small letters

Small ASCII letters in place of capitals change nothing about what an expression is read as: the
values stay the same, and so does the kind of what is wrong. The messages quote the text as it was
written.
-/
namespace CronLint

/-! ### Texts -/

namespace Text

variable {c d : Char} {cs : List Char}

def small (cs : List Char) : List Char := cs.map Char.toLower

theorem toLower_of_letter (h : IsAsciiLetter c) :
    IsAsciiLetter c.toLower ∧ upperChar c.toLower = upperChar c ∧
      lowerAsciiChar c.toLower = lowerAsciiChar c := by
  have hascii : ∀ n < 128, IsAsciiLetter (Char.ofNat n) →
      IsAsciiLetter (Char.ofNat n).toLower ∧
      upperChar (Char.ofNat n).toLower = upperChar (Char.ofNat n) ∧
      lowerAsciiChar (Char.ofNat n).toLower = lowerAsciiChar (Char.ofNat n) := by
    decide
  exact letter_induction h hascii

theorem toLower_of_not_letter (h : ¬ IsAsciiLetter c) : c.toLower = c := by
  have hrange : ¬ (c.val ≥ 'A'.val ∧ c.val ≤ 'Z'.val) := by
    rintro ⟨hlow, hhigh⟩
    exact h (Or.inr (by simpa [isAsciiUpper, Char.le_def] using ⟨hlow, hhigh⟩))
  exact dif_neg hrange

/-- What is not a letter comes from nothing else. -/
theorem toLower_eq_iff (hd : ¬ IsAsciiLetter d) : c.toLower = d ↔ c = d := by
  by_cases hc : IsAsciiLetter c
  · constructor
    · rintro rfl
      exact absurd (toLower_of_letter hc).1 hd
    · rintro rfl
      exact absurd hc hd
  · rw [toLower_of_not_letter hc]

theorem upper_small (cs : List Char) : upper (small cs) = upper cs := by
  rw [upper, small, List.flatMap_map, upper]
  refine List.flatMap_congr fun c _ => ?_
  by_cases hc : IsAsciiLetter c
  · exact (toLower_of_letter hc).2.1
  · rw [toLower_of_not_letter hc]

theorem lowerAscii_small (cs : List Char) : lowerAscii (small cs) = lowerAscii cs := by
  rw [lowerAscii, small, List.map_map, lowerAscii]
  refine List.map_congr_left fun c _ => ?_
  by_cases hc : IsAsciiLetter c
  · exact (toLower_of_letter hc).2.2
  · rw [Function.comp_apply, toLower_of_not_letter hc]

theorem mem_small_iff (hc : ¬ IsAsciiLetter c) : c ∈ small cs ↔ c ∈ cs := by
  simp only [small, List.mem_map, toLower_eq_iff hc, exists_eq_right]

theorem contains_small (hc : ¬ IsAsciiLetter c) (cs : List Char) :
    (small cs).contains c = cs.contains c := by
  rw [Bool.eq_iff_iff, List.contains_iff_mem, List.contains_iff_mem, mem_small_iff hc]

theorem small_of_not_letters (h : ∀ c ∈ cs, ¬ IsAsciiLetter c) : small cs = cs := by
  have hsame : ∀ c ∈ cs, c.toLower = id c := fun c hc => toLower_of_not_letter (h c hc)
  rw [small, List.map_congr_left hsame, List.map_id]

theorem breakOn_small {sep : Char} (hsep : ¬ IsAsciiLetter sep) (cs : List Char) :
    breakOn sep (small cs) = (small (breakOn sep cs).1, (breakOn sep cs).2.map small) := by
  refine breakOn_changed (fun _ => mem_small_iff hsep) (fun a b => ?_) cs
  rw [small, List.map_append, List.map_cons, toLower_of_not_letter hsep]
  rfl

theorem segments_small {p : Char → Bool} (hp : ∀ c, p c.toLower = p c) (cs : List Char) :
    segments p (small cs) = (segments p cs).map small := by
  induction cs with
  | nil => rfl
  | cons c cs ih =>
    obtain ⟨s, rest, hs⟩ := List.exists_cons_of_ne_nil (segments_ne_nil p cs)
    have hsmall : small (c :: cs) = c.toLower :: small cs := rfl
    rw [hsmall, segments, segments, hp, ih, hs]
    split_ifs <;> rfl

theorem integer?_small (cs : List Char) : integer? (small cs) = integer? cs := by
  apply integer?_changed
  · intro cs h
    refine small_of_not_letters fun c hc hletter => ?_
    exact not_isLiteralChar_of_letter hletter (h c hc)
  · intro cs h
    refine small_of_not_letters fun c hc hletter => ?_
    exact not_isLiteralChar_of_letter (toLower_of_letter hletter).1 (h _ (List.mem_map_of_mem hc))

theorem small_eq_star_iff : small cs = ['*'] ↔ cs = ['*'] := by
  constructor
  · intro h
    have hstar := upper_small cs
    rw [h] at hstar
    exact upper_eq_star_iff.mp hstar.symm
  · rintro rfl
    rfl

theorem toList_toLower (s : String) : s.toLower.toList = small s.toList := String.toList_map

end Text

open Text

theorem upperText_toLower (s : String) : upperText s.toLower = upperText s := by
  rw [upperText, toList_toLower, upper_small, upperText]

theorem Field.members_toLower (raw : String) :
    Field.members raw.toLower = (Field.members raw).map small := by
  rw [Field.members, toList_toLower]
  apply segments_small
  intro c
  rw [Bool.eq_iff_iff, beq_iff_eq, beq_iff_eq]
  exact toLower_eq_iff (by decide)

/-! ### Members and fields -/

namespace Position

variable (p : Position) (member member' : List Char)

theorem readValue_small (text : List Char) :
    (p.readValue (small text)).mapError GrammarFault.kind =
      (p.readValue text).mapError GrammarFault.kind := by
  unfold readValue
  rw [lowerAscii_small, integer?_small]
  cases p.names.lookup (String.ofList (lowerAscii text)) with
  | some v => rfl
  | none => cases integer? text <;> rfl

theorem readEnds_small (base : List Char) :
    (p.readEnds member' (small base)).mapError GrammarFault.kind =
      (p.readEnds member base).mapError GrammarFault.kind := by
  unfold readEnds
  by_cases hstar : base = ['*']
  · rw [if_pos hstar, if_pos (small_eq_star_iff.mpr hstar)]
  · rw [if_neg hstar, if_neg (mt small_eq_star_iff.mp hstar), breakOn_small (by decide)]
    cases breakOn '-' base with
    | mk first rest =>
      cases rest with
      | none => simp only [Option.map_none, mapError_bind, readValue_small]
      | some last =>
        simp only [Option.map_some, contains_small (show ¬ IsAsciiLetter '-' by decide)]
        split_ifs
        · rfl
        · simp only [mapError_bind, readValue_small]

theorem readStep_small (stepText : Option (List Char)) :
    (readStep member' (stepText.map small)).mapError GrammarFault.kind =
      (readStep member stepText).mapError GrammarFault.kind := by
  cases stepText with
  | none => rfl
  | some text =>
    simp only [Option.map_some, readStep, integer?_small]
    cases integer? text with
    | none => rfl
    | some step =>
      dsimp only
      split_ifs <;> rfl

theorem kind_spanBetween (first last step : Int) (star : Bool) :
    (p.spanBetween member' first last step star).mapError GrammarFault.kind =
      (p.spanBetween member first last step star).mapError GrammarFault.kind := by
  unfold spanBetween
  split_ifs <;> rfl

theorem readSpan_small :
    (p.readSpan (small member)).mapError GrammarFault.kind =
      (p.readSpan member).mapError GrammarFault.kind := by
  unfold readSpan
  rw [breakOn_small (by decide)]
  cases breakOn '/' member with
  | mk base stepText =>
    have hmore : ((stepText.map small).getD []).contains '/' = (stepText.getD []).contains '/' := by
      cases stepText with
      | none => rfl
      | some text =>
        rw [Option.map_some, Option.getD_some, Option.getD_some, contains_small (by decide)]
    have hstar : (small base == ['*']) = (base == ['*']) := by
      rw [Bool.eq_iff_iff, beq_iff_eq, beq_iff_eq, small_eq_star_iff]
    simp only [hmore, hstar, Option.isSome_map]
    split_ifs
    · rfl
    · simp only [mapError_bind, readEnds_small p member (small member),
        readStep_small member (small member), kind_spanBetween p member (small member)]

end Position

theorem ValueSet.read_toLower (p : Position) (raw : String) :
    (ValueSet.read p raw.toLower).mapError GrammarFault.kind =
      (ValueSet.read p raw).mapError GrammarFault.kind := by
  simp only [ValueSet.read, mapError_map, readAll_mapError, Field.members_toLower, readAll_map,
    Position.readSpan_small]

/-! ### Expressions -/

variable {raw raw' : Fields String} {e e' : String}

theorem Recurrence.ofFields_respelled (h : ∀ p, (raw.get p).toLower = (raw'.get p).toLower) :
    (Recurrence.ofFields raw).mapError GrammarFault.kind =
      (Recurrence.ofFields raw').mapError GrammarFault.kind := by
  simp only [Recurrence.ofFields, mapError_map, Fields.traverse_mapError]
  congr 1
  refine Fields.traverse_congr fun p => ?_
  rw [← ValueSet.read_toLower, h, ValueSet.read_toLower]

/-- The two texts have the same words but for the case of ASCII letters, and neither starts like an
alias. -/
structure Respelled (e e' : String) : Prop where
  left : e.toList.head? ≠ some '@'
  right : e'.toList.head? ≠ some '@'
  words : (wordsOf e).map String.toLower = (wordsOf e').map String.toLower

theorem wordsOf_toLower (e : String) :
    (wordsOf e).map String.toLower = ((words e.toList).map small).map String.ofList := by
  rw [wordsOf, List.map_map, List.map_map]
  refine List.map_congr_left fun w _ => ?_
  rw [Function.comp_apply, ← String.toList_inj, toList_toLower, String.toList_ofList,
    Function.comp_apply, String.toList_ofList]

theorem respelled_of_small (left : e.toList.head? ≠ some '@') (right : e'.toList.head? ≠ some '@')
    (h : (words e.toList).map small = (words e'.toList).map small) : Respelled e e' :=
  ⟨left, right, by rw [wordsOf_toLower, wordsOf_toLower, h]⟩

theorem Respelled.length_eq (h : Respelled e e') : (wordsOf e).length = (wordsOf e').length := by
  rw [← List.length_map (f := String.toLower), h.words, List.length_map]

theorem Respelled.wordsOf_upperText (h : Respelled e e') :
    wordsOf (upperText e) = wordsOf (upperText e') := by
  have hupper (e : String) :
      (wordsOf e).map upperText = ((wordsOf e).map String.toLower).map upperText := by
    rw [List.map_map]
    exact List.map_congr_left fun w _ => (upperText_toLower w).symm
  rw [CronLint.wordsOf_upperText, CronLint.wordsOf_upperText, hupper, h.words, ← hupper]

theorem splitExpression_of_fieldCount (hhead : e.toList.head? ≠ some '@')
    (h : (wordsOf e).length ≠ 5) : splitExpression e = .error (.fieldCount (wordsOf e)) := by
  have hnone : Fields.ofList? (wordsOf e) = none := by
    rwa [← Option.not_isSome_iff_eq_none, Fields.ofList?_isSome_iff]
  rw [splitExpression, if_neg hhead]
  simp only [hnone]

theorem Respelled.exists_fields (h : Respelled e e') (hfive : (wordsOf e).length = 5) :
    ∃ raw raw', splitExpression e = .ok raw ∧ splitExpression e' = .ok raw' ∧
      ∀ p : Position, (raw.get p).toLower = (raw'.get p).toLower := by
  obtain ⟨lowered, hlowered⟩ :
      ∃ lowered, Fields.ofList? ((wordsOf e).map String.toLower) = some lowered := by
    rw [← Option.isSome_iff_exists, Fields.ofList?_isSome_iff, List.length_map, hfive]
  obtain ⟨raw, hraw, hget⟩ := Fields.ofList?_map_eq_some_iff.mp hlowered
  rw [h.words] at hlowered
  obtain ⟨raw', hraw', hget'⟩ := Fields.ofList?_map_eq_some_iff.mp hlowered
  exact ⟨raw, raw', (splitExpression_eq_ok_iff h.left).mpr hraw,
    (splitExpression_eq_ok_iff h.right).mpr hraw', fun p => (hget p).symm.trans (hget' p)⟩

/-- Both have the same recurrence, or none for the same kind of reason. -/
theorem Respelled.ofExpression (h : Respelled e e') :
    (Recurrence.ofExpression e).mapError GrammarFault.kind =
      (Recurrence.ofExpression e').mapError GrammarFault.kind := by
  by_cases hfive : (wordsOf e).length = 5
  · obtain ⟨raw, raw', hraw, hraw', hsame⟩ := h.exists_fields hfive
    rw [Recurrence.ofExpression, hraw, Recurrence.ofExpression, hraw']
    exact Recurrence.ofFields_respelled hsame
  · have hfive' : (wordsOf e').length ≠ 5 := h.length_eq ▸ hfive
    rw [Recurrence.ofExpression, splitExpression_of_fieldCount h.left hfive,
      Recurrence.ofExpression, splitExpression_of_fieldCount h.right hfive']
    rfl

end CronLint
