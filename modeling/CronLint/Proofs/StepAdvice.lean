import CronLint.Proofs.UnitSteps

/-!
# Following the advice on steps of one

The advice rewrites word by word, and a schedule is found to have a step of one by its fields in
upper case. Both look for the same words, so the advice changes an accepted expression exactly if
the finding is made, and what it gives is accepted and gives no such finding again.
-/
namespace CronLint

open Text

variable {e w : String}

/-! ### Words -/

theorem endsInUnitStep_simplifyField (w : String) :
    endsInUnitStep (simplifyField w).toList = false := by
  unfold simplifyField
  split_ifs with hends
  · rfl
  · simpa using hends

theorem simplifyField_eq_self_iff : simplifyField w = w ↔ endsInUnitStep w.toList = false := by
  constructor
  · intro heq
    rw [← heq]
    exact endsInUnitStep_simplifyField w
  · intro hends
    rw [simplifyField, hends]
    rfl

/-! ### Expressions -/

theorem withoutUnitSteps_of_length_ne (h : (wordsOf e).length ≠ 5) : withoutUnitSteps e = e := by
  rw [wordsOf, List.length_map] at h
  exact if_neg h

theorem length_wordsOf_withoutUnitSteps (e : String) :
    (wordsOf (withoutUnitSteps e)).length = (wordsOf e).length := by
  by_cases h : (wordsOf e).length = 5
  · rw [wordsOf_withoutUnitSteps h, List.length_map]
  · rw [withoutUnitSteps_of_length_ne h]

/-- The advice has something to say about an expression of five words one of which ends in a step of
one. -/
def NeedsAdvice (e : String) : Prop :=
  (wordsOf e).length = 5 ∧ ∃ w ∈ wordsOf e, endsInUnitStep w.toList = true

theorem wordsOf_withoutUnitSteps_eq_iff :
    wordsOf (withoutUnitSteps e) = wordsOf e ↔ ¬ NeedsAdvice e := by
  have hself : (wordsOf e).map simplifyField = wordsOf e ↔
      ∀ w ∈ wordsOf e, endsInUnitStep w.toList = false := by
    simp only [← simplifyField_eq_self_iff]
    conv_lhs => rhs; rw [← List.map_id (wordsOf e)]
    exact List.map_inj_left
  unfold NeedsAdvice
  by_cases h : (wordsOf e).length = 5
  · rw [wordsOf_withoutUnitSteps h, hself]
    simp [h]
  · simp [withoutUnitSteps_of_length_ne h, h]

theorem not_needsAdvice_withoutUnitSteps (e : String) : ¬ NeedsAdvice (withoutUnitSteps e) := by
  intro h
  obtain ⟨hlength, w, hw, hends⟩ := h
  rw [length_wordsOf_withoutUnitSteps] at hlength
  rw [wordsOf_withoutUnitSteps hlength] at hw
  obtain ⟨word, -, rfl⟩ := List.mem_map.mp hw
  rw [endsInUnitStep_simplifyField] at hends
  cases hends

theorem withoutUnitSteps_eq (h : (wordsOf e).length = 5) :
    withoutUnitSteps e = spaced (wordsOf (withoutUnitSteps e)) := by
  rw [wordsOf_withoutUnitSteps h]
  exact withoutUnitSteps_eq_spaced h

/-- The advice on the advice is to leave it as it is. -/
theorem withoutUnitSteps_withoutUnitSteps (e : String) :
    withoutUnitSteps (withoutUnitSteps e) = withoutUnitSteps e := by
  have hlength := length_wordsOf_withoutUnitSteps e
  by_cases h : (wordsOf e).length = 5
  · calc withoutUnitSteps (withoutUnitSteps e)
      _ = spaced (wordsOf (withoutUnitSteps (withoutUnitSteps e))) :=
        withoutUnitSteps_eq (hlength.trans h)
      _ = spaced (wordsOf (withoutUnitSteps e)) := by
        rw [wordsOf_withoutUnitSteps_eq_iff.mpr (not_needsAdvice_withoutUnitSteps e)]
      _ = withoutUnitSteps e := (withoutUnitSteps_eq h).symm
  · apply withoutUnitSteps_of_length_ne
    rw [hlength]
    exact h

/-! ### Findings -/

section

variable {s : Schedule}

/-- An alias is one word, and stands for fields without a step. -/
theorem alias_spec {fields : Fields String} (h : (e, fields) ∈ aliases) :
    (wordsOf e).length = 1 ∧ ∀ p, endsInUnitStep (fields.get p).toList = false := by
  have haliases : ∀ a ∈ aliases, (wordsOf a.1).length = 1 ∧
      ∀ field ∈ a.2.toList, endsInUnitStep field.toList = false := by
    decide
  obtain ⟨hlength, hfields⟩ := haliases _ h
  exact ⟨hlength, fun p => hfields _ (Fields.mem_toList_iff.mpr ⟨p, rfl⟩)⟩

/-- The finding is made exactly if there is something to advise. -/
theorem Parser.hasUnitStep_iff (accepted : ({} : Parser).parse e = .ok s) :
    s.hasUnitStep = true ↔ NeedsAdvice e := by
  obtain ⟨request, r, hrequest, -, hfields⟩ := Parser.recurrence_of_parse accepted
  rw [Schedule.hasUnitStep_iff hfields, NeedsAdvice]
  obtain ⟨-, halias⟩ | ⟨hhead, -, -⟩ := Request.ofExpression_cases hrequest
  · obtain ⟨hlength, hends⟩ := alias_spec halias
    simp [hlength, hends]
  · have hwords := (Request.words_of_fiveFields hrequest hhead).2
    constructor
    · intro h
      obtain ⟨p, hends⟩ := h
      have hmem : request.fields.get p ∈ (wordsOf e).map upperText := by
        rw [hwords]
        exact Fields.mem_toList_iff.mpr ⟨p, rfl⟩
      obtain ⟨w, hw, heq⟩ := List.mem_map.mp hmem
      refine ⟨Request.length_of_fiveFields hrequest hhead, w, hw, ?_⟩
      rw [← endsInUnitStep_upperText, heq, hends]
    · intro h
      obtain ⟨-, w, hw, hends⟩ := h
      have hmem : upperText w ∈ request.fields.toList := by
        rw [← hwords]
        exact List.mem_map_of_mem hw
      obtain ⟨p, heq⟩ := Fields.mem_toList_iff.mp hmem
      exact ⟨p, by rw [heq, endsInUnitStep_upperText, hends]⟩

theorem Parser.exists_parse_advice (accepted : ({} : Parser).parse e = .ok s) :
    ∃ s', ({} : Parser).parse (withoutUnitSteps e) = .ok s' := by
  obtain ⟨request, r, hrequest, hr, hfields⟩ := Parser.recurrence_of_parse accepted
  obtain ⟨-, halias⟩ | ⟨hhead, -, -⟩ := Request.ofExpression_cases hrequest
  · rw [withoutUnitSteps_of_length_ne (by rw [(alias_spec halias).1]; decide)]
    exact ⟨s, accepted⟩
  · exact Parser.exists_parse_withoutUnitSteps hrequest hhead hr hfields

end

/-- An accepted expression is found to have a step of one if and only if the advice on it has other
words. The advice is accepted in its turn, nothing of the kind is found in it, and the advice on it
is to leave it alone. -/
theorem withoutUnitSteps_settles {s : Schedule} (accepted : ({} : Parser).parse e = .ok s) :
    (s.hasUnitStep = true ↔ wordsOf (withoutUnitSteps e) ≠ wordsOf e) ∧
      (∃ s', ({} : Parser).parse (withoutUnitSteps e) = .ok s' ∧ s'.hasUnitStep = false) ∧
      withoutUnitSteps (withoutUnitSteps e) = withoutUnitSteps e := by
  obtain ⟨s', hs'⟩ := Parser.exists_parse_advice accepted
  refine ⟨?_, ⟨s', hs', ?_⟩, withoutUnitSteps_withoutUnitSteps e⟩
  · rw [Parser.hasUnitStep_iff accepted, Ne, wordsOf_withoutUnitSteps_eq_iff, not_not]
  · rw [← Bool.not_eq_true, Parser.hasUnitStep_iff hs']
    exact not_needsAdvice_withoutUnitSteps e

/-- Small letters and wide spaces, and a list that ends in a step of one. -/
theorem withoutUnitSteps_settles_wideSpaces :
    (∃ s, ({} : Parser).parse " 0,30/1  9-17/1 *\tjan mon-fri" = .ok s ∧ s.hasUnitStep = true) ∧
      ∃ s', ({} : Parser).parse "* * * jan mon-fri" = .ok s' ∧ s'.hasUnitStep = false := by
  obtain ⟨s, hs⟩ : ∃ s, ({} : Parser).parse " 0,30/1  9-17/1 *\tjan mon-fri" = .ok s :=
    exists_of_isOk (by decide)
  obtain ⟨hfound, hadvice, -⟩ := withoutUnitSteps_settles hs
  have hadvised : withoutUnitSteps " 0,30/1  9-17/1 *\tjan mon-fri" = "* * * jan mon-fri" := by
    decide
  rw [hadvised] at hfound hadvice
  exact ⟨⟨s, hs, hfound.mpr (by decide)⟩, hadvice⟩

end CronLint
