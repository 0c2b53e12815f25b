import CronLint.Proofs.Acceptance
import CronLint.Proofs.MemoRuns

/-!
# Verdicts of the parser

What becomes of an expression depends on whether it is empty, starts like an alias or has five
words, and on the scheduler's verdict on these words in upper case. The scheduler goes first, and
its grammar is the stricter one: whatever it accepts can be read field by field.
-/
namespace CronLint

open Text

/-! ### Kinds of rejections -/

namespace Position

variable {p : Position} {text base member : List Char} {first last step : Int} {star : Bool}
  {fault : GrammarFault}

theorem kind_of_readValue (h : p.readValue text = .error fault) : fault.kind = .grammar := by
  unfold readValue at h
  split at h
  · cases h
  · split at h
    · cases h
    · cases h
      rfl

theorem kind_of_readEnds (h : p.readEnds member base = .error fault) : fault.kind = .grammar := by
  unfold readEnds at h
  split_ifs at h
  · cases h
  · split at h
    · obtain hvalue | ⟨_, -, hpure⟩ := bind_eq_error_iff.mp h
      · exact kind_of_readValue hvalue
      · cases hpure
    · split_ifs at h
      · cases h
        rfl
      · obtain hfirst | ⟨_, -, h⟩ := bind_eq_error_iff.mp h
        · exact kind_of_readValue hfirst
        · obtain hlast | ⟨_, -, hpure⟩ := bind_eq_error_iff.mp h
          · exact kind_of_readValue hlast
          · cases hpure

theorem kind_of_readStep {stepText : Option (List Char)}
    (h : readStep member stepText = .error fault) : fault.kind = .grammar := by
  unfold readStep at h
  split at h
  · cases h
  · split at h
    · cases h
      rfl
    · split_ifs at h
      cases h
      rfl

/-- The bounds are compared before the ends with one another. -/
theorem kind_of_spanBetween (h : p.spanBetween member first last step star = .error fault) :
    fault.kind = if first < p.low ∨ p.high < last then .outOfRange else .grammar := by
  unfold spanBetween at h
  split_ifs at h with hlow hhigh hreversed
  · cases h
    rw [if_pos (Or.inl hlow)]
    rfl
  · cases h
    rw [if_pos (Or.inr hhigh)]
    rfl
  · cases h
    rw [if_neg (not_or.mpr ⟨hlow, hhigh⟩)]
    rfl

theorem kind_of_readSpan (h : p.readSpan member = .error fault) :
    fault.kind = .outOfRange ∨ fault.kind = .grammar := by
  unfold readSpan at h
  split at h
  split_ifs at h
  · cases h
    exact Or.inr rfl
  · obtain hends | ⟨_, -, h⟩ := bind_eq_error_iff.mp h
    · exact Or.inr (kind_of_readEnds hends)
    · obtain hstep | ⟨_, -, hspan⟩ := bind_eq_error_iff.mp h
      · exact Or.inr (kind_of_readStep hstep)
      · rw [kind_of_spanBetween hspan]
        exact ite_eq_or_eq _ _ _

end Position

theorem Recurrence.kind_of_ofFields {raw : Fields String} {fault : GrammarFault}
    (h : Recurrence.ofFields raw = .error fault) :
    fault.kind = .outOfRange ∨ fault.kind = .grammar := by
  obtain ⟨_, p, _, -, -, hset⟩ := Fields.traverse_eq_error_iff.mp (map_eq_error_iff.mp h)
  obtain ⟨_, member, _, -, -, hspan⟩ := readAll_eq_error_iff.mp (map_eq_error_iff.mp hset)
  exact Position.kind_of_readSpan hspan

/-! ### The second reading -/

theorem Field.exists_read_iff {s : Symbols} {raw : String} {low high : Int} :
    (∃ f, Field.read s raw low high = .ok f) ↔
      ∃ parts, readAll (Part.read s) (Field.members raw) = .ok parts := by
  constructor
  · rintro ⟨f, hf⟩
    exact ⟨f.parts, (Field.read_eq_ok_iff.mp hf).1⟩
  · rintro ⟨parts, hparts⟩
    unfold Field.read
    split
    · next fault hfault => cases hparts.symm.trans hfault
    · exact ⟨_, rfl⟩

theorem exists_readFields {raw : Fields String} {r : Recurrence}
    (h : Recurrence.ofFields raw = .ok r) :
    ∃ fields, ({} : Parser).readFields raw = .ok fields := by
  apply Fields.exists_traverse
  intro p
  have hset := Recurrence.ofFields_eq_ok_iff.mp h p
  rw [Field.exists_read_iff, exists_readAll_iff]
  intro member hmember
  obtain ⟨first, last, step, hstretch⟩ := ValueSet.stretch_of_read hset hmember
  have hbounds := ValueSet.bounds_of_read hset hmember hstretch
  obtain ⟨part, hpart, -⟩ := Position.read_of_stretch hstretch hbounds.2
  exact ⟨part, hpart⟩

/-! ### Expressions -/

/-- The scheduler is asked about five words in upper case and rejects them. -/
structure Rejects (e : String) (r : Rejection) : Prop where
  words : e.toList.head? ≠ some '@'
  five : (wordsOf e).length = 5
  verdict : calendarScheduler.validate (upperText e) = .error r

/-- What is wrong with an expression: the kind and the message of the error. -/
inductive Refused (e : String) : (kind : ErrorKind) → (message : String) → Prop
  | empty : e = "" → Refused e .empty "empty expression"
  | unknownAlias : e.toList.head? = some '@' → e ∉ aliases.map Prod.fst →
      Refused e .unknownAlias ("unrecognized alias: " ++ e)
  | fieldCount : e ≠ "" → e.toList.head? ≠ some '@' → (wordsOf e).length ≠ 5 →
      Refused e .fieldCount ("expected 5 fields, got " ++ toString (wordsOf e).length)
  | outOfRange {r : Rejection} : Rejects e r → r.kind = .outOfRange →
      Refused e .outOfRange ("value out of range: " ++ r.message)
  | grammar {r : Rejection} : Rejects e r → r.kind = .grammar →
      Refused e .grammar ("failed to parse expression: " ++ r.message)

/-- The five fields that are read from an expression: those of an alias that is written exactly, or
the words in upper case. -/
def Splits (e : String) (raw : Fields String) : Prop :=
  (e, raw) ∈ aliases ∨ e.toList.head? ≠ some '@' ∧ wordsOf (upperText e) = raw.toList

variable {e : String} {raw : Fields String} {request : Request} {rejection : Rejection}
  {k : ErrorKind} {message : String}

theorem ParseError.message_of_outOfRange (h : rejection.kind = .outOfRange) :
    (ParseError.rejected rejection).message = "value out of range: " ++ rejection.message := by
  cases rejection
  cases h
  rfl

theorem ParseError.message_of_grammar (h : rejection.kind = .grammar) :
    (ParseError.rejected rejection).message =
      "failed to parse expression: " ++ rejection.message := by
  cases rejection
  cases h
  rfl

theorem Request.ofExpression_of_unknownAlias (hhead : e.toList.head? = some '@')
    (h : e ∉ aliases.map Prod.fst) : Request.ofExpression e = .error (.unknownAlias e) := by
  have hnonempty : ¬ e.isEmpty = true := by
    rw [String.isEmpty_iff]
    rintro rfl
    cases hhead
  have hunknown : aliasFields? e = none := by
    rw [Option.eq_none_iff_forall_ne_some]
    intro raw hraw
    exact h (List.mem_map_of_mem (aliasFields?_eq_some_iff.mp hraw))
  rw [Request.ofExpression, if_neg hnonempty, if_pos hhead, hunknown]

theorem Request.ofExpression_of_fieldCount (hne : e ≠ "") (hhead : e.toList.head? ≠ some '@')
    (h : (wordsOf e).length ≠ 5) :
    Request.ofExpression e = .error (.fieldCount (wordsOf e).length) := by
  have hlength : (wordsOf (upperText e)).length = (wordsOf e).length := by
    rw [wordsOf_upperText, List.length_map]
  have hwords : Fields.ofList? (wordsOf (upperText e)) = none := by
    rw [← Option.not_isSome_iff_eq_none, Fields.ofList?_isSome_iff, hlength]
    exact h
  rw [Request.ofExpression_eq hne hhead, hwords, hlength]

theorem Request.ofExpression_of_splits (h : Splits e raw) :
    ∃ request, Request.ofExpression e = .ok request ∧ request.fields = raw := by
  have haliases : ∀ a ∈ aliases, Request.ofExpression a.1 = .ok ⟨a.1, a.2⟩ := by decide
  obtain hmem | ⟨hhead, hwords⟩ := h
  · exact ⟨_, haliases _ hmem, rfl⟩
  · exact ⟨_, Request.ofExpression_of_words hhead (Fields.ofList?_eq_some_iff.mpr hwords), rfl⟩

theorem exists_upperFields (hfive : (wordsOf e).length = 5) :
    ∃ raw, Fields.ofList? (wordsOf (upperText e)) = some raw := by
  rw [← Option.isSome_iff_exists, Fields.ofList?_isSome_iff, wordsOf_upperText, List.length_map,
    hfive]

namespace Parser

theorem parse_of_requestError {fault : ParseError} (h : Request.ofExpression e = .error fault) :
    ({} : Parser).parse e = .error fault := by
  rw [parse, h]
  rfl

theorem parse_of_rejects (h : Rejects e rejection) :
    ({} : Parser).parse e = .error (.rejected rejection) := by
  obtain ⟨raw, hraw⟩ := exists_upperFields h.five
  rw [parse, Request.ofExpression_of_words h.words hraw]
  simp only [Except.bind, answer, h.verdict]

theorem parse_of_refused (h : Refused e k message) :
    ∃ fault, ({} : Parser).parse e = .error fault ∧ (fault.kind = k ∧ fault.message = message) ∧
      ∀ f, fault ≠ .unreadable f := by
  cases h with
  | empty hempty =>
    exact ⟨_, parse_empty _ (String.isEmpty_iff.mpr hempty), ⟨rfl, rfl⟩, by simp⟩
  | unknownAlias hhead halias =>
    have hrequest := Request.ofExpression_of_unknownAlias hhead halias
    exact ⟨_, parse_of_requestError hrequest, ⟨rfl, rfl⟩, by simp⟩
  | fieldCount hne hhead hlength =>
    have hrequest := Request.ofExpression_of_fieldCount hne hhead hlength
    exact ⟨_, parse_of_requestError hrequest, ⟨rfl, rfl⟩, by simp⟩
  | outOfRange hrejects hkind =>
    have hmessage := ParseError.message_of_outOfRange hkind
    exact ⟨_, parse_of_rejects hrejects, ⟨hkind, hmessage⟩, by simp⟩
  | grammar hrejects hkind =>
    have hmessage := ParseError.message_of_grammar hkind
    exact ⟨_, parse_of_rejects hrejects, ⟨hkind, hmessage⟩, by simp⟩

theorem parse_of_recurrence {r : Recurrence} (hsplits : Splits e raw)
    (hr : Recurrence.ofFields raw = .ok r) :
    ∃ s, ({} : Parser).parse e = .ok s ∧ s.original = e ∧
      s.fields.toList.map Field.raw = raw.toList := by
  obtain ⟨request, hrequest, rfl⟩ := Request.ofExpression_of_splits hsplits
  obtain ⟨fields, hfields⟩ := exists_readFields hr
  have hvalid : calendarScheduler.validate request.text = .ok () :=
    calendarScheduler_validate_eq_ok_iff.mpr ⟨r, (ofExpression_text hrequest).trans hr⟩
  have hraw (p : Position) : request.fields.get p = (fields.get p).raw :=
    (Field.read_eq_ok_iff.mp (Fields.traverse_eq_ok_iff.mp hfields p)).2.1.symm
  have hraws : fields.toList.map Field.raw = request.fields.toList :=
    Fields.ofList?_eq_some_iff.mp (Fields.ofList?_map_eq_some_iff.mpr ⟨fields, rfl, hraw⟩)
  exact ⟨⟨e, fields⟩, parse_eq_ok_iff.mpr ⟨request, hrequest, hvalid, hfields, rfl⟩, rfl, hraws⟩

end Parser

/-- What the scheduler rejects, it rejects for one of its fields. -/
theorem Rejects.kind_eq (h : Rejects e rejection) :
    rejection.kind = .outOfRange ∨ rejection.kind = .grammar := by
  obtain ⟨raw, hraw⟩ := exists_upperFields h.five
  have hrequest := Request.ofExpression_of_words h.words hraw
  have hverdict := h.verdict
  simp only [calendarScheduler, ofExpression_text hrequest] at hverdict
  cases hr : Recurrence.ofFields raw with
  | ok r => simp [hr, Except.map, Except.mapError] at hverdict
  | error fault =>
    simp only [hr, Except.map, Except.mapError, Except.error.injEq] at hverdict
    rw [← hverdict]
    exact Recurrence.kind_of_ofFields hr

theorem Rejects.refused (h : Rejects e rejection) : ∃ kind message, Refused e kind message := by
  obtain hkind | hkind := h.kind_eq
  · exact ⟨_, _, .outOfRange h hkind⟩
  · exact ⟨_, _, .grammar h hkind⟩

/-- Something is wrong with an expression, or it has a recurrence. -/
theorem refused_or_recurrence (e : String) :
    (∃ kind message, Refused e kind message) ∨
      ∃ raw r, Splits e raw ∧ Recurrence.ofFields raw = .ok r := by
  by_cases hempty : e = ""
  · exact Or.inl ⟨_, _, .empty hempty⟩
  by_cases hhead : e.toList.head? = some '@'
  · by_cases halias : e ∈ aliases.map Prod.fst
    · obtain ⟨⟨name, raw⟩, hmem, rfl⟩ := List.mem_map.mp halias
      obtain ⟨r, hr⟩ := Recurrence.exists_ofFields_iff.mpr (isField_of_mem_aliases hmem)
      exact Or.inr ⟨raw, r, Or.inl hmem, hr⟩
    · exact Or.inl ⟨_, _, .unknownAlias hhead halias⟩
  · by_cases hfive : (wordsOf e).length = 5
    · cases hvalidate : calendarScheduler.validate (upperText e) with
      | error r => exact Or.inl (Rejects.refused ⟨hhead, hfive, hvalidate⟩)
      | ok _ =>
        obtain ⟨raw, hraw⟩ := exists_upperFields hfive
        obtain ⟨r, hr⟩ := calendarScheduler_validate_eq_ok_iff.mp hvalidate
        rw [ofExpression_text (Request.ofExpression_of_words hhead hraw)] at hr
        exact Or.inr ⟨raw, r, Or.inr ⟨hhead, Fields.ofList?_eq_some_iff.mp hraw⟩, hr⟩
    · exact Or.inl ⟨_, _, .fieldCount hempty hhead hfive⟩

theorem Refused.parse_ne_ok (h : Refused e k message) (s : Schedule) :
    ({} : Parser).parse e ≠ .ok s := by
  obtain ⟨fault, hfault, -⟩ := Parser.parse_of_refused h
  rw [hfault]
  simp

theorem exists_parse_iff :
    (∃ s, ({} : Parser).parse e = .ok s) ↔ ∀ k message, ¬ Refused e k message := by
  constructor
  · rintro ⟨s, hs⟩ k message hrefused
    exact hrefused.parse_ne_ok s hs
  · intro hnone
    obtain ⟨k, message, hrefused⟩ | ⟨raw, r, hsplits, hr⟩ := refused_or_recurrence e
    · exact absurd hrefused (hnone k message)
    · obtain ⟨s, hs, -⟩ := Parser.parse_of_recurrence hsplits hr
      exact ⟨s, hs⟩

/-- Whatever is reported is wrong with the expression, and does not come from reading the fields. -/
theorem refused_of_parse {fault : ParseError} (h : ({} : Parser).parse e = .error fault) :
    Refused e fault.kind fault.message ∧ ∀ f, fault ≠ .unreadable f := by
  obtain ⟨k, message, hrefused⟩ | ⟨raw, r, hsplits, hr⟩ := refused_or_recurrence e
  · obtain ⟨fault', hfault', ⟨rfl, rfl⟩, hreadable⟩ := Parser.parse_of_refused hrefused
    cases h.symm.trans hfault'
    exact ⟨hrefused, hreadable⟩
  · obtain ⟨s, hs, -⟩ := Parser.parse_of_recurrence hsplits hr
    cases h.symm.trans hs

theorem splits_of_parse {s : Schedule} (h : ({} : Parser).parse e = .ok s) :
    s.original = e ∧ ∃ raw, Splits e raw ∧ s.fields.toList.map Field.raw = raw.toList := by
  obtain ⟨k, message, hrefused⟩ | ⟨raw, r, hsplits, hr⟩ := refused_or_recurrence e
  · exact absurd h (hrefused.parse_ne_ok s)
  · obtain ⟨s', hs', horiginal, hraw⟩ := Parser.parse_of_recurrence hsplits hr
    cases h.symm.trans hs'
    exact ⟨horiginal, raw, hsplits, hraw⟩

/-- The outcome of parsing an expression whose schedule is not remembered. It fails if and only if
something is wrong with the expression, with the kind and the message of that; there are two kinds
of rejections. Reading the fields never fails. On success the schedule has the expression itself
and, in upper case, the fields that it consists of. -/
theorem parseWith_outcome (e : String) {memo : Memo} (forgotten : memo.get? e = none) :
    let result := (({} : Parser).parseWith memo e).result
    (∀ k message, (∃ fault, result = .error fault ∧ fault.kind = k ∧ fault.message = message) ↔
      Refused e k message) ∧
    (∀ r, Rejects e r → r.kind = .outOfRange ∨ r.kind = .grammar) ∧
    ((∃ s, result = .ok s) ↔ ∀ k message, ¬ Refused e k message) ∧
    (∀ fault, result ≠ .error (.unreadable fault)) ∧
    ∀ s, result = .ok s → s.original = e ∧
      ∃ raw, Splits e raw ∧ s.fields.toList.map Field.raw = raw.toList := by
  have hresult : (({} : Parser).parseWith memo e).result = ({} : Parser).parse e := by
    rw [Parser.parseWith_of_forgotten forgotten]
  rw [hresult]
  refine ⟨?_, fun r => Rejects.kind_eq, exists_parse_iff, ?_, fun s => splits_of_parse⟩
  · intro k message
    constructor
    · rintro ⟨fault, hfault, rfl, rfl⟩
      exact (refused_of_parse hfault).1
    · intro hrefused
      obtain ⟨fault, hfault, hsame, -⟩ := Parser.parse_of_refused hrefused
      exact ⟨fault, hfault, hsame⟩
  · intro fault hfault
    exact (refused_of_parse hfault).2 fault rfl

/-- A minute beyond the bounds, with nothing remembered. -/
theorem parseWith_outcome_minute99 :
    Memo.empty.get? "99 0 * * *" = none ∧
      ∃ fault, (({} : Parser).parseWith .empty "99 0 * * *").result = .error fault ∧
        fault.kind = .outOfRange ∧
        fault.message = "value out of range: end of range (99) above maximum (59): 99" := by
  have hforgotten : Memo.empty.get? "99 0 * * *" = none := rfl
  have hrejects : Rejects "99 0 * * *" (GrammarFault.aboveMaximum 99 59 "99").toRejection :=
    ⟨by decide, by decide, by decide⟩
  exact ⟨hforgotten, ((parseWith_outcome "99 0 * * *" hforgotten).1 _ _).mpr
    (.outOfRange hrejects rfl)⟩

/-- Blanks behind an alias are taken by the scheduler, and not by the parser. -/
example : calendarScheduler.validate "@daily " = .ok () ∧
    Refused "@daily " .unknownAlias "unrecognized alias: @daily " :=
  ⟨by decide, .unknownAlias (by decide) (by decide)⟩

end CronLint
