import CronLint.Proofs.Spelling
import CronLint.Schedule.Memo

/-!
# Parsing with a memo

A memo is asked and cleared step by step. Whatever the steps were, it holds the expressions that
were parsed since it was last cleared, each once and with the schedule that parsing afresh gives, so
nobody can tell from the schedules that it is there. It only saves the scheduler from being asked
again.
-/
namespace CronLint

inductive MemoStep where
  | parse (expression : String)
  | clear

namespace Parser

def memoAfterStep (p : Parser) (memo : Memo) : MemoStep → Memo
  | .parse e => (p.parseWith memo e).memo
  | .clear => memo.clear

/-- The memo after steps that start with an empty one. -/
def memoAfter (p : Parser) (steps : List MemoStep) : Memo := steps.foldl p.memoAfterStep .empty

def outcomes (p : Parser) (memo : Memo) : List MemoStep → List Parsed
  | [] => []
  | .parse e :: rest => p.parseWith memo e :: outcomes p (p.parseWith memo e).memo rest
  | .clear :: rest => outcomes p memo.clear rest

end Parser

/-- The expression is parsed in some step, and no later step clears the memo. -/
def ParsedSinceClear (steps : List MemoStep) (e : String) : Prop :=
  ∃ before after, steps = before ++ .parse e :: after ∧ .clear ∉ after

namespace ParsedSinceClear

variable {steps : List MemoStep} {e x : String}

theorem not_nil : ¬ ParsedSinceClear [] e := by
  rintro ⟨before, after, h, -⟩
  simp at h

/-- The last step is the one that parses the expression, or one that leaves it alone. -/
theorem concat_iff {step : MemoStep} : ParsedSinceClear (steps ++ [step]) e ↔
    step = .parse e ∨ step ≠ .clear ∧ ParsedSinceClear steps e := by
  constructor
  · rintro ⟨before, after, h, hclear⟩
    rcases List.eq_nil_or_concat after with rfl | ⟨after, last, rfl⟩
    · obtain ⟨-, hlast⟩ := List.append_inj' h rfl
      exact Or.inl (List.singleton_inj.mp hlast)
    · rw [List.concat_eq_append, ← List.cons_append, ← List.append_assoc] at h
      obtain ⟨hsteps, hlast⟩ := List.append_inj' h rfl
      obtain rfl := List.singleton_inj.mp hlast
      simp only [List.concat_eq_append, List.mem_append, List.mem_singleton, not_or] at hclear
      exact Or.inr ⟨fun h => hclear.2 h.symm, before, after, hsteps, hclear.1⟩
  · rintro (rfl | ⟨hstep, before, after, rfl, hclear⟩)
    · exact ⟨steps, [], rfl, List.not_mem_nil⟩
    · refine ⟨before, after ++ [step], by simp, ?_⟩
      simp only [List.mem_append, List.mem_singleton, not_or]
      exact ⟨hclear, fun h => hstep h.symm⟩

end ParsedSinceClear

/-! ### One step -/

/-- The texts that the scheduler is asked about for an expression that is not remembered. -/
def Request.consultation (e : String) : List String :=
  match Request.ofExpression e with
  | .ok request => [request.text]
  | .error _ => []

/-- The scheduler is asked about an alias as it is, and about five words in upper case. -/
theorem Request.consultation_eq (e : String) : Request.consultation e =
    if e ∈ aliases.map Prod.fst then [e]
    else if e.toList.head? ≠ some '@' ∧ (wordsOf e).length = 5 then [upperText e]
    else [] := by
  have haliases : ∀ name ∈ aliases.map Prod.fst, Request.consultation name = [name] := by decide
  by_cases halias : e ∈ aliases.map Prod.fst
  · rw [if_pos halias, haliases e halias]
  · rw [if_neg halias]
    unfold Request.consultation
    cases h : Request.ofExpression e with
    | ok request =>
      obtain ⟨-, hfields⟩ | ⟨hhead, htext, hfields⟩ := Request.ofExpression_cases h
      · exact absurd (List.mem_map_of_mem hfields) halias
      · have hsome : (Fields.ofList? (wordsOf (upperText e))).isSome = true := by rw [hfields]; rfl
        rw [Fields.ofList?_isSome_iff, wordsOf_upperText, List.length_map] at hsome
        rw [if_pos ⟨hhead, hsome⟩, ← htext]
    | error fault =>
      rw [if_neg]
      rintro ⟨hhead, hlength⟩
      have hsome : (Fields.ofList? (wordsOf (upperText e))).isSome = true := by
        rw [Fields.ofList?_isSome_iff, wordsOf_upperText, List.length_map, hlength]
      obtain ⟨fields, hfields⟩ := Option.isSome_iff_exists.mp hsome
      have hempty : e.isEmpty = false := by
        rw [Bool.eq_false_iff, ne_eq, String.isEmpty_iff]
        rintro rfl
        revert hlength
        decide
      simp [Request.ofExpression, hempty, hhead, hfields] at h

namespace Parser

variable {p : Parser} {memo : Memo} {e : String} {s : Schedule}

theorem parse_empty (p : Parser) (h : e.isEmpty = true) : p.parse e = .error .empty := by
  simp [parse, Request.ofExpression, h, Except.bind]

theorem parseWith_of_remembered (h : memo.get? e = some s) (hparse : p.parse e = .ok s) :
    p.parseWith memo e = ⟨.ok s, memo, []⟩ := by
  have hnonempty : ¬ e.isEmpty = true := by
    intro hempty
    rw [p.parse_empty hempty] at hparse
    cases hparse
  unfold parseWith
  rw [if_neg hnonempty, h]

/-- An expression that is not remembered is parsed, and remembered if that succeeds. -/
theorem parseWith_of_forgotten (h : memo.get? e = none) :
    p.parseWith memo e = ⟨p.parse e, match p.parse e with
      | .ok s => memo.put e s
      | .error _ => memo, Request.consultation e⟩ := by
  unfold parseWith Request.consultation parse
  by_cases hempty : e.isEmpty = true
  · simp [hempty, Request.ofExpression, Except.bind]
  · rw [if_neg hempty, h]
    cases Request.ofExpression e with
    | error fault => rfl
    | ok request =>
      simp only [Except.bind]
      cases p.answer e request with
      | error fault => rfl
      | ok s => rfl

theorem parse_original (h : p.parse e = .ok s) : s.original = e := by
  obtain ⟨request, -, -, -, horiginal⟩ := parse_eq_ok_iff.mp h
  exact horiginal

end Parser

/-! ### All steps -/

namespace Memo

variable {p : Parser} {memo : Memo} {P : String → Prop} {entries : List (String × Schedule)}
  {e : String} {s : Schedule}

def toList : Memo → List (String × Schedule)
  | disabled => []
  | stored entries => entries

theorem mem_of_get? (h : memo.get? e = some s) : (e, s) ∈ memo.toList := by
  cases memo with
  | disabled => cases h
  | stored entries =>
    obtain ⟨before, after, heq, -⟩ := List.lookup_eq_some_iff.mp h
    rw [toList, heq]
    simp

theorem get?_eq_none_iff : memo.get? e = none ↔ e ∉ memo.toList.map Prod.fst := by
  cases memo with
  | disabled => simp [get?, toList]
  | stored entries =>
    simp only [get?, toList, List.lookup_eq_none_iff, List.mem_map, not_exists, not_and]
    constructor
    · rintro h entry hentry rfl
      simpa using h entry hentry
    · intro h entry hentry
      rw [bne_iff_ne]
      rintro rfl
      exact h entry hentry rfl

theorem mem_put {x : String} {t : Schedule} (h : (x, t) ∈ (memo.put e s).toList) :
    (x, t) = (e, s) ∨ (x, t) ∈ memo.toList := by
  cases memo with
  | disabled => exact Or.inr h
  | stored entries =>
    simp only [put, toList, List.mem_cons, List.mem_filter] at h
    exact h.imp_right And.left

/-- Every schedule that is remembered is the one that parsing afresh gives. -/
def Sound (p : Parser) (memo : Memo) : Prop := ∀ e s, (e, s) ∈ memo.toList → p.parse e = .ok s

theorem sound_nil (h : memo.toList = []) : memo.Sound p := by
  intro e s hmem
  rw [h] at hmem
  cases hmem

/-- A sound memo does not change the result of parsing, and stays sound. -/
theorem Sound.parseWith (h : memo.Sound p) (e : String) :
    (p.parseWith memo e).result = p.parse e ∧ (p.parseWith memo e).memo.Sound p := by
  cases hget : memo.get? e with
  | none =>
    rw [Parser.parseWith_of_forgotten hget]
    refine ⟨rfl, ?_⟩
    cases hparse : p.parse e with
    | error fault => exact h
    | ok s =>
      intro x t hmem
      rcases mem_put hmem with heq | hmem
      · cases heq
        exact hparse
      · exact h x t hmem
  | some s =>
    have hparse := h e s (mem_of_get? hget)
    rw [Parser.parseWith_of_remembered hget hparse, hparse]
    exact ⟨rfl, h⟩

/-- The memo holds the expressions with a property that can be parsed, each once. -/
structure Holds (p : Parser) (P : String → Prop) (memo : Memo) : Prop where
  enabled : memo ≠ .disabled
  keys_nodup : (memo.toList.map Prod.fst).Nodup
  mem_iff : ∀ e s, (e, s) ∈ memo.toList ↔ P e ∧ p.parse e = .ok s

theorem Holds.sound (h : memo.Holds p P) : memo.Sound p :=
  fun e s hmem => ((h.mem_iff e s).mp hmem).2

theorem Holds.congr {Q : String → Prop} (h : memo.Holds p P) (hPQ : ∀ e, P e ↔ Q e) :
    memo.Holds p Q := by
  obtain rfl : P = Q := funext fun e => propext (hPQ e)
  exact h

theorem Holds.put (h : memo.Holds p P) (hparse : p.parse e = .ok s) :
    (memo.put e s).Holds p (fun x => x = e ∨ P x) := by
  cases memo with
  | disabled => exact absurd rfl h.enabled
  | stored entries =>
    refine ⟨by simp [Memo.put], ?_, ?_⟩
    · have hothers : ((entries.filter fun entry => entry.1 != e).map Prod.fst).Nodup :=
        h.keys_nodup.sublist (List.filter_sublist.map _)
      simp only [Memo.put, toList, List.map_cons, List.nodup_cons]
      refine ⟨?_, hothers⟩
      intro hmem
      obtain ⟨entry, hentry, heq⟩ := List.mem_map.mp hmem
      have := (List.mem_filter.mp hentry).2
      simp [heq] at this
    · intro x t
      have hentries : (x, t) ∈ entries ↔ P x ∧ p.parse x = .ok t := h.mem_iff x t
      simp only [Memo.put, toList, List.mem_cons, List.mem_filter, hentries, Prod.mk.injEq,
        bne_iff_ne]
      constructor
      · rintro (⟨rfl, rfl⟩ | ⟨⟨hx, ht⟩, -⟩)
        · exact ⟨Or.inl rfl, hparse⟩
        · exact ⟨Or.inr hx, ht⟩
      · rintro ⟨hx, ht⟩
        by_cases heq : x = e
        · subst heq
          exact Or.inl ⟨rfl, Except.ok.inj (ht.symm.trans hparse)⟩
        · exact Or.inr ⟨⟨hx.resolve_left heq, ht⟩, heq⟩

/-- Nothing has to be stored for an expression that cannot be parsed or is remembered already. -/
theorem Holds.keep (h : memo.Holds p P) (hP : ∀ s, p.parse e = .ok s → P e) :
    memo.Holds p (fun x => x = e ∨ P x) := by
  refine ⟨h.enabled, h.keys_nodup, ?_⟩
  intro x t
  rw [h.mem_iff]
  constructor
  · rintro ⟨hx, ht⟩
    exact ⟨Or.inr hx, ht⟩
  · rintro ⟨rfl | hx, ht⟩
    · exact ⟨hP t ht, ht⟩
    · exact ⟨hx, ht⟩

theorem Holds.parseWith (h : memo.Holds p P) (e : String) :
    (p.parseWith memo e).memo.Holds p (fun x => x = e ∨ P x) := by
  cases hget : memo.get? e with
  | some s =>
    obtain ⟨he, hparse⟩ := (h.mem_iff e s).mp (mem_of_get? hget)
    rw [Parser.parseWith_of_remembered hget hparse]
    exact h.keep fun _ _ => he
  | none =>
    rw [Parser.parseWith_of_forgotten hget]
    cases hparse : p.parse e with
    | ok s => exact h.put hparse
    | error fault =>
      apply h.keep
      intro s hs
      rw [hparse] at hs
      cases hs

theorem Holds.clear (h : memo.Holds p P) : memo.clear.Holds p (fun _ => False) := by
  cases memo with
  | disabled => exact absurd rfl h.enabled
  | stored entries =>
    refine ⟨by simp [Memo.clear, empty], List.nodup_nil, ?_⟩
    intro e s
    simp [Memo.clear, empty, toList]

end Memo

namespace Parser

theorem memoAfter_concat (p : Parser) (steps : List MemoStep) (step : MemoStep) :
    p.memoAfter (steps ++ [step]) = p.memoAfterStep (p.memoAfter steps) step := by
  rw [memoAfter, List.foldl_append]
  rfl

theorem memoAfter_holds (p : Parser) (steps : List MemoStep) :
    (p.memoAfter steps).Holds p (ParsedSinceClear steps) := by
  induction steps using List.reverseRecOn with
  | nil =>
    refine ⟨by simp [memoAfter, Memo.empty], List.nodup_nil, ?_⟩
    intro e s
    simp [memoAfter, Memo.empty, Memo.toList, ParsedSinceClear.not_nil]
  | append_singleton steps step ih =>
    rw [memoAfter_concat]
    cases step with
    | parse x =>
      apply (ih.parseWith x).congr
      intro e
      simp [ParsedSinceClear.concat_iff, eq_comm]
    | clear =>
      apply ih.clear.congr
      intro e
      simp [ParsedSinceClear.concat_iff]

/-- A sound memo leaves no trace in the results of any steps. -/
theorem outcomes_results {p : Parser} {a b : Memo} (ha : a.Sound p) (hb : b.Sound p)
    (steps : List MemoStep) :
    (p.outcomes a steps).map Parsed.result = (p.outcomes b steps).map Parsed.result := by
  induction steps generalizing a b with
  | nil => rfl
  | cons step rest ih =>
    cases step with
    | clear =>
      have hclear (memo : Memo) : memo.clear.Sound p :=
        Memo.sound_nil (by cases memo <;> rfl)
      exact ih (hclear a) (hclear b)
    | parse e =>
      obtain ⟨hresult, ha⟩ := ha.parseWith e
      obtain ⟨hresult', hb⟩ := hb.parseWith e
      simp only [outcomes, List.map_cons, hresult, hresult', ih ha hb]

/-- After any steps, the memo holds the expressions parsed since it was last cleared, each once with
its schedule. It changes no result and nothing that fails changes it. The scheduler is asked once
about an expression that is not in the memo and is an alias or has five words, and never
otherwise. -/
theorem memo_is_transparent (p : Parser) (steps : List MemoStep) :
    (p.outcomes .empty steps).map Parsed.result = (p.outcomes .disabled steps).map Parsed.result ∧
    ((p.memoAfter steps).toList.map Prod.fst).Nodup ∧
    (∀ e s, (e, s) ∈ (p.memoAfter steps).toList ↔
      ParsedSinceClear steps e ∧ p.parse e = .ok s ∧ s.original = e) ∧
    ∀ e, (p.parseWith (p.memoAfter steps) e).result = (p.parseWith .disabled e).result ∧
      (∀ fault, (p.parseWith (p.memoAfter steps) e).result = .error fault →
        (p.parseWith (p.memoAfter steps) e).memo = p.memoAfter steps) ∧
      (p.parseWith (p.memoAfter steps) e).consulted =
        if e ∈ (p.memoAfter steps).toList.map Prod.fst then []
        else if e ∈ aliases.map Prod.fst then [e]
        else if e.toList.head? ≠ some '@' ∧ (wordsOf e).length = 5 then [upperText e]
        else [] := by
  have hholds := p.memoAfter_holds steps
  have hresults := outcomes_results (p := p) (Memo.sound_nil rfl : Memo.empty.Sound p)
    (Memo.sound_nil rfl : Memo.disabled.Sound p) steps
  refine ⟨hresults, hholds.keys_nodup, ?_, ?_⟩
  · intro e s
    rw [hholds.mem_iff]
    refine and_congr_right fun _ => ⟨?_, And.left⟩
    intro hparse
    exact ⟨hparse, parse_original hparse⟩
  · intro e
    have hresult := (hholds.sound.parseWith e).1
    have hdisabled : (p.parseWith .disabled e).result = p.parse e :=
      ((Memo.sound_nil rfl : Memo.disabled.Sound p).parseWith e).1
    refine ⟨hresult.trans hdisabled.symm, ?_⟩
    cases hget : (p.memoAfter steps).get? e with
    | none =>
      rw [if_neg (Memo.get?_eq_none_iff.mp hget), ← Request.consultation_eq,
        parseWith_of_forgotten hget]
      refine ⟨?_, rfl⟩
      intro fault hfault
      dsimp only at hfault ⊢
      rw [hfault]
    | some s =>
      have hmem := Memo.mem_of_get? hget
      have hparse := hholds.sound e s hmem
      rw [if_pos (List.mem_map_of_mem hmem), parseWith_of_remembered hget hparse]
      refine ⟨?_, rfl⟩
      intro fault hfault
      cases hfault

/-- The second question is answered from the memo, the third is not. -/
example : (({} : Parser).outcomes .empty
    [.parse "0 5 * * mon", .parse "0 5 * * mon", .clear, .parse "0 5 * * mon"]).map
      Parsed.consulted = [["0 5 * * MON"], [], ["0 5 * * MON"]] := by
  decide

end Parser

end CronLint
