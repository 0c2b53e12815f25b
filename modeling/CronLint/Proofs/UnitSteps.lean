import CronLint.Proofs.RunDays
import CronLint.Proofs.Triggers
import CronLint.Proofs.TwoReadings

/-!
# Leaving out steps of one

The advice on steps of one is to write an asterisk for every field that ends in one. The advised
expression is always accepted. It has the runs of the other if the fields in question admit all
their values anyway and the rule for the two day fields stays as it is; a field such as `0-10/1` is
widened.
-/
namespace CronLint

open Calendar

namespace Text

variable {cs a b w : List Char} {p : Char → Bool}

/-! ### Words -/

theorem notSep_of_mem_segments {s : List Char} (hs : s ∈ segments p cs) : ∀ c ∈ s, p c = false := by
  induction cs generalizing s with
  | nil =>
    rw [segments, List.mem_singleton] at hs
    simp [hs]
  | cons d cs ih =>
    obtain ⟨t, rest, ht⟩ := List.exists_cons_of_ne_nil (segments_ne_nil p cs)
    rw [ht] at ih
    by_cases hd : p d = true
    · rw [segments, if_pos hd, ht] at hs
      rcases List.mem_cons.mp hs with rfl | hs
      · simp
      · exact ih hs
    · rw [segments, if_neg hd, ht] at hs
      rcases List.mem_cons.mp hs with rfl | hs
      · rw [List.forall_mem_cons]
        exact ⟨by simpa using hd, ih List.mem_cons_self⟩
      · exact ih (List.mem_cons_of_mem _ hs)

theorem mem_words (h : w ∈ words cs) : w ≠ [] ∧ ∀ c ∈ w, isBlank c = false := by
  obtain ⟨hsegment, hne⟩ := List.mem_filter.mp h
  exact ⟨by simpa using hne, notSep_of_mem_segments hsegment⟩

theorem words_joinWith {texts : List (List Char)} (hne : texts ≠ [])
    (htexts : ∀ w ∈ texts, w ≠ [] ∧ ∀ c ∈ w, isBlank c = false) :
    words (joinWith [' '] texts) = texts := by
  rw [words, joinWith, segments_intercalate (by decide) (fun w hw => (htexts w hw).2) hne]
  rw [List.filter_eq_self]
  intro w hw
  simpa using (htexts w hw).1

/-! ### Steps of one -/

/-- What has no case stands at the end of a text if it stands at the end in upper case. -/
theorem upper_eq_append_singleton {c : Char} (h : IsCaseless c) (heq : upper cs = b ++ [c]) :
    ∃ a, cs = a ++ [c] := by
  rcases List.eq_nil_or_concat cs with rfl | ⟨a, d, rfl⟩
  · simp [upper] at heq
  · obtain ⟨front, last, hlast⟩ :=
      (List.eq_nil_or_concat (upperChar d)).resolve_left (upperChar_ne_nil d)
    have hupper : upper (a.concat d) = (upper a ++ front) ++ [last] := by
      rw [List.concat_eq_append] at hlast ⊢
      rw [upper_append, List.append_assoc, ← hlast]
      simp [upper]
    obtain ⟨-, hc⟩ := List.append_inj' (hupper.symm.trans heq) rfl
    have hmem : c ∈ upperChar d := by
      rw [hlast, List.concat_eq_append, hc]
      simp
    have hd := isCaseless_of_mem_upperChar hmem h
    rw [upperChar_of_caseless hd, List.mem_singleton] at hmem
    exact ⟨a, by rw [hmem, List.concat_eq_append]⟩

end Text

open Text

theorem endsInUnitStep_iff {w : List Char} :
    endsInUnitStep w = true ↔ ∃ a, w = a ++ ['/'] ++ ['1'] := by
  rw [endsInUnitStep, List.isSuffixOf_iff_suffix]
  constructor
  · rintro ⟨a, rfl⟩
    exact ⟨a, by simp⟩
  · rintro ⟨a, rfl⟩
    exact ⟨a, by simp⟩

theorem endsInUnitStep_upper (w : List Char) : endsInUnitStep (upper w) = endsInUnitStep w := by
  have hslash : upper ['/'] = ['/'] := by decide
  have hone : upper ['1'] = ['1'] := by decide
  rw [Bool.eq_iff_iff, endsInUnitStep_iff, endsInUnitStep_iff]
  constructor
  · rintro ⟨b, heq⟩
    obtain ⟨a, rfl⟩ := upper_eq_append_singleton (by decide) heq
    rw [upper_append, hone] at heq
    obtain ⟨heq, -⟩ := List.append_inj' heq rfl
    obtain ⟨a, rfl⟩ := upper_eq_append_singleton (by decide) heq
    exact ⟨a, rfl⟩
  · rintro ⟨a, rfl⟩
    exact ⟨upper a, by rw [upper_append, upper_append, hslash, hone]⟩

theorem endsInUnitStep_upperText (w : String) :
    endsInUnitStep (upperText w).toList = endsInUnitStep w.toList := by
  rw [upperText, String.toList_ofList, endsInUnitStep_upper]

/-- A field, or an asterisk in place of one that ends in a step of one. -/
def simplifyField (raw : String) : String := if endsInUnitStep raw.toList then "*" else raw

def Fields.withoutUnitSteps (raw : Fields String) : Fields String :=
  ⟨simplifyField raw.minute, simplifyField raw.hour, simplifyField raw.dayOfMonth,
    simplifyField raw.month, simplifyField raw.dayOfWeek⟩

@[simp] theorem Fields.get_withoutUnitSteps (raw : Fields String) (p : Position) :
    raw.withoutUnitSteps.get p = simplifyField (raw.get p) := by
  cases p <;> rfl

theorem upperText_simplifyField (w : String) :
    upperText (simplifyField w) = simplifyField (upperText w) := by
  unfold simplifyField
  rw [endsInUnitStep_upperText]
  split_ifs
  · decide
  · rfl

/-! ### The advised expression -/

section

variable {e : String} {request : Request} {raw : Fields String} {r : Recurrence}

def spaced (ws : List String) : String := String.ofList (joinWith [' '] (ws.map String.toList))

theorem mem_wordsOf {w : String} (h : w ∈ wordsOf e) :
    w.toList ≠ [] ∧ ∀ c ∈ w.toList, isBlank c = false := by
  obtain ⟨cs, hcs, rfl⟩ := List.mem_map.mp h
  rw [String.toList_ofList]
  exact mem_words hcs

theorem wordsOf_spaced {ws : List String} (hne : ws ≠ [])
    (h : ∀ w ∈ ws, w.toList ≠ [] ∧ ∀ c ∈ w.toList, isBlank c = false) :
    wordsOf (spaced ws) = ws := by
  have hwords : words (joinWith [' '] (ws.map String.toList)) = ws.map String.toList :=
    words_joinWith (mt List.map_eq_nil_iff.mp hne) (List.forall_mem_map.mpr h)
  rw [wordsOf, spaced, String.toList_ofList, hwords, List.map_map]
  exact (List.map_congr_left fun w _ => String.ofList_toList).trans (List.map_id ws)

theorem withoutUnitSteps_eq_spaced (h : (wordsOf e).length = 5) :
    withoutUnitSteps e = spaced ((wordsOf e).map simplifyField) := by
  rw [wordsOf, List.length_map] at h
  rw [spaced, wordsOf, List.map_map, List.map_map]
  refine (if_pos h).trans (congrArg (String.ofList ∘ joinWith [' ']) ?_)
  refine List.map_congr_left fun w _ => ?_
  simp only [Function.comp_apply, simplifyField, String.toList_ofList]
  split_ifs
  · rfl
  · exact String.toList_ofList.symm

theorem wordsOf_withoutUnitSteps (h : (wordsOf e).length = 5) :
    wordsOf (withoutUnitSteps e) = (wordsOf e).map simplifyField := by
  rw [withoutUnitSteps_eq_spaced h]
  apply wordsOf_spaced
  · intro hnil
    rw [List.map_eq_nil_iff] at hnil
    rw [hnil] at h
    cases h
  · intro w hw
    obtain ⟨word, hword, rfl⟩ := List.mem_map.mp hw
    have hasterisk : isBlank '*' = false := by decide
    unfold simplifyField
    split_ifs
    · simp [hasterisk]
    · exact mem_wordsOf hword

theorem Request.ofExpression_of_words (hhead : e.toList.head? ≠ some '@')
    (h : Fields.ofList? (wordsOf (upperText e)) = some raw) :
    Request.ofExpression e = .ok ⟨upperText e, raw⟩ := by
  have hne : ¬ e.isEmpty = true := by
    intro hempty
    rw [String.isEmpty_iff] at hempty
    subst hempty
    have hnone : Fields.ofList? (wordsOf (upperText "")) = none := by decide
    rw [hnone] at h
    cases h
  unfold Request.ofExpression
  rw [if_neg hne, if_neg hhead]
  simp only [h]

/-- No expression that is read has an at sign. -/
theorem at_notMem_of_words (hwords : Fields.ofList? (wordsOf e) = some raw)
    (hr : Recurrence.ofFields raw = .ok r) : '@' ∉ e.toList := by
  rw [mem_iff_wordsOf (by decide), Fields.ofList?_eq_some_iff.mp hwords]
  rintro ⟨w, hw, hat⟩
  obtain ⟨p, rfl⟩ := Fields.mem_toList_iff.mp hw
  have hchar := ValueSet.chars_of_read (Recurrence.ofFields_eq_ok_iff.mp hr p) '@' hat
  exact absurd hchar (by decide)

theorem Fields.exists_traverse {f : Position → α → Except ε β} {x : Fields α}
    (h : ∀ p, ∃ b, f p (x.get p) = .ok b) : ∃ y, x.traverse f = .ok y := by
  choose g hg using h
  refine ⟨Fields.ofFn g, Fields.traverse_eq_ok_iff.mpr fun p => ?_⟩
  rw [Fields.get_ofFn]
  exact hg p

theorem exists_read_simplifyField {p : Position} {field : String} {set : ValueSet}
    (h : ValueSet.read p field = .ok set) :
    ∃ set', ValueSet.read p (simplifyField field) = .ok set' := by
  unfold simplifyField
  split_ifs
  · exact exists_of_isOk (by cases p <;> decide)
  · exact ⟨set, h⟩

theorem exists_ofFields_withoutUnitSteps (hr : Recurrence.ofFields raw = .ok r) :
    ∃ r', Recurrence.ofFields raw.withoutUnitSteps = .ok r' := by
  obtain ⟨sets, hsets⟩ := Fields.exists_traverse (f := ValueSet.read) (x := raw.withoutUnitSteps)
    fun p => by
      rw [Fields.get_withoutUnitSteps]
      exact exists_read_simplifyField (Recurrence.ofFields_eq_ok_iff.mp hr p)
  exact ⟨⟨sets⟩, map_eq_ok_iff.mpr ⟨sets, hsets, rfl⟩⟩

/-- What is not an alias is put to the scheduler as five words in upper case. -/
theorem Request.words_of_fiveFields (hrequest : Request.ofExpression e = .ok request)
    (hhead : e.toList.head? ≠ some '@') :
    request.text = upperText e ∧ (wordsOf e).map upperText = request.fields.toList := by
  have haliases : ∀ a ∈ aliases, a.1.toList.head? = some '@' := by decide
  obtain ⟨-, hfields⟩ | ⟨-, htext, hfields⟩ := Request.ofExpression_cases hrequest
  · exact absurd (haliases _ hfields) hhead
  · rw [Fields.ofList?_eq_some_iff, wordsOf_upperText] at hfields
    exact ⟨htext, hfields⟩

theorem Request.length_of_fiveFields (hrequest : Request.ofExpression e = .ok request)
    (hhead : e.toList.head? ≠ some '@') : (wordsOf e).length = 5 := by
  rw [← List.length_map (f := upperText), (Request.words_of_fiveFields hrequest hhead).2]
  rfl

/-- The advice is split into the same fields, but for those that ended in a step of one. -/
theorem request_withoutUnitSteps (hrequest : Request.ofExpression e = .ok request)
    (hhead : e.toList.head? ≠ some '@') (hr : Recurrence.ofFields request.fields = .ok r) :
    Request.ofExpression (withoutUnitSteps e) =
      .ok ⟨upperText (withoutUnitSteps e), request.fields.withoutUnitSteps⟩ := by
  have hcomm : upperText ∘ simplifyField = simplifyField ∘ upperText := by
    funext w
    rw [Function.comp_apply, Function.comp_apply, upperText_simplifyField]
  have hwords : Fields.ofList? (wordsOf (upperText (withoutUnitSteps e))) =
      some request.fields.withoutUnitSteps := by
    rw [wordsOf_upperText, wordsOf_withoutUnitSteps (Request.length_of_fiveFields hrequest hhead),
      List.map_map, hcomm, ← List.map_map, (Request.words_of_fiveFields hrequest hhead).2]
    rfl
  obtain ⟨r', hr'⟩ := exists_ofFields_withoutUnitSteps hr
  have hat := at_notMem_of_words hwords hr'
  rw [upperText, String.toList_ofList, mem_upper_iff (by decide)] at hat
  apply Request.ofExpression_of_words _ hwords
  intro hfirst
  exact hat (List.mem_of_mem_head? (Option.mem_def.mpr hfirst))

theorem isPlain_withoutUnitSteps (h : (wordsOf e).length = 5) (plain : IsPlain e.toList) :
    IsPlain (withoutUnitSteps e).toList := by
  rw [isPlain_iff_wordsOf, wordsOf_withoutUnitSteps h]
  intro w hw
  obtain ⟨word, hword, rfl⟩ := List.mem_map.mp hw
  unfold simplifyField
  split_ifs
  · have hstar : "*".toList = ['*'] := rfl
    rw [hstar, IsPlain, List.forall_mem_singleton]
    decide
  · exact isPlain_iff_wordsOf.mp plain word hword

theorem Parser.exists_parse_withoutUnitSteps (hrequest : Request.ofExpression e = .ok request)
    (hhead : e.toList.head? ≠ some '@') (hr : Recurrence.ofFields request.fields = .ok r)
    {fields : Fields Field} (hfields : ({} : Parser).readFields request.fields = .ok fields) :
    ∃ s, ({} : Parser).parse (withoutUnitSteps e) = .ok s := by
  have hrequest' := request_withoutUnitSteps hrequest hhead hr
  obtain ⟨r', hr'⟩ := exists_ofFields_withoutUnitSteps hr
  obtain ⟨fields', hfields'⟩ : ∃ fields', ({} : Parser).readFields request.fields.withoutUnitSteps =
      .ok fields' := by
    apply Fields.exists_traverse
    intro p
    rw [Fields.get_withoutUnitSteps, simplifyField]
    split_ifs
    · exact exists_of_isOk (by cases p <;> decide)
    · exact ⟨_, Fields.traverse_eq_ok_iff.mp hfields p⟩
  refine ⟨⟨withoutUnitSteps e, fields'⟩, Parser.parse_eq_ok_iff.mpr
    ⟨_, hrequest', ?_, hfields', rfl⟩⟩
  rw [calendarScheduler_validate_eq_ok_iff]
  exact ⟨r', (ofExpression_text hrequest').trans hr'⟩

end

/-! ### What the advice changes -/

/-- The field admits every value of the position. -/
def Position.AdmitsAll (p : Position) (field : String) : Prop :=
  ∀ v : Nat, p.low ≤ v → v ≤ p.high → p.Admits field v

/-- The advice keeps the values of a position: it leaves the field alone, or the field admits every
value anyway. -/
def Fields.Keeps (raw : Fields String) (p : Position) : Prop :=
  endsInUnitStep (raw.get p).toList = true → p.AdmitsAll (raw.get p)

section

variable {raw : Fields String} {r r' : Recurrence}

theorem mem_withoutUnitSteps (h : Recurrence.ofFields raw = .ok r)
    (h' : Recurrence.ofFields raw.withoutUnitSteps = .ok r') (p : Position) (v : Nat) :
    v ∈ (r'.sets.get p).values ↔ v ∈ (r.sets.get p).values ∨
      endsInUnitStep (raw.get p).toList = true ∧ p.low ≤ v ∧ v ≤ p.high := by
  have hread := Recurrence.ofFields_eq_ok_iff.mp h p
  have hread' := Recurrence.ofFields_eq_ok_iff.mp h' p
  have hbounds := (Scheduler.ordered_of_ofFields h p).bounded v
  rw [Fields.get_withoutUnitSteps, simplifyField] at hread'
  split_ifs at hread' with hends
  · have hstar : ValueSet.read p "*" =
        .ok ⟨List.range' p.low (p.high - p.low + 1), true⟩ := by
      cases p <;> decide
    rw [hstar, Except.ok.injEq] at hread'
    have hle := p.low_le_high
    rw [← hread', List.mem_range'_1]
    constructor
    · intro hv
      exact Or.inr ⟨hends, by omega⟩
    · rintro (hv | ⟨-, hv⟩)
      · have := hbounds hv
        omega
      · omega
  · rw [hread, Except.ok.injEq] at hread'
    simp [hread', hends]

theorem keeps_iff (h : Recurrence.ofFields raw = .ok r)
    (h' : Recurrence.ofFields raw.withoutUnitSteps = .ok r') (p : Position) :
    raw.Keeps p ↔ ∀ v, v ∈ (r'.sets.get p).values ↔ v ∈ (r.sets.get p).values := by
  have hmem := ValueSet.mem_of_read (Recurrence.ofFields_eq_ok_iff.mp h p)
  simp only [Fields.Keeps, Position.AdmitsAll, mem_withoutUnitSteps h h', ← hmem]
  constructor
  · intro hkeeps v
    refine ⟨?_, Or.inl⟩
    rintro (hv | ⟨hends, hlow, hhigh⟩)
    · exact hv
    · exact hkeeps hends v hlow hhigh
  · intro hsame hends v hlow hhigh
    exact (hsame v).mp (Or.inr ⟨hends, hlow, hhigh⟩)

/-- The times of day stay the same if and only if no hour and no minute is added: each added one
would make a time together with any admitted value of the other position. -/
theorem atTime_eq_iff (h : Recurrence.ofFields raw = .ok r)
    (h' : Recurrence.ofFields raw.withoutUnitSteps = .ok r') :
    (∀ k < 1440, r'.atTime k = r.atTime k) ↔ raw.Keeps .hour ∧ raw.Keeps .minute := by
  have hread := Recurrence.ofFields_eq_ok_iff.mp h
  have hmem := mem_withoutUnitSteps h h'
  have hhours (v : Nat) (hv : v ∈ (r'.sets.get .hour).values) : v ≤ 23 :=
    ((Scheduler.ordered_of_ofFields h' .hour).bounded v hv).2
  have hminutes (v : Nat) (hv : v ∈ (r'.sets.get .minute).values) : v ≤ 59 :=
    ((Scheduler.ordered_of_ofFields h' .minute).bounded v hv).2
  rw [keeps_iff h h', keeps_iff h h']
  constructor
  · intro htimes
    have htime {hour minute : Nat} (hhour : hour ∈ (r'.sets.get .hour).values)
        (hminute : minute ∈ (r'.sets.get .minute).values) :
        hour ∈ (r.sets.get .hour).values ∧ minute ∈ (r.sets.get .minute).values := by
      have hlimit := hhours hour hhour
      have hlimit' := hminutes minute hminute
      have hat := htimes (hour * 60 + minute) (by omega)
      rw [Bool.eq_iff_iff, Recurrence.atTime_iff r' _ _ (by omega),
        Recurrence.atTime_iff r _ _ (by omega)] at hat
      exact hat.mp ⟨hhour, hminute⟩
    obtain ⟨hour, hhour⟩ :=
      List.exists_mem_of_ne_nil _ (ValueSet.values_ne_nil_of_read (hread .hour))
    obtain ⟨minute, hminute⟩ :=
      List.exists_mem_of_ne_nil _ (ValueSet.values_ne_nil_of_read (hread .minute))
    have hhour := (hmem .hour hour).mpr (Or.inl hhour)
    have hminute := (hmem .minute minute).mpr (Or.inl hminute)
    exact ⟨fun v => ⟨fun hv => (htime hv hminute).1, fun hv => (hmem .hour v).mpr (Or.inl hv)⟩,
      fun v => ⟨fun hv => (htime hhour hv).2, fun hv => (hmem .minute v).mpr (Or.inl hv)⟩⟩
  · rintro ⟨hhour, hminute⟩ k -
    rw [Recurrence.atTime, Recurrence.atTime, Bool.eq_iff_iff]
    simp only [Bool.and_eq_true, List.contains_iff_mem]
    exact and_congr (hhour _) (hminute _)

/-- The advice keeps the rule for the days: where either day field will do, it touches neither of
them, or they leave out no day anyway. -/
def Fields.KeepsDayRule (raw : Fields String) : Prop :=
  Restricted raw.dayOfMonth ∧ Restricted raw.dayOfWeek →
    endsInUnitStep raw.dayOfMonth.toList = true ∨ endsInUnitStep raw.dayOfWeek.toList = true →
      Position.dayOfMonth.AdmitsAll raw.dayOfMonth ∧ Position.dayOfWeek.AdmitsAll raw.dayOfWeek

theorem not_restricted_simplifyField {field : String} (h : endsInUnitStep field.toList = true) :
    ¬ Restricted (simplifyField field) := by
  rw [simplifyField, if_pos h]
  intro hrestricted
  exact hrestricted ['*'] (by decide) (Or.inl rfl)

/-- The days stay the same if no value is added and the rule for the days is kept. -/
theorem onDay_withoutUnitSteps (h : Recurrence.ofFields raw = .ok r)
    (h' : Recurrence.ofFields raw.withoutUnitSteps = .ok r') (hkeeps : ∀ p, raw.Keeps p)
    (hrule : raw.KeepsDayRule) (n : Nat) : r'.onDay n = r.onDay n := by
  have hsame (p : Position) (v : Nat) :
      (r'.sets.get p).values.contains v = (r.sets.get p).values.contains v := by
    rw [Bool.eq_iff_iff, List.contains_iff_mem, List.contains_iff_mem]
    exact (keeps_iff h h' p).mp (hkeeps p) v
  have hmonth (v : Nat) : r'.sets.month.values.contains v = r.sets.month.values.contains v :=
    hsame .month v
  have hday (v : Nat) :
      r'.sets.dayOfMonth.values.contains v = r.sets.dayOfMonth.values.contains v :=
    hsame .dayOfMonth v
  have hweek (v : Nat) :
      r'.sets.dayOfWeek.values.contains v = r.sets.dayOfWeek.values.contains v :=
    hsame .dayOfWeek v
  have heither := Scheduler.eitherDay_iff h
  have heither' := Scheduler.eitherDay_iff h'
  simp only [Fields.withoutUnitSteps] at heither'
  simp only [Recurrence.onDay, hmonth, hday, hweek]
  by_cases hends : endsInUnitStep raw.dayOfMonth.toList = true ∨
      endsInUnitStep raw.dayOfWeek.toList = true
  · have hboth : r'.eitherDay = false := by
      rw [← Bool.not_eq_true, heither']
      rintro ⟨hday, hweek⟩
      exact hends.elim (fun h => not_restricted_simplifyField h hday)
        (fun h => not_restricted_simplifyField h hweek)
    cases hrestricted : r.eitherDay with
    | false => rw [hboth]
    | true =>
      -- Neither field leaves out the day, so both rules are met.
      obtain ⟨hallDays, hallWeek⟩ := hrule (heither.mp hrestricted) hends
      obtain ⟨hfirst, hlast⟩ := day_bounds n
      have hread := Recurrence.ofFields_eq_ok_iff.mp h
      have hmemDay : (Date.ofDayNumber n).day ∈ r.sets.dayOfMonth.values :=
        (ValueSet.mem_of_read (hread .dayOfMonth) _).mpr (hallDays _ hfirst hlast)
      have hmemWeek : weekday n ∈ r.sets.dayOfWeek.values :=
        (ValueSet.mem_of_read (hread .dayOfWeek) _).mpr
          (hallWeek _ (Nat.zero_le _) (weekday_le n))
      rw [hboth, List.contains_iff_mem.mpr hmemDay, List.contains_iff_mem.mpr hmemWeek]
      rfl
  · rw [not_or] at hends
    have hrule : r'.eitherDay = r.eitherDay := by
      rw [Bool.eq_iff_iff, heither, heither', simplifyField, simplifyField, if_neg hends.1,
        if_neg hends.2]
    rw [hrule]

theorem Schedule.hasUnitStep_iff {s : Schedule}
    (hfields : ({} : Parser).readFields raw = .ok s.fields) :
    s.hasUnitStep = true ↔ ∃ p, endsInUnitStep (raw.get p).toList = true := by
  have hread := Fields.traverse_eq_ok_iff.mp hfields
  rw [Schedule.hasUnitStep, List.any_eq_true]
  constructor
  · rintro ⟨f, hf, hends⟩
    obtain ⟨p, rfl⟩ := Fields.mem_toList_iff.mp hf
    rw [(Field.read_eq_ok_iff.mp (hread p)).2.1] at hends
    exact ⟨p, hends⟩
  · rintro ⟨p, hends⟩
    refine ⟨s.fields.get p, Fields.mem_toList_iff.mpr ⟨p, rfl⟩, ?_⟩
    rwa [(Field.read_eq_ok_iff.mp (hread p)).2.1]

end

theorem Scheduler.FollowsCalendar.runsAlike_iff {s : Scheduler} (h : s.FollowsCalendar)
    {e e' : String} : s.RunsAlike e e' ↔ calendarScheduler.RunsAlike e e' := by
  refine forall₃_congr fun start count horizon => forall₂_congr fun since before => ?_
  rw [h.next_eq since before, h.next_eq since before]

/-- The advice on an accepted expression of five fields is accepted, and read as the same fields
with an asterisk for each that ends in a step of one. It has the same runs, with any scheduler of
the calendar, if and only if it adds no day from 1970 to 9999 and, if there is any day, neither an
hour nor a minute. So it has if it adds no value at all and keeps the rule for the days. -/
theorem withoutUnitSteps_next_eq_iff {e : String} {s : Schedule}
    (accepted : ({} : Parser).parse e = .ok s) (fiveFields : e.toList.head? ≠ some '@') :
    ∃ raw r r' s', Request.ofExpression e = .ok ⟨upperText e, raw⟩ ∧
      Recurrence.ofFields raw = .ok r ∧
      (s.hasUnitStep = true ↔ ∃ p, endsInUnitStep (raw.get p).toList = true) ∧
      ({} : Parser).parse (withoutUnitSteps e) = .ok s' ∧
      Recurrence.ofFields raw.withoutUnitSteps = .ok r' ∧
      (IsPlain e.toList →
        Recurrence.ofExpression e = .ok r ∧ Recurrence.ofExpression (withoutUnitSteps e) = .ok r' ∧
        ((∀ start count horizon, calendarScheduler.next (withoutUnitSteps e) start count horizon =
            calendarScheduler.next e start count horizon) ↔
          calendarScheduler.RunsAlike e (withoutUnitSteps e)) ∧
        ∀ scheduler : Scheduler, scheduler.FollowsCalendar →
          (scheduler.RunsAlike e (withoutUnitSteps e) ↔
            (∀ n, epochDay ≤ n → n < dayCount → r'.onDay n = r.onDay n) ∧
              ((∃ n, (epochDay ≤ n ∧ n < dayCount) ∧ r.onDay n = true) →
                raw.Keeps .hour ∧ raw.Keeps .minute)) ∧
          ((∀ p, raw.Keeps p) → raw.KeepsDayRule →
            scheduler.RunsAlike e (withoutUnitSteps e))) := by
  obtain ⟨request, r, hrequest, hr, hfields⟩ := Parser.recurrence_of_parse accepted
  obtain ⟨r', hr'⟩ := exists_ofFields_withoutUnitSteps hr
  obtain ⟨s', hs'⟩ := Parser.exists_parse_withoutUnitSteps hrequest fiveFields hr hfields
  obtain ⟨text, raw⟩ := request
  obtain rfl : text = upperText e := (Request.words_of_fiveFields hrequest fiveFields).1
  refine ⟨raw, r, r', s', hrequest, hr, Schedule.hasUnitStep_iff hfields, hs', hr', ?_⟩
  intro plain
  have hwritten := ofExpression_of_isPlain hrequest hr plain
  have hadvised := ofExpression_of_isPlain (request_withoutUnitSteps hrequest fiveFields hr) hr'
    (isPlain_withoutUnitSteps (Request.length_of_fiveFields hrequest fiveFields) plain)
  refine ⟨hwritten, hadvised, calendarScheduler_next_eq_iff hwritten hadvised, ?_⟩
  intro scheduler follows
  have halike := follows.runsAlike_iff.trans (calendarScheduler_runsAlike_iff hwritten hadvised)
  rw [atTime_eq_iff hr hr'] at halike
  refine ⟨halike, ?_⟩
  intro hkeeps hrule
  exact halike.mpr ⟨fun n _ _ => onDay_withoutUnitSteps hr hr' hkeeps hrule n,
    fun _ => ⟨hkeeps .hour, hkeeps .minute⟩⟩

/-- Steps of one behind an asterisk, or behind a range of all hours, can be left out. -/
theorem next_withoutUnitSteps_workdays :
    withoutUnitSteps "*/1 0-23/1 * * 1-5" = "* * * * 1-5" ∧
      ∀ start count horizon, calendarScheduler.next "* * * * 1-5" start count horizon =
        calendarScheduler.next "*/1 0-23/1 * * 1-5" start count horizon := by
  obtain ⟨s, hs⟩ : ∃ s, ({} : Parser).parse "*/1 0-23/1 * * 1-5" = .ok s :=
    exists_of_isOk (by decide)
  obtain ⟨raw, r, r', s', hrequest, -, -, -, -, hnext⟩ :=
    withoutUnitSteps_next_eq_iff hs (by decide)
  have hfields : Request.ofExpression "*/1 0-23/1 * * 1-5" =
      .ok ⟨"*/1 0-23/1 * * 1-5", ⟨"*/1", "0-23/1", "*", "*", "1-5"⟩⟩ := by
    decide
  rw [hfields, Except.ok.injEq, Request.mk.injEq] at hrequest
  obtain ⟨-, rfl⟩ := hrequest
  have hadvice : withoutUnitSteps "*/1 0-23/1 * * 1-5" = "* * * * 1-5" := by decide
  refine ⟨hadvice, ?_⟩
  obtain ⟨-, -, hsame, hschedulers⟩ := hnext (by decide)
  rw [hadvice] at hsame hschedulers
  apply hsame.mpr
  apply (hschedulers calendarScheduler (Or.inl rfl)).2
  · intro p hends v hlow hhigh
    cases p with
    | minute =>
      have hread : ValueSet.read .minute "*/1" = .ok ⟨List.range' 0 60, true⟩ := by decide
      exact (ValueSet.mem_of_read hread v).mp
        (List.mem_range'_1.mpr ⟨hlow, Nat.lt_succ_of_le hhigh⟩)
    | hour =>
      have hread : ValueSet.read .hour "0-23/1" = .ok ⟨List.range' 0 24, false⟩ := by decide
      exact (ValueSet.mem_of_read hread v).mp
        (List.mem_range'_1.mpr ⟨hlow, Nat.lt_succ_of_le hhigh⟩)
    | dayOfMonth => exact absurd hends (by decide)
    | month => exact absurd hends (by decide)
    | dayOfWeek => exact absurd hends (by decide)
  · intro _ hends
    exact absurd hends (by decide)

/-- A range of minutes with a step of one is not every minute. -/
theorem next_withoutUnitSteps_differs :
    (∃ s, ({} : Parser).parse "0-10/1 * * * *" = .ok s ∧ s.hasUnitStep = true) ∧
      withoutUnitSteps "0-10/1 * * * *" = "* * * * *" ∧
      calendarScheduler.next "0-10/1 * * * *" (.utc (Instant.wallAt ⟨2025, 1, 1⟩ 600000000)) 1
        none = .ok [.utc (Instant.wallAt ⟨2025, 1, 1⟩ 3600000000)] ∧
      calendarScheduler.next "* * * * *" (.utc (Instant.wallAt ⟨2025, 1, 1⟩ 600000000)) 1
        none = .ok [.utc (Instant.wallAt ⟨2025, 1, 1⟩ 660000000)] := by
  have hstep : (({} : Parser).parse "0-10/1 * * * *").map Schedule.hasUnitStep = .ok true := by
    decide
  exact ⟨map_eq_ok_iff.mp hstep, by decide, by decide, by decide⟩

end CronLint
