import CronLint.Proofs.Triggers
import CronLint.Proofs.UpperCase
import CronLint.Analysis.Validator

/-!
# The spelling of an expression

A parser turns an expression to upper case before it asks the scheduler, and all later questions are
put with the expression as it was written. The scheduler reads both alike unless the expression has
a stray letter: then it accepts the one in upper case only.
-/
namespace CronLint

namespace Text

variable {cs a b : List Char}

/-- A text breaks where its upper-case form does. -/
theorem upper_eq_append_cons {sep : Char} (h : IsCaseless sep) (hsep : sep ∉ a)
    (heq : upper cs = a ++ sep :: b) :
    ∃ a' b', cs = a' ++ sep :: b' ∧ upper a' = a ∧ upper b' = b := by
  have hbreak := breakOn_upper h cs
  rw [heq, breakOn_append_cons hsep] at hbreak
  cases hcs : breakOn sep cs with
  | mk a' rest =>
    cases rest with
    | none => simp [hcs] at hbreak
    | some b' =>
      simp only [hcs, Option.map_some, Prod.mk.injEq, Option.some.injEq] at hbreak
      exact ⟨a', b', (breakOn_eq_some_iff.mp hcs).1, hbreak.1.symm, hbreak.2.symm⟩

theorem upper_eq_star_iff : upper cs = ['*'] ↔ cs = ['*'] := by
  constructor
  · intro h
    have hcaseless : ∀ c ∈ upper cs, IsCaseless c := by
      rw [h, List.forall_mem_singleton]
      decide
    rw [← upper_eq_self hcaseless, h]
  · rintro rfl
    decide

theorem integer?_upper (cs : List Char) : integer? (upper cs) = integer? cs :=
  integer?_changed (fun _ h => upper_of_caseless fun c hc => isCaseless_of_literal (h c hc))
    (fun _ h => upper_eq_self fun c hc => isCaseless_of_literal (h c hc)) cs

end Text

namespace Position

open Text

variable {p : Position} {text base member : List Char} {v first last step : Int} {closed : Bool}
  {span : Span}

/-! ### Members -/

theorem Denotes.upper (h : p.Denotes text v) : p.Denotes (upper text) v := by
  cases h with
  | name hname hlower =>
    exact .name hname (by rw [lowerAscii_upper (letters_of_name hname hlower), hlower])
  | literal hyphen hint =>
    refine .literal ?_ (by rw [integer?_upper, hint])
    rwa [mem_upper_iff (by decide)]

theorem Denotes.of_upper (plain : IsPlain text) (h : p.Denotes (Text.upper text) v) :
    p.Denotes text v := by
  cases h with
  | name hname hlower =>
    have hletters : ∀ c ∈ text, IsAsciiLetter c := by
      intro c hc
      exact (letters_of_upper hname hlower hc).resolve_right (plain c hc)
    exact .name hname (by rw [← lowerAscii_upper hletters, hlower])
  | literal hyphen hint =>
    rw [mem_upper_iff (by decide)] at hyphen
    exact .literal hyphen (by rw [← integer?_upper, hint])

theorem Base.upper (h : p.Base base first last closed) :
    p.Base (upper base) first last closed := by
  cases h with
  | every => exact .every
  | value ha => exact .value ha.upper
  | range ha hb =>
    rw [upper_append, upper_cons, upperChar_of_caseless (by decide), List.singleton_append]
    exact .range ha.upper hb.upper

theorem Base.of_upper (plain : IsPlain base)
    (h : p.Base (Text.upper base) first last closed) : p.Base base first last closed := by
  generalize heq : Text.upper base = b at h
  cases h with
  | every =>
    obtain rfl := upper_eq_star_iff.mp heq
    exact .every
  | value ha => exact .value (.of_upper plain (heq ▸ ha))
  | range ha hb =>
    obtain ⟨a', b', rfl, rfl, rfl⟩ := upper_eq_append_cons (by decide) ha.chars.1 heq
    rw [isPlain_append, isPlain_cons] at plain
    exact .range (.of_upper plain.1 ha) (.of_upper plain.2.2 hb)

theorem Stretch.upper (h : p.Stretch member first last step) :
    p.Stretch (upper member) first last step := by
  cases h with
  | plain hbase => exact .plain hbase.upper
  | stepped hbase hstep =>
    rw [upper_append, upper_cons, upperChar_of_caseless (by decide), List.singleton_append]
    exact .stepped hbase.upper ⟨by rw [integer?_upper, hstep.1], hstep.2⟩

theorem Stretch.of_upper (plain : IsPlain member)
    (h : p.Stretch (Text.upper member) first last step) : p.Stretch member first last step := by
  generalize heq : Text.upper member = m at h
  cases h with
  | plain hbase => exact .plain (.of_upper plain (heq ▸ hbase))
  | stepped hbase hstep =>
    obtain ⟨base', s', rfl, rfl, rfl⟩ := upper_eq_append_cons (by decide) hbase.slash_notMem heq
    rw [isPlain_append, isPlain_cons] at plain
    exact .stepped (.of_upper plain.1 hbase) ⟨by rw [← integer?_upper, hstep.1], hstep.2⟩

theorem readSpan_upper_eq_ok_iff (plain : IsPlain member) :
    p.readSpan (upper member) = .ok span ↔ p.readSpan member = .ok span := by
  have hstar : ((breakOn '/' (upper member)).1 == ['*']) = ((breakOn '/' member).1 == ['*']) := by
    rw [breakOn_upper (by decide), Bool.eq_iff_iff, beq_iff_eq, beq_iff_eq, upper_eq_star_iff]
  rw [readSpan_eq_ok_iff, readSpan_eq_ok_iff, hstar]
  constructor
  · rintro ⟨first, last, step, hstretch, h⟩
    exact ⟨first, last, step, hstretch.of_upper plain, h⟩
  · rintro ⟨first, last, step, hstretch, h⟩
    exact ⟨first, last, step, hstretch.upper, h⟩

/-- What a member can be made of. -/
def IsMemberChar (c : Char) : Prop :=
  IsAsciiLetter c ∨ IsLiteralChar c ∨ c = '*' ∨ c = '/'

instance : DecidablePred IsMemberChar := fun _ => inferInstanceAs (Decidable (_ ∨ _ ∨ _ ∨ _))

theorem Base.chars (h : p.Base base first last closed) : ∀ c ∈ base, IsMemberChar c := by
  have hvalue {a : List Char} {v : Int} (ha : p.Denotes a v) : ∀ c ∈ a, IsMemberChar c :=
    fun c hc => (ha.chars.2 c hc).imp_right Or.inl
  cases h with
  | every =>
    rw [List.forall_mem_singleton]
    decide
  | value ha => exact hvalue ha
  | range ha hb =>
    rw [List.forall_mem_append, List.forall_mem_cons]
    exact ⟨hvalue ha, by decide, hvalue hb⟩

theorem Stretch.chars (h : p.Stretch member first last step) : ∀ c ∈ member, IsMemberChar c := by
  cases h with
  | plain hbase => exact hbase.chars
  | stepped hbase hstep =>
    rw [List.forall_mem_append, List.forall_mem_cons]
    exact ⟨hbase.chars, by decide,
      fun c hc => Or.inr (Or.inl (isLiteralChar_of_integer? hstep.1 hc))⟩

end Position

/-! ### Fields -/

theorem Field.members_upperText (raw : String) :
    Field.members (upperText raw) = (Field.members raw).map Text.upper := by
  rw [Field.members, upperText, String.toList_ofList, Text.segments_upper]
  · rfl
  · intro c hc
    rw [beq_iff_eq] at hc
    exact hc ▸ by decide

namespace ValueSet

open Text

variable {p : Position} {raw : String} {set : ValueSet}

theorem read_upper_eq_ok_iff (plain : IsPlain raw.toList) :
    read p (upperText raw) = .ok set ↔ read p raw = .ok set := by
  simp only [read_eq_ok_iff, Field.members_upperText]
  refine exists_congr fun spans => and_congr_left fun _ => readAll_map_eq_ok_iff ?_
  intro member hmember span
  exact Position.readSpan_upper_eq_ok_iff (plain.subset (subset_of_mem_segments hmember))

theorem chars_of_read (h : read p raw = .ok set) :
    ∀ c ∈ raw.toList, c = ',' ∨ Position.IsMemberChar c := by
  intro c hc
  rcases mem_segments (p := (· == ',')) hc with hcomma | ⟨member, hmember, hc⟩
  · rw [beq_iff_eq] at hcomma
    exact Or.inl hcomma
  · obtain ⟨_, _, _, hstretch⟩ := stretch_of_read h hmember
    exact Or.inr (hstretch.chars c hc)

theorem isPlain_of_read (h : read p raw = .ok set) : IsPlain raw.toList := by
  rintro c hc (rfl | rfl)
  · exact absurd (chars_of_read h _ hc) (by decide)
  · exact absurd (chars_of_read h _ hc) (by decide)

end ValueSet

/-! ### Expressions -/

open Text

variable {e : String} {request : Request} {r : Recurrence}

theorem wordsOf_upperText (e : String) : wordsOf (upperText e) = (wordsOf e).map upperText := by
  rw [wordsOf, upperText, String.toList_ofList, words_upper, wordsOf, List.map_map, List.map_map]
  refine List.map_congr_left fun w _ => ?_
  rw [Function.comp_apply, Function.comp_apply, upperText, String.toList_ofList]

theorem mem_iff_wordsOf {c : Char} (h : isBlank c = false) :
    c ∈ e.toList ↔ ∃ w ∈ wordsOf e, c ∈ w.toList := by
  constructor
  · intro hc
    obtain ⟨w, hw, hcw⟩ := (isBlank_or_mem_words hc).resolve_left (by simp [h])
    exact ⟨_, List.mem_map_of_mem hw, by rwa [String.toList_ofList]⟩
  · rintro ⟨w, hw, hcw⟩
    obtain ⟨cs, hcs, rfl⟩ := List.mem_map.mp hw
    rw [String.toList_ofList] at hcw
    exact subset_of_mem_segments (List.mem_filter.mp hcs).1 hcw

/-- Stray letters fall inside words. -/
theorem isPlain_iff_wordsOf : IsPlain e.toList ↔ ∀ w ∈ wordsOf e, IsPlain w.toList := by
  have hblank {c : Char} (hc : IsStrayLetter c) : isBlank c = false := by
    rcases hc with rfl | rfl <;> decide
  constructor
  · intro plain w hw c hc stray
    exact plain c ((mem_iff_wordsOf (hblank stray)).mpr ⟨w, hw, hc⟩) stray
  · intro plain c hc stray
    obtain ⟨w, hw, hcw⟩ := (mem_iff_wordsOf (hblank stray)).mp hc
    exact plain w hw c hcw stray

/-- What is not empty and does not start like an alias is split into words. -/
theorem Request.ofExpression_eq (hne : e ≠ "") (hhead : e.toList.head? ≠ some '@') :
    Request.ofExpression e = match Fields.ofList? (wordsOf (upperText e)) with
      | some fields => .ok ⟨upperText e, fields⟩
      | none => .error (.fieldCount (wordsOf (upperText e)).length) := by
  have hnonempty : ¬ e.isEmpty = true := by rwa [String.isEmpty_iff]
  unfold ofExpression
  cases hfields : Fields.ofList? (wordsOf (upperText e)) <;>
    simp only [if_neg hnonempty, if_neg hhead, hfields]

theorem Request.ofExpression_cases (h : Request.ofExpression e = .ok request) :
    (request.text = e ∧ (e, request.fields) ∈ aliases) ∨
    (e.toList.head? ≠ some '@' ∧ request.text = upperText e ∧
      Fields.ofList? (wordsOf (upperText e)) = some request.fields) := by
  unfold Request.ofExpression at h
  split_ifs at h with hempty halias
  · split at h
    · next fields hfields =>
      cases h
      obtain ⟨before, after, heq, -⟩ := List.lookup_eq_some_iff.mp hfields
      exact Or.inl ⟨rfl, heq ▸ by simp⟩
    · cases h
  · dsimp only at h
    split at h
    · next fields hfields =>
      cases h
      exact Or.inr ⟨halias, rfl, hfields⟩
    · cases h

/-- No other character turns into the sign of an alias. -/
theorem head?_upperText_ne_at (h : e.toList.head? ≠ some '@') :
    (upperText e).toList.head? ≠ some '@' := by
  rw [upperText, String.toList_ofList]
  cases hcs : e.toList with
  | nil => simp [upper]
  | cons c cs =>
    rw [hcs, List.head?_cons] at h
    obtain ⟨d, ds, hd⟩ := List.exists_cons_of_ne_nil (upperChar_ne_nil c)
    rw [upper_cons, hd, List.cons_append, List.head?_cons]
    rintro ⟨⟩
    have hc := isCaseless_of_mem_upperChar (hd ▸ List.mem_cons_self) (by decide)
    rw [upperChar_of_caseless hc, List.cons.injEq] at hd
    exact h (congrArg some hd.1)

/-- The scheduler splits what is put to it as the parser did. -/
theorem splitExpression_of_request (h : Request.ofExpression e = .ok request) :
    splitExpression request.text = .ok request.fields := by
  have haliases : ∀ a ∈ aliases, splitExpression a.1 = .ok a.2 := by decide
  obtain ⟨htext, hfields⟩ | ⟨hhead, htext, hfields⟩ := Request.ofExpression_cases h
  · rw [htext]
    exact haliases _ hfields
  · rw [htext, splitExpression_eq_ok_iff (head?_upperText_ne_at hhead), hfields]

theorem ofExpression_text (h : Request.ofExpression e = .ok request) :
    Recurrence.ofExpression request.text = Recurrence.ofFields request.fields := by
  rw [Recurrence.ofExpression, splitExpression_of_request h]
  rfl

/-- Without stray letters, the expression as it was written has the same recurrence. -/
theorem ofExpression_of_isPlain (h : Request.ofExpression e = .ok request)
    (hr : Recurrence.ofFields request.fields = .ok r) (plain : IsPlain e.toList) :
    Recurrence.ofExpression e = .ok r := by
  obtain ⟨htext, -⟩ | ⟨hhead, htext, hfields⟩ := Request.ofExpression_cases h
  · rw [← hr, ← ofExpression_text h, htext]
  · rw [wordsOf_upperText, Fields.ofList?_map_eq_some_iff] at hfields
    obtain ⟨raw, hraw, hupper⟩ := hfields
    rw [Recurrence.ofExpression_eq_ok_iff]
    refine ⟨raw, .asWords hhead (Fields.ofList?_eq_some_iff.mp hraw), ?_⟩
    rw [Recurrence.ofFields_eq_ok_iff] at hr ⊢
    intro p
    rw [← ValueSet.read_upper_eq_ok_iff, ← hupper p]
    · exact hr p
    · apply isPlain_iff_wordsOf.mp plain
      rw [Fields.ofList?_eq_some_iff.mp hraw]
      exact Fields.mem_toList_iff.mpr ⟨p, rfl⟩

theorem isPlain_of_ofExpression (h : Request.ofExpression e = .ok request)
    (hr : Recurrence.ofExpression e = .ok r) : IsPlain e.toList := by
  have haliases : ∀ a ∈ aliases, IsPlain a.1.toList := by decide
  obtain ⟨-, hfields⟩ | ⟨hhead, -, -⟩ := Request.ofExpression_cases h
  · exact haliases _ hfields
  · obtain ⟨raw, hspells, hraw⟩ := Recurrence.ofExpression_eq_ok_iff.mp hr
    rw [isPlain_iff_wordsOf, hspells.words hhead]
    intro w hw
    obtain ⟨p, rfl⟩ := Fields.mem_toList_iff.mp hw
    exact ValueSet.isPlain_of_read (Recurrence.ofFields_eq_ok_iff.mp hraw p)

theorem Parser.parse_eq_ok_iff {parser : Parser} {s : Schedule} :
    parser.parse e = .ok s ↔ ∃ request, Request.ofExpression e = .ok request ∧
      parser.scheduler.validate request.text = .ok () ∧
      parser.readFields request.fields = .ok s.fields ∧ s.original = e := by
  have hanswer (request : Request) : parser.answer e request = .ok s ↔
      parser.scheduler.validate request.text = .ok () ∧
        parser.readFields request.fields = .ok s.fields ∧ s.original = e := by
    unfold Parser.answer
    cases parser.scheduler.validate request.text with
    | error rejection => simp
    | ok _ =>
      cases parser.readFields request.fields with
      | error fault => simp
      | ok fields =>
        obtain ⟨original, fields'⟩ := s
        simp only [Except.ok.injEq, Schedule.mk.injEq, true_and]
        tauto
  rw [Parser.parse]
  exact bind_eq_ok_iff.trans (exists_congr fun request => and_congr_right fun _ => hanswer request)

/-- What the default parser accepts has a recurrence, which its five fields give. -/
theorem Parser.recurrence_of_parse {s : Schedule} (h : ({} : Parser).parse e = .ok s) :
    ∃ request r, Request.ofExpression e = .ok request ∧
      Recurrence.ofFields request.fields = .ok r ∧
      ({} : Parser).readFields request.fields = .ok s.fields := by
  obtain ⟨request, hrequest, hvalid, hfields, -⟩ := Parser.parse_eq_ok_iff.mp h
  obtain ⟨r, hr⟩ := calendarScheduler_validate_eq_ok_iff.mp hvalid
  rw [ofExpression_text hrequest] at hr
  exact ⟨request, r, hrequest, hr, hfields⟩

/-- Of a scheduler, a parser asks for no more than whether it accepts an expression. -/
theorem Scheduler.FollowsCalendar.parse_eq {scheduler : Scheduler} (h : scheduler.FollowsCalendar)
    (e : String) : ({ scheduler } : Parser).parse e = ({} : Parser).parse e := by
  have hanswer : ({ scheduler } : Parser).answer e = ({} : Parser).answer e := by
    funext request
    simp only [Parser.answer, h.validate_eq]
    rfl
  rw [Parser.parse, Parser.parse, hanswer]

/-- The runs of an accepted expression can be asked for as it was written, with the same answers as
for the text that the parser put to the scheduler, if and only if it has no stray letter. With one
it is rejected every time, and counts as a schedule that never runs. -/
theorem next_as_written {s : Schedule} (accepted : ({} : Parser).parse e = .ok s) :
    ∃ request r, Request.ofExpression e = .ok request ∧
      Recurrence.ofFields request.fields = .ok r ∧
      (∀ start count horizon, calendarScheduler.next request.text start count horizon =
        (Scheduler.project r start count horizon).mapError .calendar) ∧
      ∀ scheduler : Scheduler, scheduler.FollowsCalendar →
        ({ scheduler } : Parser).parse e = .ok s ∧
        (IsPlain e.toList →
          (∀ start count horizon, scheduler.next e start count horizon =
            scheduler.next request.text start count horizon) ∧
          ∀ v : Validator, v.scheduler = scheduler →
            v.isEmptySchedule e = v.isEmptySchedule request.text) ∧
        (¬ IsPlain e.toList →
          (∀ start count horizon, ∃ rejection,
            scheduler.next e start count horizon = .error (.rejected rejection)) ∧
          ∀ v : Validator, v.scheduler = scheduler → ∀ horizon,
            v.now.addYears Validator.emptyHorizonYears = .ok horizon →
              v.isEmptySchedule e = .ok true) := by
  obtain ⟨request, r, hrequest, hr, -⟩ := Parser.recurrence_of_parse accepted
  have htext := ofExpression_text hrequest
  rw [hr] at htext
  refine ⟨request, r, hrequest, hr, calendarScheduler_next_of_ok htext, ?_⟩
  intro scheduler follows
  refine ⟨(follows.parse_eq e).trans accepted, ?_, ?_⟩
  · intro plain
    have hwritten := ofExpression_of_isPlain hrequest hr plain
    have hnext := follows.next_congr (hwritten.trans htext.symm)
    refine ⟨fun start count horizon => by rw [hnext], fun v hv => ?_⟩
    simp only [Validator.isEmptySchedule, hv, hnext]
  · intro stray
    have hrejected : ∀ r, Recurrence.ofExpression e ≠ .ok r :=
      fun r hr => stray (isPlain_of_ofExpression hrequest hr)
    refine ⟨follows.next_of_rejected hrejected, fun v hv horizon hhorizon => ?_⟩
    obtain ⟨rejection, hnext⟩ := follows.next_of_rejected hrejected v.now 1 (some horizon)
    simp only [Validator.isEmptySchedule, hv, hhorizon, bind, Except.bind, hnext]
    rfl

/-- Names may be written in any case. -/
theorem next_as_written_mixed_case :
    ∃ s request, ({} : Parser).parse "0 5 * Jan-mar mON" = .ok s ∧
      Request.ofExpression "0 5 * Jan-mar mON" = .ok request ∧
      ∀ start count horizon, calendarScheduler.next "0 5 * Jan-mar mON" start count horizon =
        calendarScheduler.next request.text start count horizon := by
  obtain ⟨s, hs⟩ : ∃ s, ({} : Parser).parse "0 5 * Jan-mar mON" = .ok s :=
    exists_of_isOk (by decide)
  obtain ⟨request, r, hrequest, -, -, hall⟩ := next_as_written hs
  obtain ⟨-, hplain, -⟩ := hall calendarScheduler (Or.inl rfl)
  exact ⟨s, request, hs, hrequest, (hplain (by decide)).1⟩

/-- The name of Sunday with a long s is a name in upper case only. -/
theorem next_rejects_long_s :
    (∃ s, ({} : Parser).parse "* * * * ſun" = .ok s) ∧
      calendarScheduler.validate "* * * * SUN" = .ok () ∧
      Request.ofExpression "* * * * ſun" = .ok ⟨"* * * * SUN", ⟨"*", "*", "*", "*", "SUN"⟩⟩ ∧
      ∀ start count horizon, calendarScheduler.next "* * * * ſun" start count horizon =
        .error (.rejected (GrammarFault.notANumber "ſun" .dayOfWeek).toRejection) := by
  refine ⟨exists_of_isOk (by decide), by decide, by decide, ?_⟩
  intro start count horizon
  have hfault : Recurrence.ofExpression "* * * * ſun" = .error (.notANumber "ſun" .dayOfWeek) := by
    decide
  simp only [calendarScheduler, hfault]

end CronLint
