import CronLint.Proofs.ParseVerdicts

/-!
# Reports of values out of bounds

The scheduler complains about the first member that it cannot read. If that one is well formed, it
is out of bounds or has its ends in the wrong order. The lower end alone is held against the lower
bound, and the upper end against the upper one; after a single value with a step, the upper end is
the upper bound itself. A value beyond a bound that this leaves out counts as a wrong order.
-/
namespace CronLint

open Text

namespace Position

variable {p : Position} {member : List Char} {first last step : Int} {runsOn : Bool}

/-- How a well-formed member is written: its ends, and whether it runs on to the upper bound as a
single value with a step does. Both ends of a single value are the value, and those of an asterisk
the bounds. -/
inductive Written (p : Position) :
    (member : List Char) → (first last : Int) → (runsOn : Bool) → Prop
  | plain {base : List Char} {first last : Int} {closed : Bool} :
      p.Base base first last closed → Written p base first last false
  | stepped {base s : List Char} {first last step : Int} {closed : Bool} :
      p.Base base first last closed → IsStep s step →
        Written p (base ++ '/' :: s) first last (!closed)

theorem Written.exists_stretch (h : p.Written member first last runsOn) :
    ∃ step, p.Stretch member first (if runsOn then p.high else last) step := by
  cases h with
  | plain hbase => exact ⟨1, .plain hbase⟩
  | @stepped _ _ _ _ step closed hbase hstep =>
    have hstretch := Stretch.stepped hbase hstep
    cases closed with
    | true => exact ⟨step, hstretch⟩
    | false => exact ⟨step, hstretch⟩

theorem Written.upper (h : p.Written member first last runsOn) :
    p.Written (upper member) first last runsOn := by
  cases h with
  | plain hbase => exact .plain hbase.upper
  | stepped hbase hstep =>
    rw [upper_append, upper_cons, upperChar_of_caseless (by decide), List.singleton_append]
    exact .stepped hbase.upper ⟨by rw [integer?_upper, hstep.1], hstep.2⟩

theorem Stretch.isMember_iff (h : p.Stretch member first last step) :
    p.IsMember member ↔ p.low ≤ first ∧ first ≤ last ∧ last ≤ p.high := by
  rw [← exists_readSpan_iff, readSpan_of_stretch h]
  simp only [spanBetween_eq_ok_iff]
  constructor
  · rintro ⟨_, hbounds, -⟩
    exact hbounds
  · intro hbounds
    exact ⟨_, hbounds, rfl⟩

theorem Written.kind_of_readSpan (h : p.Written member first last runsOn) {fault : GrammarFault}
    (hfault : p.readSpan member = .error fault) : fault.kind =
      if first < p.low ∨ runsOn = false ∧ p.high < last then .outOfRange else .grammar := by
  obtain ⟨step, hstretch⟩ := h.exists_stretch
  rw [readSpan_of_stretch hstretch] at hfault
  rw [kind_of_spanBetween hfault]
  cases runsOn with
  | true => simp
  | false => simp

end Position

/-- The first member that cannot be read, with the fields and the members of a field taken from left
to right. -/
structure FirstOffender (raw : Fields String) (p : Position) (member : List Char) : Prop where
  fields : ∃ before after, Position.all = before ++ p :: after ∧ ∀ q ∈ before, q.IsField (raw.get q)
  members : ∃ before after, Field.members (raw.get p) = before ++ member :: after ∧
    ∀ m ∈ before, p.IsMember m
  offends : ¬ p.IsMember member

variable {p : Position} {raw : Fields String} {member : List Char} {fault : GrammarFault}
  {first last : Int} {runsOn : Bool}

theorem Position.IsMember.upper (h : p.IsMember member) : p.IsMember (upper member) := by
  obtain ⟨first, last, step, hstretch, hbounds⟩ := h
  exact ⟨first, last, step, hstretch.upper, hbounds⟩

theorem Position.IsField.upper {field : String} (h : p.IsField field) :
    p.IsField (upperText field) := by
  intro member hmember
  rw [Field.members_upperText, List.mem_map] at hmember
  obtain ⟨m, hm, rfl⟩ := hmember
  exact (h m hm).upper

theorem Position.Written.isMember_upper_iff (h : p.Written member first last runsOn) :
    p.IsMember (Text.upper member) ↔ p.IsMember member := by
  obtain ⟨step, hstretch⟩ := h.exists_stretch
  rw [hstretch.isMember_iff, hstretch.upper.isMember_iff]

namespace FirstOffender

theorem exists_fault (h : FirstOffender raw p member) :
    ∃ fault, p.readSpan member = .error fault := by
  cases hread : p.readSpan member with
  | ok span => exact absurd (Position.exists_readSpan_iff.mp ⟨span, hread⟩) h.offends
  | error fault => exact ⟨fault, rfl⟩

theorem ofFields_eq (h : FirstOffender raw p member) (hfault : p.readSpan member = .error fault) :
    Recurrence.ofFields raw = .error fault := by
  obtain ⟨fieldsBefore, fieldsAfter, hall, hfields⟩ := h.fields
  obtain ⟨before, after, hmembers, hread⟩ := h.members
  have hspans : readAll p.readSpan (Field.members (raw.get p)) = .error fault := by
    refine readAll_eq_error_iff.mpr ⟨before, member, after, hmembers, fun m hm => ?_, hfault⟩
    exact Position.exists_readSpan_iff.mpr (hread m hm)
  have hsets : raw.traverse ValueSet.read = .error fault := by
    refine Fields.traverse_eq_error_iff.mpr ⟨fieldsBefore, p, fieldsAfter, hall, fun q hq => ?_, ?_⟩
    · exact ValueSet.exists_read_iff.mpr (hfields q hq)
    · exact map_eq_error_iff.mpr hspans
  exact map_eq_error_iff.mpr hsets

theorem validate_eq (h : FirstOffender raw p member) (hfault : p.readSpan member = .error fault)
    {e : String} (hspells : Spells e raw) :
    calendarScheduler.validate e = .error fault.toRejection := by
  have hr : Recurrence.ofExpression e = .error fault := by
    rw [Recurrence.ofExpression, splitExpression_eq_ok_iff_spells.mpr hspells]
    exact h.ofFields_eq hfault
  simp only [calendarScheduler, hr]
  rfl

theorem upper (h : FirstOffender raw p member) (written : p.Written member first last runsOn) :
    FirstOffender (Fields.ofFn fun q => upperText (raw.get q)) p (Text.upper member) where
  fields := by
    obtain ⟨before, after, hall, hfields⟩ := h.fields
    refine ⟨before, after, hall, fun q hq => ?_⟩
    rw [Fields.get_ofFn]
    exact (hfields q hq).upper
  members := by
    obtain ⟨before, after, hmembers, hread⟩ := h.members
    refine ⟨before.map Text.upper, after.map Text.upper, ?_, ?_⟩
    · rw [Fields.get_ofFn, Field.members_upperText, hmembers, List.map_append, List.map_cons]
    · intro m hm
      obtain ⟨m', hm', rfl⟩ := List.mem_map.mp hm
      exact (hread m' hm').upper
  offends := mt written.isMember_upper_iff.mp h.offends

end FirstOffender

/-- A well-formed offender with both ends in bounds has them in the wrong order. -/
theorem Position.Written.reversed_of_offends (h : p.Written member first last runsOn)
    (offends : ¬ p.IsMember member) (hfirst : p.low ≤ first ∧ first ≤ p.high)
    (hlast : p.low ≤ last ∧ last ≤ p.high) : runsOn = false ∧ last < first := by
  obtain ⟨step, hstretch⟩ := h.exists_stretch
  rw [hstretch.isMember_iff] at offends
  cases runsOn with
  | true => exact absurd ⟨hfirst.1, hfirst.2, le_rfl⟩ offends
  | false =>
    refine ⟨rfl, ?_⟩
    by_contra hordered
    exact offends ⟨hfirst.1, by simpa using hordered, hlast.2⟩

/-- If the first member that cannot be read is well formed, the scheduler and the parser blame a
value out of bounds if and only if the lower end is below the lower bound, or the upper end is above
the upper bound and does not run on. Else they blame the grammar, even if some value is out of
bounds; if none is, the ends are in the wrong order. -/
theorem offender_blamed_iff {e : String} (hhead : e.toList.head? ≠ some '@')
    (hwords : wordsOf e = raw.toList) (offender : FirstOffender raw p member)
    (written : p.Written member first last runsOn) :
    ∃ r fault, calendarScheduler.validate e = .error r ∧ ({} : Parser).parse e = .error fault ∧
      fault.kind = r.kind ∧
      (r.kind = .outOfRange ↔ first < p.low ∨ runsOn = false ∧ p.high < last) ∧
      (r.kind = .grammar ↔ ¬ (first < p.low ∨ runsOn = false ∧ p.high < last)) ∧
      (r.kind = .outOfRange → ∃ text, fault.message = "value out of range: " ++ text) ∧
      (r.kind = .grammar → ∃ text, fault.message = "failed to parse expression: " ++ text) ∧
      ((p.low ≤ first ∧ first ≤ p.high) ∧ p.low ≤ last ∧ last ≤ p.high →
        last < first ∧ r.kind = .grammar) := by
  obtain ⟨f, hf⟩ := offender.exists_fault
  obtain ⟨f', hf'⟩ := (offender.upper written).exists_fault
  have hupper : Spells (upperText e) (Fields.ofFn fun q => upperText (raw.get q)) := by
    refine .asWords (head?_upperText_ne_at hhead) ?_
    rw [wordsOf_upperText, hwords]
    rfl
  have hrejects : Rejects e f'.toRejection :=
    ⟨hhead, by rw [hwords]; rfl, (offender.upper written).validate_eq hf' hupper⟩
  have hkind := written.kind_of_readSpan hf
  have hsame : f'.kind = f.kind := (written.upper.kind_of_readSpan hf').trans hkind.symm
  have hgrammar : f.kind = .grammar ↔ ¬ (first < p.low ∨ runsOn = false ∧ p.high < last) := by
    rw [hkind]
    split_ifs with hblamed <;> simp [hblamed]
  refine ⟨f.toRejection, .rejected f'.toRejection,
    offender.validate_eq hf (.asWords hhead hwords), Parser.parse_of_rejects hrejects, hsame, ?_,
    hgrammar, ?_, ?_, ?_⟩
  · change f.kind = .outOfRange ↔ _
    rw [hkind]
    split_ifs with hblamed <;> simp [hblamed]
  · intro h
    exact ⟨_, ParseError.message_of_outOfRange (hsame.trans h)⟩
  · intro h
    exact ⟨_, ParseError.message_of_grammar (hsame.trans h)⟩
  · rintro ⟨hfirst, hlast⟩
    obtain ⟨-, hreversed⟩ := written.reversed_of_offends offender.offends hfirst hlast
    exact ⟨hreversed, hgrammar.mpr (by omega)⟩

/-- A range of hours that ends beyond the bounds, behind a field and a member in bounds. -/
theorem offender_blamed_hour30 :
    FirstOffender ⟨"0", "1,22-30", "*", "*", "*"⟩ .hour "22-30".toList ∧
    Position.hour.Written "22-30".toList 22 30 false ∧
    ∃ r fault, calendarScheduler.validate "0 1,22-30 * * *" = .error r ∧
      ({} : Parser).parse "0 1,22-30 * * *" = .error fault ∧ fault.kind = .outOfRange ∧
      r.kind = .outOfRange ∧ ∃ text, fault.message = "value out of range: " ++ text := by
  have hfirst : Position.hour.Denotes ['2', '2'] 22 := .literal (by decide) (by decide)
  have hlast : Position.hour.Denotes ['3', '0'] 30 := .literal (by decide) (by decide)
  have hrange : Position.hour.Base "22-30".toList 22 30 true := .range hfirst hlast
  have hminute : Position.minute.IsField "0" :=
    Position.isField_literal (show Field.members "0" = [['0']] from rfl) (by decide)
      (show integer? ['0'] = some 0 by decide) (by decide)
  have hone : Position.hour.IsMember ['1'] :=
    ⟨1, 1, 1, .plain (.value (.literal (by decide) (by decide))), by decide⟩
  have hoffends : ¬ Position.hour.IsMember "22-30".toList := by
    rw [(Position.Stretch.plain hrange).isMember_iff]
    decide
  have offender : FirstOffender ⟨"0", "1,22-30", "*", "*", "*"⟩ .hour "22-30".toList :=
    ⟨⟨[.minute], _, rfl, by simpa [Fields.get] using hminute⟩,
      ⟨[['1']], [], rfl, by simpa using hone⟩, hoffends⟩
  obtain ⟨r, fault, hr, hfault, hsame, hout, -, hmessage, -⟩ :=
    offender_blamed_iff (e := "0 1,22-30 * * *") (by decide) rfl offender (.plain hrange)
  have hkind : r.kind = .outOfRange := hout.mpr (Or.inr ⟨rfl, by decide⟩)
  exact ⟨offender, .plain hrange, r, fault, hr, hfault, hsame.trans hkind, hkind, hmessage hkind⟩

/-- A minute beyond the bounds with a step counts as a wrong order: the member runs on to the upper
bound, which lies before it. -/
theorem steppedMinute99_blames_grammar :
    FirstOffender ⟨"99/5", "0", "*", "*", "*"⟩ .minute "99/5".toList ∧
    Position.minute.Written "99/5".toList 99 99 true ∧ (Position.minute.high : Int) < 99 ∧
    calendarScheduler.validate "99/5 0 * * *" =
      .error ⟨.grammar, "beginning of range (99) beyond end of range (59): 99/5", []⟩ ∧
    ∃ fault, ({} : Parser).parse "99/5 0 * * *" = .error fault ∧ fault.kind = .grammar := by
  have hvalue : Position.minute.Denotes ['9', '9'] 99 := .literal (by decide) (by decide)
  have hstep : Position.IsStep ['5'] 5 := ⟨by decide, by decide⟩
  have hwritten : Position.minute.Written "99/5".toList 99 99 true := .stepped (.value hvalue) hstep
  refine ⟨⟨⟨[], _, rfl, by simp⟩, ⟨[], [], rfl, by simp⟩, ?_⟩, hwritten, by decide, by decide, ?_⟩
  · obtain ⟨step, hstretch⟩ := hwritten.exists_stretch
    rw [hstretch.isMember_iff]
    decide
  · exact ⟨.rejected ⟨.grammar, "beginning of range (99) beyond end of range (59): 99/5", []⟩,
      Parser.parse_of_rejects ⟨by decide, by decide, by decide⟩, rfl⟩

/-- So does a range turned round whose beginning is above the upper bound or whose end is below the
lower one. -/
example : (calendarScheduler.validate "70-10 * * * *").mapError Rejection.kind = .error .grammar ∧
    (calendarScheduler.validate "* * 5-0 * *").mapError Rejection.kind = .error .grammar := by
  decide

end CronLint
