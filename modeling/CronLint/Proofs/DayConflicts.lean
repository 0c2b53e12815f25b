import CronLint.Proofs.Clockwork
import CronLint.Proofs.Findings
import CronLint.Proofs.TwoReadings

/-!
# The conflict of two day fields

Whether a day field is restricted is decided twice: the parser takes it to be unless it is a lone
wildcard, the scheduler unless one of its members is a wildcard. So they differ on lists with a
wildcard, and there the report tells of a choice between days that the scheduler does not give.
-/
namespace CronLint

open Calendar Text

def IsLoneWildcard (raw : String) : Prop :=
  ∃ member, Field.members raw = [member] ∧ Position.IsWildcard member

theorem IsLoneWildcard.not_restricted {raw : String} (h : IsLoneWildcard raw) :
    ¬ Restricted raw := by
  obtain ⟨member, hmembers, hwildcard⟩ := h
  intro hrestricted
  exact hrestricted member (by rw [hmembers]; exact List.mem_cons_self) hwildcard

theorem Position.Stretch.isStep {p : Position} {base s : List Char} {first last step : Int}
    (h : p.Stretch (base ++ '/' :: s) first last step) (hslash : '/' ∉ base) :
    Position.IsStep s step := by
  generalize heq : base ++ '/' :: s = member at h
  cases h with
  | plain hbase => exact absurd (by simp [← heq]) hbase.slash_notMem
  | stepped hbase hstep =>
    obtain ⟨-, rfl⟩ := append_cons_inj hslash hbase.slash_notMem heq
    exact hstep

/-! ### Parts -/

namespace Part

variable {symbols : Symbols} {base member : List Char} {step k : Int}

theorem readBase_eq_every_iff :
    readBase symbols base step = .ok (.every k) ↔ base = ['*'] ∧ step = k := by
  unfold readBase
  constructor
  · intro h
    split_ifs at h with hstar
    · cases pure_eq_ok_iff.mp h
      exact ⟨hstar, rfl⟩
    · split at h <;> simp only [bind_eq_ok_iff, pure_eq_ok_iff, reduceCtorEq, and_false,
        exists_false] at h
  · rintro ⟨rfl, rfl⟩
    rfl

theorem read_eq_every_iff : read symbols member = .ok (.every k) ↔
    (member = ['*'] ∧ k = 1) ∨ ∃ s, member = ['*'] ++ '/' :: s ∧ integer? s = some k := by
  unfold read
  constructor
  · intro h
    split at h
    · next base hbreak =>
      obtain ⟨rfl, -⟩ := breakOn_eq_none_iff.mp hbreak
      obtain ⟨rfl, rfl⟩ := readBase_eq_every_iff.mp h
      exact Or.inl ⟨rfl, rfl⟩
    · next base stepText hbreak =>
      obtain ⟨rfl, -⟩ := breakOn_eq_some_iff.mp hbreak
      split at h
      · next step hstep =>
        obtain ⟨rfl, rfl⟩ := readBase_eq_every_iff.mp h
        exact Or.inr ⟨stepText, rfl, hstep⟩
      · cases h
  · rintro (⟨rfl, rfl⟩ | ⟨s, rfl, hs⟩)
    · rfl
    · rw [breakOn_append_cons (by decide)]
      simp only [hs]
      rfl

end Part

namespace Field

variable {p : Position} {raw : String} {set : ValueSet} {f : Field}

theorem isEvery_iff_parts : f.isEvery = true ↔ ∃ k ≤ 1, f.parts = [.every k] := by
  unfold isEvery
  split
  · next k hparts => simp [hparts]
  · next hparts =>
    simp only [Bool.false_eq_true, false_iff]
    rintro ⟨k, -, heq⟩
    exact hparts k heq

theorem isEvery_iff (hset : ValueSet.read p raw = .ok set)
    (hfield : Field.read Symbols.english raw p.low p.high = .ok f) :
    f.isEvery = true ↔ IsLoneWildcard raw := by
  have hparts := readAll_eq_ok_iff.mp (Field.read_eq_ok_iff.mp hfield).1
  rw [isEvery_iff_parts]
  constructor
  · rintro ⟨k, hk, heq⟩
    rw [heq, List.forall₂_cons_right_iff] at hparts
    obtain ⟨member, rest, hread, hrest, hmembers⟩ := hparts
    obtain rfl := List.forall₂_nil_right_iff.mp hrest
    refine ⟨member, hmembers, ?_⟩
    obtain ⟨rfl, -⟩ | ⟨s, rfl, hs⟩ := Part.read_eq_every_iff.mp hread
    · exact Or.inl rfl
    · -- The scheduler has no steps below one.
      obtain ⟨first, last, step, hstretch⟩ :=
        ValueSet.stretch_of_read hset (hmembers ▸ List.mem_cons_self)
      obtain ⟨hs', hpos⟩ := hstretch.isStep (by decide)
      obtain rfl := Option.some.inj (hs.symm.trans hs')
      exact Or.inr ⟨s, rfl, by rw [hs, Option.some.injEq]; omega⟩
  · rintro ⟨member, hmembers, hwildcard⟩
    rw [hmembers, List.forall₂_cons_left_iff] at hparts
    obtain ⟨part, rest, hread, hrest, heq⟩ := hparts
    obtain rfl := List.forall₂_nil_left_iff.mp hrest
    have hevery : Part.read Symbols.english member = .ok (.every 1) := by
      rw [Part.read_eq_every_iff]
      exact hwildcard.imp_left fun h => ⟨h, rfl⟩
    obtain rfl := Except.ok.inj (hevery.symm.trans hread)
    exact ⟨1, le_rfl, heq⟩

end Field

/-! ### Expressions -/

section

variable {raw : Fields String} {r : Recurrence} {s : Schedule}

theorem Schedule.restrictsBothDays_iff (hr : Recurrence.ofFields raw = .ok r)
    (hfields : ({} : Parser).readFields raw = .ok s.fields) :
    s.restrictsBothDays = true ↔
      ¬ IsLoneWildcard raw.dayOfMonth ∧ ¬ IsLoneWildcard raw.dayOfWeek := by
  have hsets := Recurrence.ofFields_eq_ok_iff.mp hr
  have hread := Fields.traverse_eq_ok_iff.mp hfields
  have hday := Field.isEvery_iff (hsets .dayOfMonth) (hread .dayOfMonth)
  have hweek := Field.isEvery_iff (hsets .dayOfWeek) (hread .dayOfWeek)
  simp only [Fields.get] at hday hweek
  rw [restrictsBothDays, Bool.and_eq_true, Bool.not_eq_true', Bool.not_eq_true',
    ← Bool.not_eq_true, ← Bool.not_eq_true, hday, hweek]

/-- The two decisions agree unless a wildcard is one of several members. -/
theorem Schedule.restrictsBothDays_eq_eitherDay_iff (hr : Recurrence.ofFields raw = .ok r)
    (hfields : ({} : Parser).readFields raw = .ok s.fields) :
    s.restrictsBothDays = r.eitherDay ↔ IsLoneWildcard raw.dayOfMonth ∨
      IsLoneWildcard raw.dayOfWeek ∨ Restricted raw.dayOfMonth ∧ Restricted raw.dayOfWeek := by
  have hday : IsLoneWildcard raw.dayOfMonth → ¬ Restricted raw.dayOfMonth :=
    IsLoneWildcard.not_restricted
  have hweek : IsLoneWildcard raw.dayOfWeek → ¬ Restricted raw.dayOfWeek :=
    IsLoneWildcard.not_restricted
  rw [Bool.eq_iff_iff, restrictsBothDays_iff hr hfields, Scheduler.eitherDay_iff hr]
  tauto

end

/-- All schedulers of the calendar serve a parser alike. -/
theorem Parser.parse_eq_of_follows {parser : Parser} (english : parser.symbols = Symbols.english)
    (follows : parser.scheduler.FollowsCalendar) (e : String) :
    parser.parse e = ({} : Parser).parse e := by
  have hanswer : parser.answer e = ({} : Parser).answer e := by
    funext request
    simp only [answer, readFields, follows.validate_eq, english]
  rw [parse, hanswer]
  rfl

namespace Validator

variable {v : Validator} {e : String} {s : Schedule}

/-- A parsed expression is reported to restrict both day fields if neither is a lone wildcard. The
scheduler gives a choice between days in fewer cases: if no member of either is a wildcard. Both
agree unless a wildcard stands among other members. -/
theorem conflict_reported_iff (english : v.parser.symbols = Symbols.english)
    (follows : v.scheduler.FollowsCalendar) (reading : v.now.IsClockReading)
    (accepted : v.parser.parse e = .ok s) :
    ∃ request r, Request.ofExpression e = .ok request ∧
      Recurrence.ofExpression request.text = .ok r ∧
      (IsPlain e.toList → Recurrence.ofExpression e = .ok r) ∧
      (s.restrictsBothDays = true ↔ ¬ IsLoneWildcard request.fields.dayOfMonth ∧
        ¬ IsLoneWildcard request.fields.dayOfWeek) ∧
      (r.eitherDay = true ↔
        Restricted request.fields.dayOfMonth ∧ Restricted request.fields.dayOfWeek) ∧
      (s.restrictsBothDays = r.eitherDay ↔ IsLoneWildcard request.fields.dayOfMonth ∨
        IsLoneWildcard request.fields.dayOfWeek ∨
        Restricted request.fields.dayOfMonth ∧ Restricted request.fields.dayOfWeek) ∧
      (∃ report, v.checkExpression e = .ok report ∧
        (.domDowConflict ∈ report.codes ↔ s.restrictsBothDays = true)) ∧
      ∀ job : Job, job.expression = e → job.fault = none → ∃ report, v.jobReport job = .ok report ∧
        (.domDowConflict ∈ report.codes ↔ s.restrictsBothDays = true) := by
  have hparse := accepted
  rw [Parser.parse_eq_of_follows english follows] at hparse
  obtain ⟨request, r, hrequest, hr, hfields⟩ := Parser.recurrence_of_parse hparse
  obtain ⟨empty, hempty⟩ := exists_isEmptySchedule follows reading e
  have hreport (line : Int) (command : String) : ∃ report,
      v.scheduleReport s e line command = .ok report ∧
        (.domDowConflict ∈ report.codes ↔ s.restrictsBothDays = true) := by
    obtain ⟨report, hreport, hconflict, -⟩ := exists_report_iff follows hempty s line command
    exact ⟨report, hreport, hconflict⟩
  refine ⟨request, r, hrequest, by rw [ofExpression_text hrequest, hr],
    ofExpression_of_isPlain hrequest hr, Schedule.restrictsBothDays_iff hr hfields,
    Scheduler.eitherDay_iff hr, Schedule.restrictsBothDays_eq_eitherDay_iff hr hfields, ?_, ?_⟩
  · simp only [checkExpression, accepted]
    exact hreport 0 ""
  · rintro job rfl hfault
    simp only [jobReport, jobReportOf, hfault, accepted]
    exact hreport job.line job.command

/-- Friday the 13th: two fields without a wildcard. -/
theorem conflict_reported_on_fridays :
    ∃ s r report, ({} : Parser).parse "0 0 13 * fri" = .ok s ∧
      Recurrence.ofExpression "0 0 13 * fri" = .ok r ∧
      s.restrictsBothDays = true ∧ r.eitherDay = true ∧
      (⟨{ scheduler := triggerScheduler searching }, {},
        .utc (Instant.wallAt ⟨2025, 1, 1⟩ 0)⟩ : Validator).checkExpression "0 0 13 * fri" =
          .ok report ∧ .domDowConflict ∈ report.codes := by
  obtain ⟨s, hs⟩ : ∃ s, ({} : Parser).parse "0 0 13 * fri" = .ok s := exists_of_isOk (by decide)
  obtain ⟨request, r, hrequest, -, hwritten, hconflict, heither, hagree, hreport, -⟩ :=
    conflict_reported_iff (v := ⟨{ scheduler := triggerScheduler searching }, {},
      .utc (Instant.wallAt ⟨2025, 1, 1⟩ 0)⟩) (e := "0 0 13 * fri") (s := s) rfl
      (Or.inr ⟨searching, searching_reliable, rfl⟩) ⟨⟨0, by decide⟩, by decide, by decide⟩ hs
  have hfields : Request.ofExpression "0 0 13 * fri" =
      .ok ⟨"0 0 13 * FRI", ⟨"0", "0", "13", "*", "FRI"⟩⟩ := by
    decide
  obtain rfl := Except.ok.inj (hfields.symm.trans hrequest)
  have hday : Field.members "13" = [['1', '3']] := by decide
  have hweek : Field.members "FRI" = [['F', 'R', 'I']] := by decide
  have hrestricted : Restricted "13" ∧ Restricted "FRI" := by
    simp [Restricted, hday, hweek, Position.IsWildcard]
  have hchoice := heither.mpr hrestricted
  have hboth := (hagree.mpr (Or.inr (Or.inr hrestricted))).trans hchoice
  obtain ⟨report, hreport, hcodes⟩ := hreport
  exact ⟨s, r, report, hs, hwritten (by decide), hboth, hchoice, hreport, hcodes.mpr hboth⟩

/-- The report tells of a choice between days, but the scheduler does not give it: 5 January 2025 is
no Monday. -/
theorem conflict_reported_without_choice :
    ∃ s r report, ({} : Parser).parse "0 0 *,5 * 1" = .ok s ∧
      Recurrence.ofExpression "0 0 *,5 * 1" = .ok r ∧
      s.restrictsBothDays = true ∧ r.eitherDay = false ∧
      r.onDay (⟨2025, 1, 5⟩ : Date).dayNumber = false ∧
      (⟨{}, {}, .utc (Instant.wallAt ⟨2025, 1, 1⟩ 0)⟩ : Validator).checkExpression "0 0 *,5 * 1" =
        .ok report ∧ .domDowConflict ∈ report.codes := by
  have hparsed : (({} : Parser).parse "0 0 *,5 * 1").map Schedule.restrictsBothDays = .ok true := by
    decide
  have hdays : (Recurrence.ofExpression "0 0 *,5 * 1").map
      (fun r => (r.eitherDay, r.onDay (⟨2025, 1, 5⟩ : Date).dayNumber)) = .ok (false, false) := by
    decide
  have hchecked : ((⟨{}, {}, .utc (Instant.wallAt ⟨2025, 1, 1⟩ 0)⟩ : Validator).checkExpression
      "0 0 *,5 * 1").map Report.codes = .ok [.domDowConflict] := by
    decide
  obtain ⟨s, hs, hboth⟩ := map_eq_ok_iff.mp hparsed
  obtain ⟨r, hr, hday⟩ := map_eq_ok_iff.mp hdays
  obtain ⟨report, hreport, hcodes⟩ := map_eq_ok_iff.mp hchecked
  rw [Prod.mk.injEq] at hday
  exact ⟨s, r, report, hs, hr, hboth, hday.1, hday.2, hreport, by rw [hcodes]; decide⟩

end Validator

end CronLint
