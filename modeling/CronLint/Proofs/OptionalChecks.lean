import CronLint.Proofs.JobBlocks
import CronLint.Proofs.SingleChecks

/-!
# Checks that can be switched off

The checks of frequencies, commands and overlaps only add remarks of their own. Whatever two
validators check besides, their reports on the same jobs have the same verdict, the same counts and
the same other issues, and what one of these checks finds does not depend on the others. A higher
limit of runs per day takes findings away, and the ones that stay tell the new limit.
-/
namespace CronLint

open Calendar

/-! ### Issues by their codes -/

def frequencyCodes : List Code := [.redundantPattern, .excessiveRuns]

def hygieneCodes : List Code :=
  [.missingAbsolutePath, .missingRedirection, .percentCharacter, .quotingIssue]

def overlapCodes : List Code := [.overlapDetected]

def optionalCodes : List Code := frequencyCodes ++ hygieneCodes ++ overlapCodes

namespace Issue

variable {codes : List Code} {issues : List Issue}

def withCodes (codes : List Code) (issues : List Issue) : List Issue :=
  issues.filter fun i => decide (i.code ∈ codes)

def withoutCodes (codes : List Code) (issues : List Issue) : List Issue :=
  issues.filter fun i => decide (i.code ∉ codes)

theorem withCodes_append (codes : List Code) (a b : List Issue) :
    withCodes codes (a ++ b) = withCodes codes a ++ withCodes codes b :=
  List.filter_append ..

theorem withoutCodes_append (codes : List Code) (a b : List Issue) :
    withoutCodes codes (a ++ b) = withoutCodes codes a ++ withoutCodes codes b :=
  List.filter_append ..

theorem withCodes_eq_nil (h : ∀ i ∈ issues, i.code ∉ codes) : withCodes codes issues = [] := by
  rw [withCodes, List.filter_eq_nil_iff]
  simpa using h

theorem withoutCodes_eq_nil (h : ∀ i ∈ issues, i.code ∈ codes) :
    withoutCodes codes issues = [] := by
  rw [withoutCodes, List.filter_eq_nil_iff]
  simpa using h

/-- Issues with codes of their own are not among those with other codes. -/
theorem withCodes_congr {own : List Code} {a b : List Issue} (ha : ∀ i ∈ a, i.code ∈ own)
    (hb : ∀ i ∈ b, i.code ∈ own) (h : (∀ code ∈ own, code ∉ codes) ∨ a = b) :
    withCodes codes a = withCodes codes b := by
  obtain hdisjoint | rfl := h
  · rw [withCodes_eq_nil fun i hi => hdisjoint _ (ha i hi),
      withCodes_eq_nil fun i hi => hdisjoint _ (hb i hi)]
  · rfl

theorem withCodes_map_atLine (codes : List Code) (issues : List Issue) (line : Int) :
    withCodes codes (issues.map (·.atLine line)) = (withCodes codes issues).map (·.atLine line) :=
  List.filter_map

theorem withoutCodes_map_atLine (codes : List Code) (issues : List Issue) (line : Int) :
    withoutCodes codes (issues.map (·.atLine line)) =
      (withoutCodes codes issues).map (·.atLine line) :=
  List.filter_map

end Issue

namespace Validator

variable {v : Validator} {s : Schedule} {e command : String} {line : Int} {job : Job}
  {jobs : List Job} {c d : Checks} {a b a' b' : List Issue} {limit limit' : Int}

/-! ### A higher limit -/

/-- What becomes of issues when the limit of runs per day is raised. A finding that there are too
many runs is told with the new limit, or it is dropped because they are not too many any more.
Nothing else changes. -/
inductive LimitRaised (limit limit' : Int) : List Issue → List Issue → Prop
  | nil : LimitRaised limit limit' [] []
  | keep {a b : List Issue} {i : Issue} (hcode : i.code ≠ .excessiveRuns) :
    LimitRaised limit limit' a b → LimitRaised limit limit' (i :: a) (i :: b)
  | retell {a b : List Issue} {i j : Issue} {runs : Nat} {e : String} (line : Int)
    (hi : excessIssues limit runs e = [i]) (hj : excessIssues limit' runs e = [j]) :
    LimitRaised limit limit' a b →
      LimitRaised limit limit' (i.atLine line :: a) (j.atLine line :: b)
  | drop {a b : List Issue} {i : Issue} {runs : Nat} {e : String} (line : Int)
    (hi : excessIssues limit runs e = [i]) (hnone : excessIssues limit' runs e = []) :
    LimitRaised limit limit' a b → LimitRaised limit limit' (i.atLine line :: a) b

namespace LimitRaised

theorem refl (h : ∀ i ∈ a, i.code ≠ .excessiveRuns) : LimitRaised limit limit' a a := by
  induction a with
  | nil => exact nil
  | cons i a ih =>
    obtain ⟨hi, ha⟩ := List.forall_mem_cons.mp h
    exact keep hi (ih ha)

theorem append (h : LimitRaised limit limit' a b) (h' : LimitRaised limit limit' a' b') :
    LimitRaised limit limit' (a ++ a') (b ++ b') := by
  induction h with
  | nil => exact h'
  | keep hcode _ ih => exact keep hcode ih
  | retell line hi hj _ ih => exact retell line hi hj ih
  | drop line hi hnone _ ih => exact drop line hi hnone ih

theorem map_atLine (h : LimitRaised limit limit' a b) (line : Int) :
    LimitRaised limit limit' (a.map (·.atLine line)) (b.map (·.atLine line)) := by
  induction h with
  | nil => exact nil
  | keep hcode _ ih => exact keep hcode ih
  | retell _ hi hj _ ih => exact (retell line hi hj ih :)
  | drop _ hi hnone _ ih => exact (drop line hi hnone ih :)

theorem excess (hle : limit ≤ limit') (runs : Nat) (e : String) :
    LimitRaised limit limit' (excessIssues limit runs e) (excessIssues limit' runs e) := by
  unfold excessIssues
  by_cases hmany : limit' < runs
  · have hmore : limit < runs := by omega
    rw [if_pos hmany, if_pos hmore]
    exact retell (e := e) 0 (if_pos hmore) (if_pos hmany) nil
  · rw [if_neg hmany]
    by_cases hmore : limit < runs
    · rw [if_pos hmore]
      exact drop (e := e) 0 (if_pos hmore) (if_neg hmany) nil
    · rw [if_neg hmore]
      exact nil

end LimitRaised

/-! ### Agreement on issues -/

/-- What two validators find if they differ in their checks only: the same but for optional
findings, and the same optional findings as far as they check alike. -/
structure IssuesAgree (c d : Checks) (a b : List Issue) : Prop where
  required : Issue.withoutCodes optionalCodes a = Issue.withoutCodes optionalCodes b
  frequency : c.frequency = d.frequency → c.maxRunsPerDay = d.maxRunsPerDay →
    Issue.withCodes frequencyCodes a = Issue.withCodes frequencyCodes b
  hygiene : c.hygiene = d.hygiene → Issue.withCodes hygieneCodes a = Issue.withCodes hygieneCodes b
  overlap : c.overlap = d.overlap → Issue.withCodes overlapCodes a = Issue.withCodes overlapCodes b
  limit : c.frequency = d.frequency → c.hygiene = d.hygiene → c.overlap = d.overlap →
    c.maxRunsPerDay ≤ d.maxRunsPerDay → LimitRaised c.maxRunsPerDay d.maxRunsPerDay a b

namespace IssuesAgree

theorem refl (c d : Checks) (h : ∀ i ∈ a, i.code ≠ .excessiveRuns) : IssuesAgree c d a a where
  required := rfl
  frequency _ _ := rfl
  hygiene _ := rfl
  overlap _ := rfl
  limit _ _ _ _ := .refl h

theorem append (h : IssuesAgree c d a b) (h' : IssuesAgree c d a' b') :
    IssuesAgree c d (a ++ a') (b ++ b') := by
  constructor
  · rw [Issue.withoutCodes_append, Issue.withoutCodes_append, h.required, h'.required]
  · intro hfrequency hlimit
    rw [Issue.withCodes_append, Issue.withCodes_append, h.frequency hfrequency hlimit,
      h'.frequency hfrequency hlimit]
  · intro hhygiene
    rw [Issue.withCodes_append, Issue.withCodes_append, h.hygiene hhygiene, h'.hygiene hhygiene]
  · intro hoverlap
    rw [Issue.withCodes_append, Issue.withCodes_append, h.overlap hoverlap, h'.overlap hoverlap]
  · intro hfrequency hhygiene hoverlap hle
    exact (h.limit hfrequency hhygiene hoverlap hle).append
      (h'.limit hfrequency hhygiene hoverlap hle)

theorem map_atLine (h : IssuesAgree c d a b) (line : Int) :
    IssuesAgree c d (a.map (·.atLine line)) (b.map (·.atLine line)) := by
  constructor
  · rw [Issue.withoutCodes_map_atLine, Issue.withoutCodes_map_atLine, h.required]
  · intro hfrequency hlimit
    rw [Issue.withCodes_map_atLine, Issue.withCodes_map_atLine, h.frequency hfrequency hlimit]
  · intro hhygiene
    rw [Issue.withCodes_map_atLine, Issue.withCodes_map_atLine, h.hygiene hhygiene]
  · intro hoverlap
    rw [Issue.withCodes_map_atLine, Issue.withCodes_map_atLine, h.overlap hoverlap]
  · intro hfrequency hhygiene hoverlap hle
    exact (h.limit hfrequency hhygiene hoverlap hle).map_atLine line

/-- Findings with codes of their own agree as soon as they are the same wherever these codes are
asked for. -/
theorem of_own {own : List Code} (hown : own ⊆ optionalCodes) (ha : ∀ i ∈ a, i.code ∈ own)
    (hb : ∀ i ∈ b, i.code ∈ own)
    (hfrequency : c.frequency = d.frequency → c.maxRunsPerDay = d.maxRunsPerDay →
      (∀ code ∈ own, code ∉ frequencyCodes) ∨ a = b)
    (hhygiene : c.hygiene = d.hygiene → (∀ code ∈ own, code ∉ hygieneCodes) ∨ a = b)
    (hoverlap : c.overlap = d.overlap → (∀ code ∈ own, code ∉ overlapCodes) ∨ a = b)
    (hlimit : c.frequency = d.frequency → c.hygiene = d.hygiene → c.overlap = d.overlap →
      c.maxRunsPerDay ≤ d.maxRunsPerDay → LimitRaised c.maxRunsPerDay d.maxRunsPerDay a b) :
    IssuesAgree c d a b where
  required := by
    rw [Issue.withoutCodes_eq_nil fun i hi => hown (ha i hi),
      Issue.withoutCodes_eq_nil fun i hi => hown (hb i hi)]
  frequency hon hsame := Issue.withCodes_congr ha hb (hfrequency hon hsame)
  hygiene hon := Issue.withCodes_congr ha hb (hhygiene hon)
  overlap hon := Issue.withCodes_congr ha hb (hoverlap hon)
  limit := hlimit

end IssuesAgree

/-! ### Findings of one check -/

theorem code_mem_of_sublist {codes : List Code} (h : (a.map Issue.code).Sublist codes) :
    ∀ i ∈ a, i.code ∈ codes :=
  fun _ hi => h.subset (List.mem_map_of_mem hi)

theorem notExcess_of_own {own : List Code} (hown : .excessiveRuns ∉ own)
    (h : ∀ i ∈ a, i.code ∈ own) : ∀ i ∈ a, i.code ≠ .excessiveRuns := by
  intro i hi hcode
  exact hown (hcode ▸ h i hi)

/-- With a higher limit, the same number of runs is found too high less often. -/
theorem frequencyFindings_raised (hon : c.frequency = d.frequency)
    (hle : c.maxRunsPerDay ≤ d.maxRunsPerDay) (ha : (v.withChecks c).frequencyFindings s e = .ok a)
    (hb : (v.withChecks d).frequencyFindings s e = .ok b) :
    LimitRaised c.maxRunsPerDay d.maxRunsPerDay a b := by
  have hunit : LimitRaised c.maxRunsPerDay d.maxRunsPerDay (unitStepIssues s e)
      (unitStepIssues s e) :=
    .refl (notExcess_of_own (by decide) (code_mem_of_sublist (codes_unitStepIssues s e)))
  have hscheduler : (v.withChecks c).scheduler = (v.withChecks d).scheduler := rfl
  have hfrequency : (v.withChecks c).checks.frequency = (v.withChecks d).checks.frequency := hon
  -- Both validators ask for the runs of the same day, if they do.
  obtain ⟨hoff, rfl⟩ | ⟨hasked, hruns⟩ := frequencyFindings_cases ha
  · obtain ⟨-, rfl⟩ | ⟨hasked, -⟩ := frequencyFindings_cases hb
    · exact .nil
    · simp [hfrequency, hasked] at hoff
  · obtain ⟨hoff, -⟩ | ⟨-, hruns'⟩ := frequencyFindings_cases hb
    · simp [hfrequency, hoff] at hasked
    · rw [hscheduler] at hruns
      obtain ⟨⟨r, hr⟩, rfl⟩ | ⟨runs, hr, rfl⟩ := hruns
      · obtain ⟨-, rfl⟩ | ⟨runs, hr', -⟩ := hruns'
        · exact hunit
        · cases hr.symm.trans hr'
      · obtain ⟨⟨r, hr'⟩, -⟩ | ⟨runs', hr', rfl⟩ := hruns'
        · cases hr.symm.trans hr'
        · obtain rfl : runs = runs' := Except.ok.inj (hr.symm.trans hr')
          exact hunit.append (.excess hle runs e)

theorem frequencyFindings_agree (ha : (v.withChecks c).frequencyFindings s e = .ok a)
    (hb : (v.withChecks d).frequencyFindings s e = .ok b) : IssuesAgree c d a b := by
  refine .of_own (by decide : frequencyCodes ⊆ optionalCodes)
    (code_mem_of_sublist (codes_frequencyFindings ha))
    (code_mem_of_sublist (codes_frequencyFindings hb)) ?_ ?_ ?_ ?_
  · intro hon hlimit
    have hsame :
        (v.withChecks c).frequencyFindings s e = (v.withChecks d).frequencyFindings s e := by
      cases c
      cases d
      subst hon hlimit
      rfl
    exact Or.inr (Except.ok.inj (ha.symm.trans (hsame.trans hb)))
  · exact fun _ => Or.inl (by decide)
  · exact fun _ => Or.inl (by decide)
  · exact fun hon _ _ hle => frequencyFindings_raised hon hle ha hb

theorem hygieneFindings_agree (c d : Checks) (command e : String) : IssuesAgree c d
    (if c.hygiene && !command.isEmpty then (Hygiene.issues command).map (·.about e) else [])
    (if d.hygiene && !command.isEmpty then (Hygiene.issues command).map (·.about e) else []) := by
  have hcodes (c : Checks) : ∀ i ∈ (if c.hygiene && !command.isEmpty then
      (Hygiene.issues command).map (·.about e) else []), i.code ∈ hygieneCodes := by
    intro i hi
    rw [List.mem_ite_nil_right] at hi
    obtain ⟨issue, hissue, rfl⟩ := List.mem_map.mp hi.2
    have hcode := code_mem_of_sublist (codes_hygieneFindings command) issue hissue
    change issue.code ∈ hygieneCodes
    revert hcode
    generalize issue.code = code
    revert code
    decide
  refine .of_own (by decide : hygieneCodes ⊆ optionalCodes) (hcodes c) (hcodes d) ?_ ?_ ?_ ?_
  · exact fun _ _ => Or.inl (by decide)
  · intro hon
    rw [hon]
    exact Or.inr rfl
  · exact fun _ => Or.inl (by decide)
  · intro _ hon _ _
    rw [hon]
    exact .refl (notExcess_of_own (by decide) (hcodes d))

theorem overlapFindings_agree (hwindow : c.overlapWindow = d.overlapWindow)
    (ha : (v.withChecks c).overlapFindings jobs = .ok a)
    (hb : (v.withChecks d).overlapFindings jobs = .ok b) : IssuesAgree c d a b := by
  have hcodes {c : Checks} {a : List Issue} (ha : (v.withChecks c).overlapFindings jobs = .ok a) :
      ∀ i ∈ a, i.code ∈ overlapCodes := by
    intro i hi
    rw [(overlapFindings_placeless ha i hi).1]
    decide
  have hsame (hon : c.overlap = d.overlap) : a = b := by
    have heq : (v.withChecks c).overlapFindings jobs = (v.withChecks d).overlapFindings jobs := by
      cases c
      cases d
      subst hon hwindow
      rfl
    exact Except.ok.inj (ha.symm.trans (heq.trans hb))
  refine .of_own (by decide : overlapCodes ⊆ optionalCodes) (hcodes ha) (hcodes hb) ?_ ?_ ?_ ?_
  · exact fun _ _ => Or.inl (by decide)
  · exact fun _ => Or.inl (by decide)
  · exact fun hon => Or.inr (hsame hon)
  · intro _ _ hon _
    rw [hsame hon]
    exact .refl (notExcess_of_own (by decide) (hcodes hb))

/-! ### One job -/

theorem findings_agree {empty : Bool} (ha : (v.withChecks c).frequencyFindings s e = .ok a)
    (hb : (v.withChecks d).frequencyFindings s e = .ok b) :
    IssuesAgree c d ((v.withChecks c).findings s e command empty a)
      ((v.withChecks d).findings s e command empty b) := by
  have hconflict : IssuesAgree c d (conflictIssues s e) (conflictIssues s e) :=
    .refl c d (notExcess_of_own (by decide) (code_mem_of_sublist (codes_conflictIssues s e)))
  have hempty : IssuesAgree c d (if empty then [emptyIssue e] else [])
      (if empty then [emptyIssue e] else []) := by
    apply IssuesAgree.refl
    intro i hi
    rw [List.mem_ite_nil_right, List.mem_singleton] at hi
    rw [hi.2]
    exact Code.noConfusion
  exact ((hconflict.append hempty).append (frequencyFindings_agree ha hb)).append
    (hygieneFindings_agree c d command e)

theorem jobReport_agree {r r' : Report} (hr : (v.withChecks c).jobReport job = .ok r)
    (hr' : (v.withChecks d).jobReport job = .ok r') : IssuesAgree c d r.issues r'.issues := by
  have hparse (message : String) : IssuesAgree c d [parseIssue message job.expression job.line]
      [parseIssue message job.expression job.line] := by
    apply IssuesAgree.refl
    intro i hi
    rw [List.mem_singleton.mp hi]
    exact Code.noConfusion
  unfold jobReport jobReportOf at hr hr'
  cases hfault : job.fault with
  | some fault =>
    simp only [hfault, Except.ok.injEq] at hr hr'
    rw [← hr, ← hr']
    exact hparse _
  | none =>
    have hparser : (v.withChecks c).parser = (v.withChecks d).parser := rfl
    simp only [hfault, hparser] at hr hr'
    cases hs : (v.withChecks d).parser.parse job.expression with
    | error fault =>
      simp only [hs, Except.ok.injEq] at hr hr'
      rw [← hr, ← hr']
      exact hparse _
    | ok s =>
      simp only [hs] at hr hr'
      obtain ⟨empty, a, hempty, ha, hissues⟩ := issues_of_scheduleReport hr
      obtain ⟨empty', b, hempty', hb, hissues'⟩ := issues_of_scheduleReport hr'
      obtain rfl : empty = empty' := Except.ok.inj (hempty.symm.trans hempty')
      rw [hissues, hissues']
      exact (findings_agree ha hb).map_atLine job.line

/-! ### All jobs -/

theorem jobReports_agree {r r' : Report} (hr : (v.withChecks c).jobReports jobs = .ok r)
    (hr' : (v.withChecks d).jobReports jobs = .ok r') : IssuesAgree c d r.issues r'.issues := by
  induction jobs generalizing r r' with
  | nil =>
    cases hr
    cases hr'
    exact .refl c d (by simp)
  | cons job jobs ih =>
    obtain ⟨a, rest, ha, hrest, rfl⟩ := jobReports_cons_eq_ok_iff.mp hr
    obtain ⟨b, rest', hb, hrest', rfl⟩ := jobReports_cons_eq_ok_iff.mp hr'
    exact (jobReport_agree ha hb).append (ih hrest hrest')

theorem checkJobs_agree {r r' : Report} (hwindow : c.overlapWindow = d.overlapWindow)
    (hr : (v.withChecks c).checkJobs jobs = .ok r)
    (hr' : (v.withChecks d).checkJobs jobs = .ok r') :
    IssuesAgree c d r.issues r'.issues := by
  obtain ⟨counted, overlaps, hcounted, hoverlaps, rfl⟩ := checkJobs_eq_ok_iff.mp hr
  obtain ⟨counted', overlaps', hcounted', hoverlaps', rfl⟩ := checkJobs_eq_ok_iff.mp hr'
  rw [Report.issues_extend, Report.issues_extend]
  exact (jobReports_agree hcounted hcounted').append
    (overlapFindings_agree hwindow hoverlaps hoverlaps')

/-- Two validators that differ in their checks only come to the same verdict and the same counts on
any jobs, if no check leaves the calendar. Their issues are the same but for what optional checks
find, and each of these finds the same if it is made alike. With a higher limit of runs per day,
findings that a schedule runs too often are dropped or told with the new limit, and nothing else
changes. -/
theorem optional_checks_agree (hwindow : c.overlapWindow = d.overlapWindow)
    (hc : (v.withChecks c).KeepsToCalendar jobs) (hd : (v.withChecks d).KeepsToCalendar jobs) :
    ∃ r r', (v.withChecks c).checkJobs jobs = .ok r ∧ (v.withChecks d).checkJobs jobs = .ok r' ∧
      r.valid = r'.valid ∧ r.totalJobs = r'.totalJobs ∧ r.validJobs = r'.validJobs ∧
      r.invalidJobs = r'.invalidJobs ∧ IssuesAgree c d r.issues r'.issues := by
  obtain ⟨r, hr⟩ := exists_checkJobs_iff.mpr hc
  obtain ⟨r', hr'⟩ := exists_checkJobs_iff.mpr hd
  have htally (c : Checks) : (v.withChecks c).tally jobs = v.tally jobs := rfl
  have hcounts := checkJobs_accounts hr
  have hcounts' := checkJobs_accounts hr'
  rw [htally] at hcounts hcounts'
  have htotal : r.totalJobs = r'.totalJobs := hcounts.total.trans hcounts'.total.symm
  have hinvalid : r.invalidJobs = r'.invalidJobs := hcounts.invalid.trans hcounts'.invalid.symm
  refine ⟨r, r', hr, hr', ?_, htotal, ?_, hinvalid, checkJobs_agree hwindow hr hr'⟩
  · rw [Bool.eq_iff_iff, hcounts.verdict, hcounts'.verdict, hinvalid]
  · rw [hcounts.valid, hcounts'.valid, htotal, hinvalid]

/-- All checks find something about jobs of each kind, and none leaves the calendar. -/
theorem optional_checks_agree_jobOfEachKind : ∃ r r',
    (replayValidator.withChecks { hygiene := true, overlap := true }).checkJobs jobOfEachKind =
      .ok r ∧
    (replayValidator.withChecks { frequency := false }).checkJobs jobOfEachKind = .ok r' ∧
    r.invalidJobs = r'.invalidJobs ∧
    Issue.withoutCodes optionalCodes r.issues = Issue.withoutCodes optionalCodes r'.issues := by
  have hanswered := replayValidator_answered
  have hanswered' : (replayValidator.withChecks { hygiene := true, overlap := true }).Answered :=
    ⟨hanswered.zoned, hanswered.later, hanswered.reference, hanswered.overlap⟩
  have hall : (replayValidator.withChecks
      { hygiene := true, overlap := true }).KeepsToCalendar jobOfEachKind :=
    hanswered'.keepsToCalendar _
  have hfew : (replayValidator.withChecks { frequency := false }).KeepsToCalendar jobOfEachKind :=
    exists_checkJobs_iff.mp (exists_of_isOk (by decide))
  obtain ⟨r, r', hr, hr', -, -, -, hinvalid, hissues⟩ := optional_checks_agree (by rfl) hall hfew
  exact ⟨r, r', hr, hr', hinvalid, hissues.required⟩

def thriceDaily : Job := { line := 1, expression := "0 0,8,16 * * *", command := "run" }

/-- With a limit of two runs instead of one, the finding tells the new limit: the report has an
issue that the other one does not have. -/
theorem excess_tells_limit : ∃ r r',
    (newYearValidator.withChecks { maxRunsPerDay := 1 }).checkJobs [thriceDaily] = .ok r ∧
    (newYearValidator.withChecks { maxRunsPerDay := 2 }).checkJobs [thriceDaily] = .ok r' ∧
    r.codes = [.excessiveRuns] ∧ r'.codes = [.excessiveRuns] ∧ ¬ r'.issues.Sublist r.issues := by
  have hone : ((newYearValidator.withChecks { maxRunsPerDay := 1 }).checkJobs [thriceDaily]).map
      (fun r => (r.codes, r.issues.map Issue.message)) = .ok ([.excessiveRuns],
        ["Schedule runs 3 times per day (exceeds threshold of 1)"]) := by
    decide
  have htwo : ((newYearValidator.withChecks { maxRunsPerDay := 2 }).checkJobs [thriceDaily]).map
      (fun r => (r.codes, r.issues.map Issue.message)) = .ok ([.excessiveRuns],
        ["Schedule runs 3 times per day (exceeds threshold of 2)"]) := by
    decide
  obtain ⟨r, hr, hr_eq⟩ := map_eq_ok_iff.mp hone
  obtain ⟨r', hr', hr'_eq⟩ := map_eq_ok_iff.mp htwo
  rw [Prod.mk.injEq] at hr_eq hr'_eq
  refine ⟨r, r', hr, hr', hr_eq.1, hr'_eq.1, ?_⟩
  intro hsublist
  have hmessages := hsublist.map Issue.message
  rw [hr_eq.2, hr'_eq.2] at hmessages
  revert hmessages
  decide

end Validator

end CronLint
