import CronLint.Proofs.OptionalChecks
import CronLint.Proofs.OverlapRanking

/-!
# Overlaps in a report

A validator leaves out invalid jobs, does not look for overlaps among fewer than two jobs, and says
nothing if no two jobs run at once. None of this is seen in its report: it tells the worst overlaps
of all the jobs, in the order of how bad they are.
-/
namespace CronLint

open Calendar

/-! ### Hits of valid jobs -/

namespace Scheduler

variable {s : Scheduler} {w : Window} {limit : Int} {jobs : List Job}
  {hits : List (Instant × String)}

theorem hits_filter_valid (s : Scheduler) (w : Window) (limit : Int) (jobs : List Job) :
    s.hits w limit (jobs.filter Job.valid) = s.hits w limit jobs := by
  induction jobs with
  | nil => rfl
  | cons job jobs ih =>
    cases hvalid : job.valid with
    | true => rw [List.filter_cons_of_pos hvalid, hits, hits, ih]
    | false =>
      rw [List.filter_cons_of_neg (by simp [hvalid]), ih]
      simp only [hits, hvalid, Bool.false_eq_true, if_false]

theorem exists_of_mem_hits (h : s.hits w limit jobs = .ok hits) {hit : Instant × String}
    (hhit : hit ∈ hits) : ∃ job ∈ jobs, job.valid = true ∧ job.id = hit.2 := by
  induction jobs generalizing hits with
  | nil =>
    cases h
    cases hhit
  | cons job jobs ih =>
    have hrest {rest : List (Instant × String)} (hrest : s.hits w limit jobs = .ok rest)
        (hmem : hit ∈ rest) : ∃ other ∈ job :: jobs, other.valid = true ∧ other.id = hit.2 := by
      obtain ⟨other, hother, hfound⟩ := ih hrest hmem
      exact ⟨other, List.mem_cons_of_mem _ hother, hfound⟩
    unfold Scheduler.hits at h
    split_ifs at h with hvalid
    · simp only [bind_eq_ok_iff, pure_eq_ok_iff] at h
      obtain ⟨times, -, rest, hok, rfl⟩ := h
      rcases List.mem_append.mp hhit with hmem | hmem
      · obtain ⟨t, -, rfl⟩ := List.mem_map.mp hmem
        exact ⟨job, List.mem_cons_self, hvalid, rfl⟩
      · exact hrest hok hmem
    · exact hrest h hhit

end Scheduler

/-- A minute makes an overlap only if two of its hits tell different jobs. -/
theorem overlapOfHits?_eq_none {hits : List (Instant × String)}
    (h : ∀ a ∈ hits, ∀ b ∈ hits, a.2 = b.2) : overlapOfHits? hits = none := by
  have hids : ¬ 1 < ((hits.map (·.2)).eraseDups).length := by
    rw [one_lt_length_iff_of_nodup (nodup_eraseDups _)]
    rintro ⟨i, hi, j, hj, hne⟩
    obtain ⟨a, ha, rfl⟩ := List.mem_map.mp (List.mem_eraseDups.mp hi)
    obtain ⟨b, hb, rfl⟩ := List.mem_map.mp (List.mem_eraseDups.mp hj)
    exact hne (h a ha b hb)
  unfold overlapOfHits?
  dsimp only
  split
  · rfl
  · exact if_neg hids

theorem overlapsOfHits_eq_nil {hits : List (Instant × String)}
    (h : ∀ a ∈ hits, ∀ b ∈ hits, a.2 = b.2) : (overlapsOfHits hits).all = [] := by
  apply List.filterMap_eq_nil_iff.mpr
  intro group hgroup
  have hmem {a : Instant × String} (ha : a ∈ group) : a ∈ hits :=
    (flatten_groupByKey_perm _ hits).subset (List.mem_flatten_of_mem hgroup ha)
  exact overlapOfHits?_eq_none fun a ha b hb => h a (hmem ha) b (hmem hb)

namespace Validator

variable {v : Validator} {jobs : List Job} {job : Job} {report : Report} {overlaps : Overlaps}
  {issues : List Issue}

/-! ### Nothing is lost -/

theorem overlapsOf_filter_valid (v : Validator) (jobs : List Job) :
    v.overlapsOf (jobs.filter Job.valid) = v.overlapsOf jobs := by
  simp only [overlapsOf, Scheduler.overlaps, Scheduler.hits_filter_valid]

theorem exists_hits_of_overlapsOf (h : v.overlapsOf jobs = .ok overlaps) :
    ∃ w limit hits, v.scheduler.hits w limit jobs = .ok hits ∧ overlapsOfHits hits = overlaps := by
  simp only [overlapsOf, Scheduler.overlaps, bind_eq_ok_iff, pure_eq_ok_iff] at h
  obtain ⟨w, -, hits, hhits, rfl⟩ := h
  exact ⟨w, _, hits, hhits, rfl⟩

/-- A single valid job does not overlap, not even with itself. -/
theorem all_eq_nil_of_few (h : v.overlapsOf jobs = .ok overlaps)
    (hfew : (jobs.filter Job.valid).length < 2) : overlaps.all = [] := by
  obtain ⟨w, limit, hits, hhits, rfl⟩ := exists_hits_of_overlapsOf h
  apply overlapsOfHits_eq_nil
  intro a ha b hb
  obtain ⟨i, hi, hivalid, hia⟩ := Scheduler.exists_of_mem_hits hhits ha
  obtain ⟨j, hj, hjvalid, hjb⟩ := Scheduler.exists_of_mem_hits hhits hb
  have hi' : i ∈ jobs.filter Job.valid := List.mem_filter.mpr ⟨hi, hivalid⟩
  have hj' : j ∈ jobs.filter Job.valid := List.mem_filter.mpr ⟨hj, hjvalid⟩
  have hsame : i = j := by
    generalize jobs.filter Job.valid = candidates at *
    match candidates with
    | [] => cases hi'
    | [_] => rw [List.mem_singleton.mp hi', List.mem_singleton.mp hj']
    | _ :: _ :: rest =>
      simp only [List.length_cons] at hfew
      omega
  rw [← hia, ← hjb, hsame]

theorem ranks_of_overlapsOf (h : v.overlapsOf jobs = .ok overlaps) : overlaps.Ranks := by
  obtain ⟨w, limit, hits, -, rfl⟩ := exists_hits_of_overlapsOf h
  exact overlapsOfHits_ranks hits

theorem overlapIssues_eq (h : v.overlapsOf jobs = .ok overlaps) :
    v.overlapIssues jobs = .ok ((overlaps.worst.take overlapIssueLimit).map overlapIssue) := by
  rw [overlapIssues_eq_ok_iff, overlapsOf_filter_valid]
  by_cases hfew : (jobs.filter Job.valid).length < 2
  · obtain ⟨ranked, hperm, -, hworst⟩ := (ranks_of_overlapsOf h).worst
    rw [all_eq_nil_of_few h hfew] at hperm
    refine Or.inl ⟨hfew, ?_⟩
    rw [hworst, hperm.eq_nil, List.take_nil, List.take_nil, List.map_nil]
  · exact Or.inr ⟨by omega, overlaps, h, rfl⟩

/-! ### Nothing is added -/

theorem code_ne_overlapDetected_of_jobReport (h : v.jobReport job = .ok report) :
    ∀ i ∈ report.issues, i.code ∉ overlapCodes := by
  intro i hi
  have hcode : i.code ∈ report.issues.map Issue.code := List.mem_map_of_mem hi
  obtain hparse | horder := (isBlock_of_jobReport h).codes
  · rw [hparse, List.mem_singleton] at hcode
    rw [hcode]
    decide
  · have hdisjoint : ∀ code ∈ checkOrder, code ∉ overlapCodes := by decide
    exact hdisjoint _ (horder.subset hcode)

theorem code_ne_overlapDetected_of_jobReports (h : v.jobReports jobs = .ok report) :
    ∀ i ∈ report.issues, i.code ∉ overlapCodes := by
  induction jobs generalizing report with
  | nil =>
    cases h
    simp
  | cons job jobs ih =>
    obtain ⟨a, b, ha, hb, rfl⟩ := jobReports_cons_eq_ok_iff.mp h
    intro i hi
    rcases List.mem_append.mp hi with hi | hi
    · exact code_ne_overlapDetected_of_jobReport ha i hi
    · exact ih hb i hi

/-- Issues about overlaps come from the search for overlaps only, and all of them come from it. -/
theorem withCodes_overlapCodes (h : v.checkJobs jobs = .ok report) (hon : v.checks.overlap = true) :
    v.overlapIssues jobs = .ok (Issue.withCodes overlapCodes report.issues) := by
  obtain ⟨counted, issues, hcounted, hissues, rfl⟩ := checkJobs_eq_ok_iff.mp h
  have hown : Issue.withCodes overlapCodes issues = issues := by
    apply List.filter_eq_self.mpr
    intro i hi
    rw [(overlapFindings_placeless hissues i hi).1]
    decide
  rw [Report.issues_extend, Issue.withCodes_append, hown,
    Issue.withCodes_eq_nil (code_ne_overlapDetected_of_jobReports hcounted), List.nil_append]
  rwa [overlapFindings, if_pos hon] at hissues

/-- If overlaps are looked for, a report tells the first five of all overlaps of the jobs, the worst
first, and nothing else about overlaps. There is a report if the checks of each job come to an end,
and the search for overlaps does or there are too few jobs for it. -/
theorem worst_overlaps_reported (hon : v.checks.overlap = true) (entries : List Entry) :
    ((∃ report, v.checkEntries entries = .ok report) ↔ (∀ job ∈ jobsOf entries, v.Decides job) ∧
      (2 ≤ ((jobsOf entries).filter Job.valid).length →
        ∃ overlaps, v.overlapsOf (jobsOf entries) = .ok overlaps)) ∧
    ∀ report, v.checkEntries entries = .ok report →
      (∀ overlaps, v.overlapsOf (jobsOf entries) = .ok overlaps →
        ∃ ranked : List Overlap, ranked.Perm overlaps.all ∧ ranked.Pairwise Overlap.Precedes ∧
          Issue.withCodes overlapCodes report.issues =
            (ranked.take (min 5 overlaps.all.length)).map fun o =>
              Issue.ofCode .overlapDetected ("Overlap detected: " ++ toString o.count ++
                " jobs scheduled at " ++ o.time.date.told ++ " " ++ o.time.clockToMinute)) ∧
      ∀ err, v.overlapsOf (jobsOf entries) = .error err →
        Issue.withCodes overlapCodes report.issues = [] := by
  constructor
  · rw [checkEntries, exists_checkJobs_iff]
    constructor
    · intro h
      exact ⟨h.decides, fun hmany => overlapsOf_filter_valid v _ ▸ h.overlaps hon hmany⟩
    · rintro ⟨hdecides, hoverlaps⟩
      exact ⟨hdecides, fun _ hmany => (overlapsOf_filter_valid v _).symm ▸ hoverlaps hmany⟩
  · intro report hreport
    have hissues := withCodes_overlapCodes hreport hon
    constructor
    · intro overlaps hoverlaps
      obtain ⟨ranked, hperm, hprecedes, hworst⟩ := (ranks_of_overlapsOf hoverlaps).worst
      have hcut : min overlapIssueLimit (min 10 overlaps.all.length) =
          min 5 overlaps.all.length := by
        unfold overlapIssueLimit
        omega
      rw [overlapIssues_eq hoverlaps, hworst, List.take_take, hcut] at hissues
      exact ⟨ranked, hperm, hprecedes, (Except.ok.inj hissues).symm⟩
    · intro err herr
      obtain ⟨-, hnone⟩ | ⟨-, overlaps, hoverlaps, -⟩ := overlapIssues_eq_ok_iff.mp hissues
      · exact hnone.symm
      · rw [overlapsOf_filter_valid, herr] at hoverlaps
        cases hoverlaps

def tenMinuteValidator : Validator where
  parser := Parser.forLocale "en" SymbolTable.standard Scheduler.givenRuns
  checks := { overlap := true, overlapWindow := 10 * microsPerMinute }
  now := Scheduler.afterTen 0 30

def entryOf (job : Job) : Entry := ⟨job.line, "", .job job⟩

/-- Two jobs whose expressions cannot be parsed any more, and between them one whose expression
could not be parsed in the first place. -/
def unparsedEntries : List Entry :=
  [Scheduler.givenJob 1 "a", { line := 2, expression := "x", fault := some "no fields" },
    Scheduler.givenJob 3 "b"].map entryOf

/-- None of the three jobs can be parsed, and still the report tells the overlap of two of them. -/
theorem worst_overlaps_reported_unparsed : ∃ report,
    tenMinuteValidator.checkEntries unparsedEntries = .ok report ∧
    Issue.withCodes overlapCodes report.issues ≠ [] := by
  obtain ⟨hits, hhits, hutc, hfirst, hsecond⟩ : ∃ hits,
      tenMinuteValidator.scheduler.hits ⟨Scheduler.afterTen 0 0, Scheduler.afterTen 10 0⟩
        (tenMinuteValidator.checks.overlapWindow / microsPerMinute + 1) (jobsOf unparsedEntries) =
          .ok hits ∧ (∀ hit ∈ hits, hit.1.offset = some 0) ∧
      (Scheduler.afterTen 5 0, "line-1") ∈ hits ∧ (Scheduler.afterTen 5 0, "line-3") ∈ hits :=
    ⟨[(Scheduler.afterTen 7 0, "line-1"), (Scheduler.afterTen 5 0, "line-1"),
      (Scheduler.afterTen 5 0, "line-1"), (Scheduler.afterTen 2 0, "line-3"),
      (Scheduler.afterTen 5 0, "line-3")], by decide, by decide, by decide, by decide⟩
  have hoverlaps : tenMinuteValidator.overlapsOf (jobsOf unparsedEntries) =
      .ok (overlapsOfHits hits) := by
    have hwindow : Window.ofLength tenMinuteValidator.now.truncateToMinute
        tenMinuteValidator.checks.overlapWindow =
          .ok ⟨Scheduler.afterTen 0 0, Scheduler.afterTen 10 0⟩ := by
      decide
    rw [overlapsOf, Scheduler.overlaps_eq, hwindow]
    simp only [Except.bind, hhits, Except.map]
  obtain ⟨o, ho, -⟩ : ∃ o ∈ (overlapsOfHits hits).all, o.time = Scheduler.afterTen 5 0 :=
    (exists_overlap_iff hutc).mpr ⟨_, hfirst, _, hsecond, by decide⟩
  have hunparsed : ∀ job ∈ jobsOf unparsedEntries, job.valid = true →
      (tenMinuteValidator.parser.parse job.expression).isOk = false := by
    decide
  have hon : tenMinuteValidator.checks.overlap = true := rfl
  obtain ⟨hexists, htold⟩ := worst_overlaps_reported hon unparsedEntries
  have hdecides : ∀ job ∈ jobsOf unparsedEntries, tenMinuteValidator.Decides job := by
    intro job hjob hvalid s hs
    have hfails := hunparsed job hjob hvalid
    rw [hs] at hfails
    cases hfails
  obtain ⟨report, hreport⟩ := hexists.mpr ⟨hdecides, fun _ => ⟨_, hoverlaps⟩⟩
  obtain ⟨ranked, hperm, -, hissues⟩ := (htold report hreport).1 _ hoverlaps
  have hranked : 0 < ranked.length := List.length_pos_of_mem (hperm.symm.subset ho)
  refine ⟨report, hreport, ?_⟩
  rw [hissues, Ne, ← List.length_eq_zero_iff, List.length_map, List.length_take, ← hperm.length_eq]
  omega

end Validator

end CronLint
