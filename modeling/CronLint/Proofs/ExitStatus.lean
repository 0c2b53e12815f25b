import CronLint.Proofs.JobCounts

/-!
# The verdict and the exit status of a report

However issues come to a report, one by one or several at a time, it is as if all of them had come
at once. So a new report becomes invalid with the first error and stays so, and its exit status
depends on two questions about the issues that are shown: does one reach the threshold, and is one
an error?
-/
namespace CronLint

namespace Severity

variable {s t : Severity} {severities : List Severity}

/-! ### The gravest severity -/

theorem graver_eq_or (s t : Severity) : graver s t = s ∨ graver s t = t := by
  unfold graver
  split_ifs
  · exact Or.inr rfl
  · exact Or.inl rfl

theorem rank_le_graver (s t : Severity) :
    s.rank ≤ (graver s t).rank ∧ t.rank ≤ (graver s t).rank := by
  unfold graver
  split_ifs with h
  · exact ⟨h.le, le_rfl⟩
  · exact ⟨le_rfl, not_lt.mp h⟩

theorem foldl_graver_spec (s : Severity) (rest : List Severity) :
    rest.foldl graver s ∈ s :: rest ∧ ∀ t ∈ s :: rest, t.rank ≤ (rest.foldl graver s).rank := by
  induction rest generalizing s with
  | nil => simp
  | cons t rest ih =>
    obtain ⟨hmem, hle⟩ := ih (graver s t)
    obtain ⟨hs, ht⟩ := rank_le_graver s t
    rw [List.forall_mem_cons] at hle
    rw [List.foldl_cons]
    constructor
    · rcases List.mem_cons.mp hmem with heq | hrest
      · rw [heq]
        rcases graver_eq_or s t with h | h
        · rw [h]
          exact List.mem_cons_self
        · rw [h]
          exact List.mem_cons_of_mem _ List.mem_cons_self
      · exact List.mem_cons_of_mem _ (List.mem_cons_of_mem _ hrest)
    · rw [List.forall_mem_cons, List.forall_mem_cons]
      exact ⟨hs.trans hle.1, ht.trans hle.1, hle.2⟩

theorem gravest?_eq_none_iff : gravest? severities = none ↔ severities = [] := by
  cases severities <;> simp [gravest?]

theorem gravest?_eq_some_iff :
    gravest? severities = some s ↔ s ∈ severities ∧ ∀ t ∈ severities, t.rank ≤ s.rank := by
  cases severities with
  | nil => simp [gravest?]
  | cons first rest =>
    obtain ⟨hmem, hle⟩ := foldl_graver_spec first rest
    rw [gravest?, Option.some.injEq]
    constructor
    · intro h
      rw [← h]
      exact ⟨hmem, hle⟩
    · intro h
      exact rank_injective (le_antisymm (h.2 _ hmem) (hle s h.1))

theorem rank_error_le_iff : rank .error ≤ t.rank ↔ t = .error := by
  cases t <;> decide

end Severity

namespace Report

variable {r : Report} {i : Issue} {threshold : Severity} {verbose : Bool}

/-! ### Issues that come in -/

/-- What a check does to a report: it adds an issue, or several. -/
inductive Step where
  | add (i : Issue)
  | extend (issues : List Issue)
  deriving DecidableEq, Repr

def Step.issues : Step → List Issue
  | .add i => [i]
  | .extend issues => issues

def take (r : Report) : Step → Report
  | .add i => r.add i
  | .extend issues => r.extend issues

def after (r : Report) (steps : List Step) : Report := steps.foldl take r

theorem take_eq_extend (r : Report) (step : Step) : r.take step = r.extend step.issues := by
  cases step <;> rfl

theorem after_eq_extend (r : Report) (steps : List Step) :
    r.after steps = r.extend (steps.flatMap Step.issues) := by
  induction steps generalizing r with
  | nil => rfl
  | cons step steps ih =>
    rw [List.flatMap_cons, extend_append, ← take_eq_extend, ← ih]
    rfl

theorem after_append (r : Report) (steps more : List Step) :
    r.after (steps ++ more) = (r.after steps).after more := List.foldl_append

theorem issues_after (r : Report) (steps : List Step) :
    (r.after steps).issues = r.issues ++ steps.flatMap Step.issues := by
  rw [after_eq_extend, issues_extend]

theorem valid_of_valid_after {steps : List Step} (h : (r.after steps).valid = true) :
    r.valid = true := by
  rw [after_eq_extend, valid_extend_iff] at h
  exact h.1

/-- A report is invalid if and only if it holds an error. -/
def TellsErrors (r : Report) : Prop := r.valid = false ↔ ∃ i ∈ r.issues, i.severity = .error

theorem TellsErrors.valid_iff (h : r.TellsErrors) :
    r.valid = true ↔ ¬ ∃ i ∈ r.issues, i.severity = .error := by
  rw [← Bool.not_eq_false]
  exact not_congr h

theorem tellsErrors_empty : TellsErrors {} := by simp [TellsErrors]

theorem TellsErrors.extend (h : r.TellsErrors) (issues : List Issue) :
    (r.extend issues).TellsErrors := by
  unfold TellsErrors at h ⊢
  have hissues : (issues.all fun i => !i.isError) = false ↔ ∃ i ∈ issues, i.severity = .error := by
    simp [Issue.isError]
  rw [extend_eq, Bool.and_eq_false_iff, h, hissues]
  simp only [List.mem_append, or_and_right, exists_or]

theorem TellsErrors.after (h : r.TellsErrors) (steps : List Step) :
    (r.after steps).TellsErrors := by
  rw [after_eq_extend]
  exact h.extend _

/-! ### What is shown -/

theorem mem_shown_iff :
    i ∈ r.shown verbose ↔ i ∈ r.issues ∧ (verbose = true ∨ i.severity ≠ .info) := by
  cases verbose <;> simp [shown, Issue.isInfo]

/-- What is hidden is no error. -/
theorem exists_error_shown_iff :
    (∃ i ∈ r.shown verbose, i.severity = .error) ↔ ∃ i ∈ r.issues, i.severity = .error := by
  constructor
  · intro h
    obtain ⟨i, hi, herror⟩ := h
    exact ⟨i, (mem_shown_iff.mp hi).1, herror⟩
  · intro h
    obtain ⟨i, hi, herror⟩ := h
    refine ⟨i, mem_shown_iff.mpr ⟨hi, Or.inr ?_⟩, herror⟩
    rw [herror]
    decide

/-- What is hidden does not reach a higher threshold than the lowest. -/
theorem exists_reaching_shown_iff (h : threshold ≠ .info) :
    (∃ i ∈ r.shown verbose, threshold.rank ≤ i.severity.rank) ↔
      ∃ i ∈ r.issues, threshold.rank ≤ i.severity.rank := by
  constructor
  · intro h
    obtain ⟨i, hi, hreaches⟩ := h
    exact ⟨i, (mem_shown_iff.mp hi).1, hreaches⟩
  · intro hreaching
    obtain ⟨i, hi, hreaches⟩ := hreaching
    refine ⟨i, mem_shown_iff.mpr ⟨hi, Or.inr ?_⟩, hreaches⟩
    intro hinfo
    rw [hinfo] at hreaches
    exact h (Severity.rank_injective (Nat.le_zero.mp hreaches))

/-! ### Exit statuses -/

theorem highest?_eq_none_iff : r.highest? verbose = none ↔ r.shown verbose = [] := by
  rw [highest?, Severity.gravest?_eq_none_iff, List.map_eq_nil_iff]

theorem highest?_spec {s : Severity} (h : r.highest? verbose = some s) :
    (∃ i ∈ r.shown verbose, i.severity = s) ∧ ∀ i ∈ r.shown verbose, i.severity.rank ≤ s.rank := by
  obtain ⟨hmem, hle⟩ := Severity.gravest?_eq_some_iff.mp h
  exact ⟨List.mem_map.mp hmem, fun i hi => hle _ (List.mem_map_of_mem hi)⟩

theorem exitStatus_eq (r : Report) (threshold : Severity) (verbose : Bool) :
    r.exitStatus threshold verbose =
      if ∃ i ∈ r.shown verbose, threshold.rank ≤ i.severity.rank then
        if ∃ i ∈ r.shown verbose, i.severity = .error then 1 else 2
      else 0 := by
  unfold exitStatus
  cases hhighest : r.highest? verbose with
  | none => simp [highest?_eq_none_iff.mp hhighest]
  | some s =>
    obtain ⟨⟨i, hi, hs⟩, hle⟩ := highest?_spec hhighest
    have hreaches : (∃ i ∈ r.shown verbose, threshold.rank ≤ i.severity.rank) ↔
        ¬ s.rank < threshold.rank := by
      rw [not_lt]
      constructor
      · intro h
        obtain ⟨j, hj, hreaches⟩ := h
        exact hreaches.trans (hle j hj)
      · intro h
        exact ⟨i, hi, hs.symm ▸ h⟩
    have herror : (∃ i ∈ r.shown verbose, i.severity = .error) ↔ s = .error := by
      constructor
      · intro h
        obtain ⟨j, hj, herror⟩ := h
        exact Severity.rank_error_le_iff.mp (herror ▸ hle j hj)
      · intro h
        exact ⟨i, hi, hs.trans h⟩
    simp only [hreaches, herror, ite_not]

theorem exitStatus_eq_zero_iff : r.exitStatus threshold verbose = 0 ↔
    ¬ ∃ i ∈ r.shown verbose, threshold.rank ≤ i.severity.rank := by
  rw [exitStatus_eq]
  split_ifs with hreaches <;> simp [hreaches]

theorem exitStatus_error_eq_zero_iff :
    r.exitStatus .error verbose = 0 ↔ ¬ ∃ i ∈ r.issues, i.severity = .error := by
  simp only [exitStatus_eq_zero_iff, Severity.rank_error_le_iff, exists_error_shown_iff]

/-- Hidden issues do not count for the thresholds above the lowest. -/
theorem exitStatus_quiet (h : threshold ≠ .info) :
    r.exitStatus threshold false = r.exitStatus threshold true := by
  simp only [exitStatus_eq, exists_reaching_shown_iff h, exists_error_shown_iff]

/-- A lower threshold is reached by as many issues. -/
theorem exitStatus_ne_zero_of_le {lower : Severity} (hle : lower.rank ≤ threshold.rank)
    (h : r.exitStatus threshold verbose ≠ 0) : r.exitStatus lower verbose ≠ 0 := by
  rw [Ne, exitStatus_eq_zero_iff, not_not] at h ⊢
  obtain ⟨i, hi, hreaches⟩ := h
  exact ⟨i, hi, hle.trans hreaches⟩

theorem exitStatus_of_shown_eq_nil (h : r.shown verbose = []) (threshold : Severity) :
    r.exitStatus threshold verbose = 0 := by
  rw [exitStatus_eq_zero_iff, h]
  simp

/-- A report that shows nothing is valid. -/
theorem TellsErrors.clean_iff (h : r.TellsErrors) :
    r.clean verbose = true ↔ r.shown verbose = [] := by
  rw [clean, Bool.and_eq_true, List.isEmpty_iff, h.valid_iff, ← exists_error_shown_iff]
  constructor
  · exact And.right
  · intro hnil
    refine ⟨?_, hnil⟩
    rw [hnil]
    simp

/-- What the verdict, the exit status and the JSON form of a report say about its issues. -/
structure SpeaksOfIssues (r : Report) : Prop where
  invalid_iff : r.valid = false ↔ ∃ i ∈ r.issues, i.severity = .error
  status (threshold : Severity) (verbose : Bool) : r.exitStatus threshold verbose =
    if ∀ i ∈ r.shown verbose, i.severity.rank < threshold.rank then 0
    else if ∃ i ∈ r.shown verbose, i.severity = .error then 1 else 2
  quiet (threshold : Severity) (h : threshold ≠ .info) :
    r.exitStatus threshold false = r.exitStatus threshold true
  valid_iff (verbose : Bool) : r.exitStatus .error verbose = 0 ↔ r.valid = true
  lowered (lower threshold : Severity) (verbose : Bool) (hle : lower.rank ≤ threshold.rank) :
    r.exitStatus threshold verbose ≠ 0 → r.exitStatus lower verbose ≠ 0
  flag (verbose : Bool) :
    (r.jsonMembers verbose).lookup "valid" = some (.flag (r.shown verbose).isEmpty)
  nothingShown (verbose : Bool) (h : r.shown verbose = []) (threshold : Severity) :
    r.exitStatus threshold verbose = 0

/-- A new report that issues are added to holds all of them in their order, and its verdict and its
exit status speak of them. Once it is invalid it stays so. -/
theorem speaksOfIssues_after (steps more : List Step) :
    (after {} steps).issues = steps.flatMap Step.issues ∧ (after {} steps).SpeaksOfIssues ∧
      ((after {} steps).valid = false → (after {} (steps ++ more)).valid = false) := by
  have htells : (after {} steps).TellsErrors := tellsErrors_empty.after steps
  refine ⟨issues_after {} steps, ?_, ?_⟩
  · constructor
    case invalid_iff => exact htells
    case status =>
      intro threshold verbose
      rw [exitStatus_eq, ← ite_not]
      simp only [not_exists, not_and, not_le]
    case quiet => exact fun _ => exitStatus_quiet
    case valid_iff =>
      intro verbose
      rw [exitStatus_error_eq_zero_iff, htells.valid_iff]
    case lowered => exact fun _ _ _ => exitStatus_ne_zero_of_le
    case flag =>
      intro verbose
      have hflag : (after {} steps).clean verbose = ((after {} steps).shown verbose).isEmpty := by
        rw [Bool.eq_iff_iff, htells.clean_iff, List.isEmpty_iff]
      simp [jsonMembers, hflag]
    case nothingShown => exact fun _ => exitStatus_of_shown_eq_nil
  · intro hinvalid
    rw [after_append, ← Bool.not_eq_true]
    intro hvalid
    rw [valid_of_valid_after hvalid] at hinvalid
    cases hinvalid

end Report

end CronLint
