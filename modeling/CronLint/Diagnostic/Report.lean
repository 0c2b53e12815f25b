import CronLint.Diagnostic.Issue

/-!
# Reports

A report collects the issues of a check and counts jobs. An error makes it invalid for good.
Issues of the lowest severity are shown on request only, and the exit status depends on the issues
that are shown.
-/
namespace CronLint

structure Report where
  valid : Bool := true
  issues : List Issue := []
  totalJobs : Int := 0
  validJobs : Int := 0
  invalidJobs : Int := 0
  deriving DecidableEq, Repr

namespace Report

def add (r : Report) (i : Issue) : Report :=
  { r with issues := r.issues ++ [i], valid := r.valid && !i.isError }

def extend (r : Report) (issues : List Issue) : Report := issues.foldl add r

@[simp] theorem extend_nil (r : Report) : r.extend [] = r := rfl

theorem extend_append (r : Report) (a b : List Issue) :
    r.extend (a ++ b) = (r.extend a).extend b := by
  simp [extend]

theorem issues_extend (r : Report) (issues : List Issue) :
    (r.extend issues).issues = r.issues ++ issues := by
  induction issues generalizing r with
  | nil => simp
  | cons i rest ih =>
    change ((r.add i).extend rest).issues = _
    rw [ih]
    simp [add]

def join (a b : Report) : Report where
  valid := a.valid && b.valid
  issues := a.issues ++ b.issues
  totalJobs := a.totalJobs + b.totalJobs
  validJobs := a.validJobs + b.validJobs
  invalidJobs := a.invalidJobs + b.invalidJobs

theorem join_assoc (a b c : Report) : (a.join b).join c = a.join (b.join c) := by
  simp [join, Bool.and_assoc, Int.add_assoc]

@[simp] theorem empty_join (r : Report) : join {} r = r := by
  cases r; simp [join]

@[simp] theorem join_empty (r : Report) : join r {} = r := by
  cases r; simp [join]

/-- The issues to show: all, or all above the lowest severity. -/
def shown (r : Report) (verbose : Bool) : List Issue :=
  if verbose then r.issues else r.issues.filter fun i => !i.isInfo

def highest? (r : Report) (verbose : Bool) : Option Severity :=
  Severity.gravest? ((r.shown verbose).map (·.severity))

/-- The exit status: 0 unless a shown issue reaches the threshold, else 1 if one is an error and 2
if none is. -/
def exitStatus (r : Report) (threshold : Severity) (verbose : Bool) : Nat :=
  match r.highest? verbose with
  | none => 0
  | some s => if s.rank < threshold.rank then 0 else if s = .error then 1 else 2

def clean (r : Report) (verbose : Bool) : Bool := r.valid && (r.shown verbose).isEmpty

def jsonMembers (r : Report) (verbose : Bool) : List (String × JsonValue) :=
  [("valid", .flag (r.clean verbose)), ("totalJobs", .integer r.totalJobs),
    ("validJobs", .integer r.validJobs), ("invalidJobs", .integer r.invalidJobs),
    ("issues", .list ((r.shown verbose).map Issue.toJson))]

end Report

end CronLint
