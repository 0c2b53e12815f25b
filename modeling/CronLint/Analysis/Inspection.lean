import CronLint.Analysis.Validator
import CronLint.Schedule.Memo

/-!
# A validator at work

The jobs are checked one after the other by an inspector. One report goes through the whole check:
a job is counted as soon as it comes up, and what is found about it is added on the spot. The
parser has a memo, and the clock goes on meanwhile. It is read for each job whose expression is
parsed, and once more for the overlaps.
-/
namespace CronLint

open Calendar

/-- Who checks. The runs are asked of a scheduler that need not be the parser's, and the clock is
given by its readings, in order. -/
structure Inspector where
  parser : Parser
  oracle : Scheduler := parser.scheduler
  checks : Checks
  clock : Nat → Instant

/-- The report with one job more, which counts as so many valid and invalid ones. -/
def Report.count (r : Report) (valid invalid : Int) : Report :=
  { r with
    totalJobs := r.totalJobs + 1
    validJobs := r.validJobs + valid
    invalidJobs := r.invalidJobs + invalid }

/-- The report with a valid job that turns out to be invalid. -/
def Report.demote (r : Report) : Report :=
  { r with validJobs := r.validJobs - 1, invalidJobs := r.invalidJobs + 1 }

/-- How far a check has come: the report, the memo, and how often the clock was read. -/
structure Progress where
  report : Report := {}
  memo : Memo := .empty
  readings : Nat := 0

namespace Inspector

/-- The inspector with the clock stopped at a reading, and one scheduler for everything. -/
def stopped (c : Inspector) (reading : Nat) : Validator :=
  ⟨{ c.parser with scheduler := c.oracle }, c.checks, c.clock reading⟩

def checkSchedule (c : Inspector) (p : Progress) (s : Schedule) (expression : String) (line : Int)
    (command : String) : Except CalendarError Progress := do
  let v := c.stopped p.readings
  let report := p.report.extend ((Validator.conflictIssues s expression).map (·.atLine line))
  let isEmpty ← v.isEmptySchedule expression
  let report :=
    if isEmpty then report.demote.add ((Validator.emptyIssue expression).atLine line) else report
  let frequency ← if c.checks.frequency then v.frequencyIssues s expression else pure []
  let report := report.extend (frequency.map (·.atLine line))
  let hygiene :=
    if c.checks.hygiene && !command.isEmpty then
      (Hygiene.issues command).map (·.about expression)
    else []
  return ⟨report.extend (hygiene.map (·.atLine line)), p.memo, p.readings + 1⟩

/-- Checks an expression without a line and a command, for a report of its own. -/
def checkExpression (c : Inspector) (memo : Memo) (readings : Nat) (expression : String) :
    Except CalendarError Progress :=
  let parsed := c.parser.parseWith memo expression
  match parsed.result with
  | .error e =>
    let issue := Validator.parseIssue ("Invalid cron expression: " ++ e.message) expression 0
    .ok ⟨(Report.count {} 0 1).add issue, parsed.memo, readings⟩
  | .ok s => c.checkSchedule ⟨Report.count {} 1 0, parsed.memo, readings⟩ s expression 0 ""

def checkJob (c : Inspector) (p : Progress) (job : Job) : Except CalendarError Progress :=
  match job.fault with
  | some fault =>
    let issue := Validator.parseIssue ("Invalid cron expression: " ++ fault) job.expression job.line
    .ok { p with report := (p.report.count 0 1).add issue }
  | none =>
    let parsed := c.parser.parseWith p.memo job.expression
    match parsed.result with
    | .error e =>
      let issue :=
        Validator.parseIssue ("Failed to parse expression: " ++ e.message) job.expression job.line
      .ok ⟨(p.report.count (-1) 1).add issue, parsed.memo, p.readings⟩
    | .ok s =>
      c.checkSchedule ⟨p.report.count 1 0, parsed.memo, p.readings⟩ s job.expression job.line
        job.command

def checkEach (c : Inspector) : Progress → List Job → Except CalendarError Progress :=
  List.foldlM c.checkJob

/-- How often the clock is read to look for overlaps. Fewer than two valid jobs have none. -/
def overlapReadings (jobs : List Job) : Nat :=
  if (jobs.filter Job.valid).length < 2 then 0 else 1

/-- Checks jobs for a report of their own, with the memo that earlier checks have left and a clock
that they have read so often. -/
def checkJobs (c : Inspector) (memo : Memo) (readings : Nat) (jobs : List Job) :
    Except CalendarError Progress := do
  let p ← c.checkEach { memo := memo, readings := readings } jobs
  if c.checks.overlap then
    let issues ← (c.stopped p.readings).overlapIssues jobs
    return ⟨p.report.extend issues, p.memo, p.readings + overlapReadings jobs⟩
  else return p

end Inspector

/-- The inspector whose clock stands still and who asks the parser's scheduler. -/
def Validator.inspector (v : Validator) : Inspector :=
  { parser := v.parser, checks := v.checks, clock := fun _ => v.now }

end CronLint
