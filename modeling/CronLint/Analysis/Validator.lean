import CronLint.Analysis.DayConflict
import CronLint.Analysis.Frequency
import CronLint.Analysis.Hygiene
import CronLint.Analysis.Overlap
import CronLint.Analysis.UnitStep
import CronLint.Crontab.Source
import CronLint.Diagnostic.Report
import CronLint.Settings.Basic

/-!
# Validation

A validator checks jobs one by one, wherever they come from: is the expression valid, does it
restrict both day fields, does it ever run, how often does it run, is its command sound. The
overlaps of all jobs come last.
-/
namespace CronLint

open Calendar

/-- The checks that are switched on, and their parameters. The overlap window is in
microseconds. -/
structure Checks where
  frequency : Bool := true
  maxRunsPerDay : Int := 1000
  hygiene : Bool := false
  overlap : Bool := false
  overlapWindow : Int := microsPerDay
  deriving DecidableEq, Repr

def windowOfMinutes (minutes : Int) : Except CalendarError Int := spanOfSeconds (60 * minutes)

def Checks.ofSettings (s : Settings) : Except CalendarError Checks := do
  return ⟨s.enableFrequency, s.maxRunsPerDay, s.enableHygiene, s.warnOnOverlap,
    ← windowOfMinutes s.overlapWindowMinutes⟩

/-- A validator at one moment: its clock stands still, and it asks its parser's scheduler for the
runs. An `Inspector` has a clock that goes on and may ask another scheduler. -/
structure Validator where
  parser : Parser
  checks : Checks
  now : Instant

namespace Validator

def ofSettings (s : Settings) (scheduler : Scheduler) (now : Instant) :
    Except CalendarError Validator := do
  let checks ← Checks.ofSettings s
  return ⟨Parser.forLocale s.locale SymbolTable.standard scheduler, checks, now⟩

def scheduler (v : Validator) : Scheduler := v.parser.scheduler

/-- The years within which a schedule has to run so as not to count as empty. -/
def emptyHorizonYears : Int := 2

/-- Whether the scheduler finds no run up to the horizon. A rejected expression has none. -/
def isEmptySchedule (v : Validator) (expression : String) : Except CalendarError Bool := do
  let horizon ← v.now.addYears emptyHorizonYears
  match v.scheduler.next expression v.now 1 (some horizon) with
  | .error (.rejected _) => return true
  | .error (.calendar e) => throw e
  | .ok [] => return true
  | .ok (t :: _) => horizon.isBefore t

def conflictIssues (s : Schedule) (expression : String) : List Issue :=
  if s.restrictsBothDays then
    [(Issue.ofCode .domDowConflict
      "Both day-of-month and day-of-week specified (runs if either condition is met)").about
        expression]
  else []

def emptyIssue (expression : String) : Issue :=
  (Issue.ofCode .emptySchedule "Schedule never runs (empty schedule)").about expression

def unitStepIssues (s : Schedule) (expression : String) : List Issue :=
  if s.hasUnitStep then
    let issue := (Issue.ofCode .redundantPattern
      "Redundant step pattern detected (e.g., */1 can be simplified to *)").about expression
    [{ issue with
        hint := issue.hint ++ " Consider using: " ++ withoutUnitSteps expression }]
  else []

def excessIssues (limit : Int) (runs : Nat) (expression : String) : List Issue :=
  if limit < runs then
    [(Issue.ofCode .excessiveRuns ("Schedule runs " ++ toString runs ++
      " times per day (exceeds threshold of " ++ toString limit ++ ")")).about expression]
  else []

/-- The issues about how often a schedule runs. A rejected expression has no number of runs. -/
def frequencyIssues (v : Validator) (s : Schedule) (expression : String) :
    Except CalendarError (List Issue) :=
  match v.scheduler.runsPerDay referenceInstant expression with
  | .error (.calendar e) => .error e
  | .error (.rejected _) => .ok (unitStepIssues s expression)
  | .ok runs =>
    .ok (unitStepIssues s expression ++ excessIssues v.checks.maxRunsPerDay runs expression)

def scheduleReport (v : Validator) (s : Schedule) (expression : String) (line : Int)
    (command : String) : Except CalendarError Report := do
  let isEmpty ← v.isEmptySchedule expression
  let frequency ← if v.checks.frequency then v.frequencyIssues s expression else pure []
  let hygiene :=
    if v.checks.hygiene && !command.isEmpty then
      (Hygiene.issues command).map (·.about expression)
    else []
  let issues := conflictIssues s expression ++
    (if isEmpty then [emptyIssue expression] else []) ++ frequency ++ hygiene
  let counted : Report :=
    if isEmpty then { totalJobs := 1, invalidJobs := 1 } else { totalJobs := 1, validJobs := 1 }
  return counted.extend (issues.map (·.atLine line))

def parseIssue (message expression : String) (line : Int) : Issue :=
  ((Issue.ofCode .parseError message).about expression).atLine line

/-- The report on an expression without a line and a command. -/
def checkExpression (v : Validator) (expression : String) : Except CalendarError Report :=
  match v.parser.parse expression with
  | .error e =>
    .ok (Report.add { totalJobs := 1, invalidJobs := 1 }
      (parseIssue ("Invalid cron expression: " ++ e.message) expression 0))
  | .ok s => v.scheduleReport s expression 0 ""

/-- The report on a job, by the outcome of parsing its expression. A job that was accepted when it
was read but cannot be parsed now is taken off the valid ones. -/
def jobReportOf (v : Validator) (job : Job) (parsed : Except ParseError Schedule) :
    Except CalendarError Report :=
  match job.fault with
  | some fault =>
    .ok (Report.add { totalJobs := 1, invalidJobs := 1 }
      (parseIssue ("Invalid cron expression: " ++ fault) job.expression job.line))
  | none =>
    match parsed with
    | .error e =>
      .ok (Report.add { totalJobs := 1, validJobs := -1, invalidJobs := 1 }
        (parseIssue ("Failed to parse expression: " ++ e.message) job.expression job.line))
    | .ok s => v.scheduleReport s job.expression job.line job.command

def jobReport (v : Validator) (job : Job) : Except CalendarError Report :=
  v.jobReportOf job (v.parser.parse job.expression)

def overlapsOf (v : Validator) (jobs : List Job) : Except CalendarError Overlaps :=
  v.scheduler.overlaps jobs v.checks.overlapWindow v.now

def overlapIssueLimit : Nat := 5

def overlapIssue (o : Overlap) : Issue :=
  Issue.ofCode .overlapDetected ("Overlap detected: " ++ toString o.count ++
    " jobs scheduled at " ++ o.time.date.told ++ " " ++ o.time.clockToMinute)

/-- The issues about overlaps. Fewer than two valid jobs are not looked at, and nothing is said if
no two jobs run at once. -/
def overlapIssues (v : Validator) (jobs : List Job) : Except CalendarError (List Issue) := do
  let candidates := jobs.filter Job.valid
  if candidates.length < 2 then return []
  let overlaps ← v.overlapsOf candidates
  if overlaps.maxConcurrent ≤ 1 then return []
  return (overlaps.worst.take overlapIssueLimit).map overlapIssue

def jobReports (v : Validator) (jobs : List Job) : Except CalendarError Report :=
  (readAll v.jobReport jobs).map fun reports => reports.foldl Report.join {}

def checkJobs (v : Validator) (jobs : List Job) : Except CalendarError Report := do
  let report ← v.jobReports jobs
  if v.checks.overlap then return report.extend (← v.overlapIssues jobs) else return report

def checkEntries (v : Validator) (entries : List Entry) : Except CalendarError Report :=
  v.checkJobs (jobsOf entries)

def readFailure (message : String) : Report :=
  Report.add {} (Issue.ofCode .fileReadError message)

inductive Halt where
  | calendar (e : CalendarError)
  | nullInPath
  | undecodable (e : Text.Utf8.DecodeError)
  deriving DecidableEq, Repr

def checkRead (read : Except ReadError α) (what : String)
    (check : α → Except CalendarError Report) : Except Halt Report :=
  match read with
  | .ok a => (check a).mapError .calendar
  | .error (.reported e) => .ok (readFailure ("Failed to read " ++ what ++ ": " ++ e.message))
  | .error .nullInPath => .error .nullInPath
  | .error (.undecodable e) => .error (.undecodable e)

def checkFile (v : Validator) (h : Host) (path : String) : Except Halt Report :=
  checkRead (v.parser.readCrontab h path) "crontab file" v.checkEntries

def checkUser (v : Validator) (h : Host) : Except Halt Report :=
  checkRead (v.parser.readUser h) "user crontab" v.checkJobs

end Validator

end CronLint
