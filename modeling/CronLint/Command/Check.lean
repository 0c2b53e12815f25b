import CronLint.Command.Basic
import CronLint.Command.Outcome

/-!
# The command check
-/
namespace CronLint.Command

def signOf : Severity → String × String
  | .error => ("red", "✗")
  | .warn => ("yellow", "⚠")
  | .info => ("blue", "ℹ")

def printHead (i : Issue) : String :=
  let (style, sign) := signOf i.severity
  let place := if i.line = 0 then "" else "Line " ++ toString i.line ++ ": "
  print (markup ("  [" ++ style ++ "]" ++ sign ++ "[/] [dim]" ++ i.code.id ++ "[/] " ++ place)
    i.message)

def printIssue (i : Issue) : String :=
  printHead i ++
    (if i.expression.isEmpty then ""
      else print (markup "      [dim]Expression:[/] [cyan]" i.expression ++ "[/]".toList)) ++
    (if i.hint.isEmpty then "" else print (markup "      [dim]Hint:[/] " i.hint))

def countLine (sign what : String) (issues : List Issue) : String :=
  if issues.isEmpty then ""
  else say (sign ++ " Found " ++ toString issues.length ++ " " ++ what ++ "(s)")

/-- The report as text: a summary, and then errors, warnings and information. Warnings are told at
length on request only. -/
def printReport (r : Report) (verbose : Bool) : String :=
  let shown := r.shown verbose
  if shown.isEmpty then
    say "[green]✓[/] All valid" ++
      if 0 < r.totalJobs then say ("  " ++ toString r.totalJobs ++ " job(s) validated") else ""
  else
    let errors := shown.filter Issue.isError
    let warnings := shown.filter Issue.isWarning
    let infos := shown.filter Issue.isInfo
    countLine "[red]✗[/]" "error" errors ++ countLine "[yellow]⚠[/]" "warning" warnings ++
      countLine "[blue]ℹ[/]" "info message" infos ++
      (if 0 < r.totalJobs then
        say ("  Total jobs: " ++ toString r.totalJobs) ++
        say ("  Valid: " ++ toString r.validJobs) ++
          say ("  Invalid: " ++ toString r.invalidJobs)
      else "") ++
      say "" ++ String.join (errors.map printIssue) ++
      String.join (warnings.map (if verbose then printIssue else printHead)) ++
      String.join (infos.map printIssue)

def reportJson (r : Report) (verbose : Bool) (p : Parser) (s : Settings) : JsonValue :=
  .object (r.jsonMembers verbose ++ [("locale", .text p.symbols.locale)] ++
    if p.usesFallback then [("requestedLocale", .text s.locale)] else [])

def withOptions (o : CheckOptions) (s : Settings) : Except Stop Settings := do
  let window ← match o.overlapWindow with
    | none => pure s.overlapWindowMinutes
    | some text =>
      match Duration.readMinutes text with
      | .ok minutes => pure (minutes : Int)
      | .error f => throw (.usage (.badWindow f))
  return {
    locale := o.locale.getD s.locale
    enableFrequency := !o.skipFrequency && s.enableFrequency
    maxRunsPerDay := o.maxRunsPerDay.getD s.maxRunsPerDay
    enableHygiene := o.hygiene || s.enableHygiene
    warnOnOverlap := o.overlap || s.warnOnOverlap
    overlapWindowMinutes := window }

/-- Checks the first source that is given: an expression, a file, the input or the user's
crontab. -/
def checkSource (o : CheckOptions) (v : Validator) (h : Host) : Except Stop Report :=
  match o.expression, o.file with
  | some e, _ => (v.checkExpression e).mapError fun e => .halt (.ofCalendar e)
  | none, some path => (v.checkFile h path).mapError fun e => .halt (.validation e)
  | none, none =>
    if o.fromInput then
      match v.parser.readStream h.input with
      | .error e =>
        .error (complain "[red]Error:[/] failed to read crontab from stdin: " e.message)
      | .ok entries => (v.checkEntries entries).mapError fun e => .halt (.ofCalendar e)
    else (v.checkUser h).mapError fun e => .halt (.validation e)

def runCheck (o : CheckOptions) (lib : Settings.Libraries) (h : Host) (now : Calendar.Instant) :
    Except Stop (Nat × String) := do
  let threshold ← match Severity.ofText? o.threshold with
    | some s => pure s
    | none => throw (.usage (.unknownSeverity o.threshold))
  let settings ← withOptions o (← loadSettings lib h)
  let validator ← (Validator.ofSettings settings calendarScheduler now).mapError fun e =>
    Stop.halt (.ofCalendar e)
  let report ← checkSource o validator h
  let output :=
    if o.json then (reportJson report o.verbose validator.parser settings).toText ++ "\n"
    else printReport report o.verbose
  return (report.exitStatus threshold o.verbose, output)

end CronLint.Command
