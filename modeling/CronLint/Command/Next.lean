import CronLint.Calendar.Relative
import CronLint.Command.Basic
import CronLint.Command.Outcome

/-!
# The command next
-/
namespace CronLint.Command

open Calendar

def horizonYears : Int := 5

structure ListedRun where
  number : Nat
  time : Instant
  ahead : String
  deriving DecidableEq, Repr

def listRuns (now : Instant) (times : List Instant) : Except CalendarError (List ListedRun) :=
  readAll (fun (t, i) => (now.tellFrom t).map fun ahead => ⟨i + 1, t, ahead⟩) times.zipIdx

def ListedRun.toJson (r : ListedRun) : JsonValue :=
  .object [("number", .integer r.number), ("timestamp", .text r.time.iso),
    ("relative", .text r.ahead)]

def runsJson (expression : String) (runs : List ListedRun) : JsonValue :=
  .object [("expression", .text expression), ("timezone", .text "UTC"),
    ("next_runs", .list (runs.map ListedRun.toJson))]

def runsTable (expression : String) (runs : List ListedRun) : Terminal.Table where
  title :=
    markup ("Next " ++ toString runs.length ++ " " ++ (if runs.length = 1 then "run" else "runs") ++
      " for ") expression
  columns := [⟨"#", true⟩, ⟨"Time (UTC)", false⟩, ⟨"Relative", false⟩]
  rows := runs.map fun r =>
    [(toString r.number).toList, (r.time.date.iso ++ " " ++ r.time.clockToSecond).toList,
      r.ahead.toList]

def printRuns (expression : String) (runs : List ListedRun) : String :=
  if runs.isEmpty then
    print (markup "[yellow]No runs found for[/] [cyan]" expression ++ "[/]".toList)
  else Terminal.printTable (runsTable expression runs)

def runNext (o : NextOptions) (lib : Settings.Libraries) (h : Host) (now : Instant) :
    Except Stop (Nat × String) := do
  let settings ← loadSettings lib h
  let parser := Parser.forLocale settings.locale
  match parser.parse o.expression with
  | .error e => throw (complain "[red]✗[/] Invalid cron expression: " e.message)
  | .ok _ => pure ()
  let horizon ← (now.addYears horizonYears).mapError fun e => Stop.halt (.ofCalendar e)
  let times ← (parser.scheduler.next o.expression now o.count (some horizon)).mapError fun e =>
    Stop.halt (.ofSchedule e)
  let runs ← (listRuns now times).mapError fun e => Stop.halt (.ofCalendar e)
  let output :=
    if o.json then (runsJson o.expression runs).toText ++ "\n" else printRuns o.expression runs
  return (0, output)

end CronLint.Command
