import CronLint.Analysis.Statistics
import CronLint.Command.Basic
import CronLint.Command.Outcome

/-!
# The command stats
-/
namespace CronLint.Command

open Calendar

def cell (n : Nat) : List Char := (toString n).toList

def frequencyTable (title : String) (frequencies : List JobFrequency) : Terminal.Table where
  title := title.toList
  columns := [⟨"Job", false⟩, ⟨"Expression", false⟩, ⟨"Runs/day", true⟩, ⟨"Runs/hour", true⟩]
  rows := frequencies.map fun f =>
    [markup "" f.jobId, markup "" f.expression, cell f.runsPerDay, cell f.runsPerHour]

def hourName (hour : Nat) : List Char := (pad 2 hour ++ ":00").toList

def busyHourTable (hours : List HourCount) : Terminal.Table where
  title := "Busiest hours (UTC)".toList
  columns := [⟨"Hour", false⟩, ⟨"Runs", true⟩, ⟨"Jobs", true⟩]
  rows := hours.map fun c => [hourName c.hour, cell c.runs, cell c.jobs]

def barLength : Nat := 40

def bar (runs peak : Nat) : List Char := List.replicate (runs * barLength / peak) '█'

def histogramTable (histogram : List Nat) : Terminal.Table where
  title := "Runs by hour (UTC)".toList
  columns := [⟨"Hour", false⟩, ⟨"Runs", true⟩, ⟨"", false⟩]
  rows := histogram.zipIdx.map fun (runs, hour) =>
    [hourName hour, cell runs,
      "[green]".toList ++ bar runs (histogram.foldl max 0) ++ "[/]".toList]

def printStatistics (s : Statistics) (top : Int) (verbose : Bool) : String :=
  say "[bold]Crontab statistics[/]" ++
    say ("  Total jobs: " ++ toString s.totalJobs) ++
    say ("  Total runs per day: " ++ toString s.totalRunsPerDay) ++
    say ("  Total runs per hour: " ++ toString s.totalRunsPerHour) ++
    say ("  Max concurrent: " ++ toString s.maxConcurrent) ++
    say ("  Collision frequency: " ++ twoDecimals s.collisionFrequency ++ "%") ++
    say "" ++
    Terminal.printTable (frequencyTable "Most frequent jobs" (s.mostFrequent top)) ++
    Terminal.printTable (frequencyTable "Least frequent jobs" (s.leastFrequent top)) ++
    (if (s.busiestHours (some top)).isEmpty then ""
      else Terminal.printTable (busyHourTable (s.busiestHours (some top)))) ++
    if verbose then Terminal.printTable (histogramTable s.hourHistogram.toList) else ""

/-- The jobs of the first source that is given: a file, the input or the user's crontab. -/
def readJobs (o : StatsOptions) (p : Parser) (h : Host) : Except ReadError (List Job) :=
  match o.file with
  | some path => (p.readCrontab h path).map jobsOf
  | none =>
    if o.fromInput then ((p.readStream h.input).map jobsOf).mapError .reported else p.readUser h

def runStats (o : StatsOptions) (lib : Settings.Libraries) (h : Host) :
    Except Stop (Nat × String) := do
  let settings ← loadSettings lib h
  let parser := Parser.forLocale settings.locale
  let jobs ← (readJobs o parser h).mapError (readError "[red]Error:[/] failed to read crontab: ")
  let s ← (parser.scheduler.statistics referenceInstant jobs).mapError fun e =>
    Stop.halt (.ofCalendar e)
  let output :=
    if o.json then (s.toJson o.top).toText ++ "\n"
    else if s.frequencies.isEmpty then
      say ("[yellow]No valid jobs found[/] (" ++ toString jobs.length ++ " job(s) read)")
    else printStatistics s o.top o.verbose
  return (0, output)

end CronLint.Command
