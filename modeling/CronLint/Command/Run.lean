import CronLint.Command.Check
import CronLint.Command.Next
import CronLint.Command.Stats

/-!
# Running a command line
-/
namespace CronLint.Command

def versionText : String := "Cronkit v0.4.0"

def run (c : Command) (lib : Settings.Libraries) (h : Host) (now : Calendar.Instant) : Outcome :=
  match c with
  | .check o => outcomeOf (runCheck o lib h now)
  | .next o => outcomeOf (runNext o lib h now)
  | .stats o => outcomeOf (runStats o lib h)
  | .version => .finished 0 (say versionText)

def runWords (words : List String) (lib : Settings.Libraries) (h : Host) (now : Calendar.Instant) :
    Outcome :=
  match ofWords words with
  | .error f => .misused f
  | .ok c => c.run lib h now

end CronLint.Command
