import CronLint.Analysis.Validator
import CronLint.Command.Words
import CronLint.Settings.Load
import CronLint.Yaml.Scalar
import CronLint.Terminal.Table

/-!
# Outcomes of commands
-/
namespace CronLint.Command

inductive Halt where
  | validation (h : Validator.Halt)
  | loading (f : LoadFault)
  /-- The scheduler rejects an expression that was parsed. -/
  | rejected (r : Rejection)
  deriving DecidableEq, Repr

def Halt.message : Halt → String
  | .validation (.calendar e) => e.message
  | .validation .nullInPath => nullInPathMessage
  | .validation (.undecodable e) => e.message
  | .loading (.invalid complaints) => configurationMessage complaints
  | .loading (.path f) => f.text
  | .loading (.undecodable e) => e.message
  | .loading (.scalar f) => f.message
  | .loading (.interrupted exception) => exception
  | .rejected r => r.message

def Halt.ofCalendar (e : Calendar.CalendarError) : Halt := .validation (.calendar e)

def Halt.ofSchedule : ScheduleError → Halt
  | .rejected r => .rejected r
  | .calendar e => .ofCalendar e

def UsageFault.message : UsageFault → String
  | .noCommand => "missing command"
  | .unknownCommand name => "no such command: " ++ name
  | .unknownOption word => "no such option: " ++ word
  | .missingValue option => "option " ++ option ++ " requires a value"
  | .unexpectedValue option => "option " ++ option ++ " takes no value"
  | .badNumber option value => "invalid value for " ++ option ++ ": " ++ value
  | .missingArgument => "missing argument"
  | .tooManyArguments => "too many arguments"
  | .unknownSeverity text => Severity.unknownThresholdMessage text
  | .badWindow f => f.message

/-- How a command ends: with a status and what it printed, with a complaint about the way it was
called, or not at all. -/
inductive Outcome where
  | finished (status : Nat) (output : String)
  | misused (f : UsageFault)
  | halted (h : Halt)
  deriving DecidableEq, Repr

inductive Stop where
  | early (status : Nat) (output : String)
  | usage (f : UsageFault)
  | halt (h : Halt)
  deriving DecidableEq, Repr

def Stop.toOutcome : Stop → Outcome
  | early status output => .finished status output
  | usage f => .misused f
  | halt h => .halted h

def outcomeOf (r : Except Stop (Nat × String)) : Outcome :=
  match r with
  | .ok (status, output) => .finished status output
  | .error s => s.toOutcome

def markup (before text : String) : List Char := before.toList ++ Terminal.escape text.toList

/-- One printed line, or several if the text has line breaks. -/
def print (text : List Char) : String := Terminal.printMarkup text

def say (text : String) : String := print text.toList

def complain (before text : String) : Stop := .early 1 (print (markup before text))

/-- Loads the settings. Settings that do not fit are complained about. -/
def loadSettings (lib : Settings.Libraries) (h : Host) : Except Stop Settings :=
  match Settings.load lib h with
  | .ok s => .ok s
  | .error (.invalid complaints) =>
    .error (complain "[red]Error:[/] " (configurationMessage complaints))
  | .error f => .error (.halt (.loading f))

/-- Treats a crontab that cannot be read as an error with a message, or as a halt. -/
def readError (before : String) (e : ReadError) : Stop :=
  match e with
  | .reported e => complain before e.message
  | .nullInPath => .halt (.validation .nullInPath)
  | .undecodable e => .halt (.validation (.undecodable e))

end CronLint.Command
