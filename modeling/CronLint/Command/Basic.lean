import CronLint.Command.Words

/-!
# Commands

The program checks crontabs, lists upcoming runs, gives statistics, and tells its version.
-/
namespace CronLint

structure CheckOptions where
  expression : Option String
  file : Option String
  fromInput : Bool
  json : Bool
  verbose : Bool
  threshold : String
  maxRunsPerDay : Option Int
  skipFrequency : Bool
  hygiene : Bool
  overlap : Bool
  overlapWindow : Option String
  locale : Option String
  deriving DecidableEq, Repr

structure NextOptions where
  expression : String
  count : Int
  json : Bool
  deriving DecidableEq, Repr

structure StatsOptions where
  file : Option String
  fromInput : Bool
  json : Bool
  verbose : Bool
  top : Int
  deriving DecidableEq, Repr

inductive Command where
  | check (o : CheckOptions)
  | next (o : NextOptions)
  | stats (o : StatsOptions)
  | version
  deriving DecidableEq, Repr

namespace Command

def fileForm : OptionForm := { name := "--file", letter := some 'f', takesValue := true }
def inputForm : OptionForm := { name := "--stdin" }
def jsonForm : OptionForm := { name := "--json", letter := some 'j' }
def verboseForm : OptionForm := { name := "--verbose", letter := some 'v' }

def checkForms : List OptionForm := [
  fileForm, inputForm, jsonForm, verboseForm,
  { name := "--fail-on", takesValue := true },
  { name := "--max-runs-per-day", takesValue := true },
  { name := "--no-frequency-checks" },
  { name := "--hygiene-checks" },
  { name := "--warn-on-overlap" },
  { name := "--overlap-window", takesValue := true },
  { name := "--locale", takesValue := true }]

def nextForms : List OptionForm :=
  [{ name := "--count", letter := some 'c', takesValue := true }, jsonForm]

def statsForms : List OptionForm :=
  [fileForm, inputForm, jsonForm, verboseForm, { name := "--top", takesValue := true }]

/-- The numbers of runs that can be listed at once. -/
def maxCount : Int := 100
def defaultCount : Int := 10

def defaultTop : Int := 5

def number? (w : Words) (name : String) (low : Int) (high : Option Int) :
    Except UsageFault (Option Int) :=
  match w.value? name with
  | none => .ok none
  | some text =>
    match Text.integer? text.toList with
    | none => .error (.badNumber name text)
    | some n =>
      if n < low ∨ high.any (· < n) then .error (.badNumber name text) else .ok (some n)

def argument? (w : Words) : Except UsageFault (Option String) :=
  match w.arguments with
  | [] => .ok none
  | [a] => .ok (some a)
  | _ => .error .tooManyArguments

def refuseArguments (w : Words) : Except UsageFault Unit :=
  if w.arguments.isEmpty then .ok () else .error .tooManyArguments

def readCheck (words : List String) : Except UsageFault CheckOptions := do
  let w ← readWords checkForms words
  let maxRunsPerDay ← number? w "--max-runs-per-day" 1 none
  return {
    expression := ← argument? w
    file := w.value? "--file"
    fromInput := w.has "--stdin"
    json := w.has "--json"
    verbose := w.has "--verbose"
    threshold := (w.value? "--fail-on").getD "error"
    maxRunsPerDay
    skipFrequency := w.has "--no-frequency-checks"
    hygiene := w.has "--hygiene-checks"
    overlap := w.has "--warn-on-overlap"
    overlapWindow := w.value? "--overlap-window"
    locale := w.value? "--locale" }

def readNext (words : List String) : Except UsageFault NextOptions := do
  let w ← readWords nextForms words
  let count ← number? w "--count" 1 (some maxCount)
  match ← argument? w with
  | none => throw .missingArgument
  | some expression =>
    return { expression, count := count.getD defaultCount, json := w.has "--json" }

def readStats (words : List String) : Except UsageFault StatsOptions := do
  let w ← readWords statsForms words
  let top ← number? w "--top" 1 none
  refuseArguments w
  return {
    file := w.value? "--file"
    fromInput := w.has "--stdin"
    json := w.has "--json"
    verbose := w.has "--verbose"
    top := top.getD defaultTop }

def readNamed (name : String) (words : List String) : Except UsageFault Command :=
  match name with
  | "check" => Command.check <$> readCheck words
  | "next" => Command.next <$> readNext words
  | "stats" => Command.stats <$> readStats words
  | "version" => do
    refuseArguments (← readWords [] words)
    return .version
  | _ => .error (.unknownCommand name)

/-- Reads a command line. There are no options before the name of the command. -/
def ofWords (words : List String) : Except UsageFault Command :=
  match words with
  | [] | ["--"] => .error .noCommand
  | "--" :: name :: rest => readNamed name rest
  | name :: rest => if isOptionWord name then .error (.unknownOption name) else readNamed name rest

end Command

end CronLint
