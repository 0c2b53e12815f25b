import CronLint.Data
import CronLint.Settings.Basic
import CronLint.Text.Blank
import CronLint.Text.Integer

/-!
# Reading settings from data

Data are read field by field, and every field that does not fit is complained about. Values are
taken generously: a number may be written as text or as a real number without a fraction, and a
switch in any of the usual words.
-/
namespace CronLint

inductive Problem where
  | notText
  | emptyText
  | notInteger
  | unreadableInteger
  | integerTooLong
  | fractional
  | notFinite
  | belowOne
  | notSwitch
  | unclearSwitch
  deriving DecidableEq, Repr

def Problem.message : Problem → String
  | notText => "Input should be a valid string"
  | emptyText => "String should have at least 1 character"
  | notInteger => "Input should be a valid integer"
  | unreadableInteger => "Input should be a valid integer, unable to parse string as an integer"
  | integerTooLong => "Unable to parse input string as an integer, exceeded maximum size"
  | fractional => "Input should be a valid integer, got a number with a fractional part"
  | notFinite => "Input should be a finite number"
  | belowOne => "Input should be greater than or equal to 1"
  | notSwitch => "Input should be a valid boolean"
  | unclearSwitch => "Input should be a valid boolean, unable to interpret input"

namespace Settings

/-- Digits with single underscores between them. -/
def plainDigits (cs : List Char) : Option (List Nat) :=
  if cs.all fun c => c.isDigit || c == '_' then Text.digitRun? cs else none

/-- The text without a point and the zeros after it. -/
def withoutZeroFraction (cs : List Char) : List Char :=
  match Text.breakOn '.' cs with
  | (whole, some fraction) => if fraction.all (· == '0') then whole else cs
  | _ => cs

/-- The text without the zeros in front of its first other digit, and without underscores among
those zeros. -/
def withoutLeadingZeros (cs : List Char) : List Char :=
  if cs.head? = some '0' then
    let rest := cs.dropWhile fun c => c == '0' || c == '_'
    if (rest.head?.map Char.isDigit).getD false then rest
    else (cs.takeWhile fun c => c == '0' || c == '_').getLast?.toList ++ rest
  else cs

def hasLeadingZero : List Nat → Bool
  | 0 :: _ :: _ => true
  | _ => false

/-- Reads a number written as text. Zeros in front of it say nothing, but behind a minus sign there
must not be any. -/
def integerOfText (s : String) : Except Problem Int :=
  let (sign, body) := Text.readSign (Text.trimNumber s.toList)
  let body := if sign < 0 then body else withoutLeadingZeros body
  match plainDigits (withoutZeroFraction body) with
  | none => .error .unreadableInteger
  | some digits =>
    if hasLeadingZero digits then .error .unreadableInteger
    else if Text.maxDigits < digits.length then .error .integerTooLong
    else .ok (sign * Text.ofDigits digits)

def realBound : Float := 9223372036854775808.0

def integerOfReal (x : Float) : Except Problem Int :=
  if x.isNaN || x.isInf then .error .notFinite
  else if x.floor != x then .error .fractional
  else if -realBound < x && x < realBound then .ok x.toInt64.toInt
  else .error .integerTooLong

def readInteger : Data → Except Problem Int
  | .integer n => .ok n
  | .flag b => .ok (if b then 1 else 0)
  | .real x => integerOfReal x
  | .text s => integerOfText s
  | _ => .error .notInteger

def readPositive (d : Data) : Except Problem Int := do
  let n ← readInteger d
  if n < 1 then throw .belowOne
  return n

def switchOfInteger (n : Int) : Except Problem Bool :=
  if n = 0 then .ok false
  else if n = 1 then .ok true
  else if -9223372036854775808 ≤ n ∧ n ≤ 9223372036854775807 then .error .unclearSwitch
  else .error .notSwitch

def falseWords : List String := ["0", "off", "f", "false", "n", "no"]
def trueWords : List String := ["1", "on", "t", "true", "y", "yes"]

def switchOfText (s : String) : Except Problem Bool :=
  let word := s.map Char.toLower
  if falseWords.contains word then .ok false
  else if trueWords.contains word then .ok true
  else .error .unclearSwitch

def readSwitch : Data → Except Problem Bool
  | .flag b => .ok b
  | .integer n => switchOfInteger n
  | .real x =>
    match integerOfReal x with
    | .ok n => switchOfInteger n
    | .error _ => .error .notSwitch
  | .text s => switchOfText s
  | _ => .error .notSwitch

def readText : Data → Except Problem String
  | .text s => if s.isEmpty then .error .emptyText else .ok s
  | _ => .error .notText

/-- Reads the field with a name, which has a default if it is missing. -/
def readField (entries : List (Data × Data)) (name : String) (default : α)
    (read : Data → Except Problem α) : α × List Complaint :=
  match Data.get? entries name with
  | none => (default, [])
  | some d =>
    match read d with
    | .ok a => (a, [])
    | .error problem => (default, [⟨[name], problem.message⟩])

/-- Checks a mapping. Entries that are no settings are ignored. -/
def ofEntries (entries : List (Data × Data)) : Except (List Complaint) Settings :=
  let d : Settings := {}
  let locale := readField entries "locale" d.locale readText
  let frequency := readField entries "enable_frequency" d.enableFrequency readSwitch
  let runs := readField entries "max_runs_per_day" d.maxRunsPerDay readPositive
  let hygiene := readField entries "enable_hygiene" d.enableHygiene readSwitch
  let overlap := readField entries "warn_on_overlap" d.warnOnOverlap readSwitch
  let window := readField entries "overlap_window_minutes" d.overlapWindowMinutes readPositive
  match locale.2 ++ frequency.2 ++ runs.2 ++ hygiene.2 ++ overlap.2 ++ window.2 with
  | [] => .ok ⟨locale.1, frequency.1, runs.1, hygiene.1, overlap.1, window.1⟩
  | complaints => .error complaints

def notMapping : Complaint :=
  ⟨[], "Input should be a valid dictionary or instance of CheckSettings"⟩

def ofData : Data → Except (List Complaint) Settings
  | .mapping entries => ofEntries entries
  | _ => .error [notMapping]

end Settings

end CronLint
