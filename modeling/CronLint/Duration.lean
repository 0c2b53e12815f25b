import CronLint.Text.Integer
import CronLint.Text.Quoted

/-!
# Durations

A duration is written as a number of minutes, or as hours, minutes and seconds in this order, of
which any may be missing. Seconds count as far as they make up whole minutes, and a duration has
one minute at least.
-/
namespace CronLint.Duration

inductive Fault where
  | malformed (text : List Char)
  /-- The text consists of digits that spell no number. -/
  | notANumber (text : List Char)
  | tooLong (digits : Nat)
  | belowOneMinute (text : List Char)
  deriving DecidableEq, Repr

namespace Fault

def shownLength : Nat := 200

def message : Fault → String
  | malformed text =>
    "invalid duration: " ++ String.ofList (Text.quoteChars text) ++
      " (use e.g. 24h, 30m or 1h30m)"
  | notANumber text =>
    "invalid literal for int() with base 10: " ++
      String.ofList ((Text.quoteChars text).take shownLength)
  | tooLong digits =>
    "Exceeds the limit (" ++ toString Text.maxDigits ++
      " digits) for integer string conversion: value has " ++ toString digits ++
      " digits; use sys.set_int_max_str_digits() to increase the limit"
  | belowOneMinute text =>
    "duration must be at least one minute: " ++ String.ofList (Text.quoteChars text)

end Fault

/-- The digits before a unit, and what follows it. There are no digits if the text does not start
with an amount of this unit. -/
def takeAmount (unit : Char) (cs : List Char) : List Char × List Char :=
  let digits := cs.takeWhile Text.isDecimal
  match cs.dropWhile Text.isDecimal with
  | [] => ([], cs)
  | c :: rest => if c = unit ∧ digits ≠ [] then (digits, rest) else ([], cs)

/-- The number that digits spell; a missing amount is zero. -/
def amount (digits : List Char) : Except Fault Nat :=
  if digits.isEmpty then .ok 0
  else
    match Text.readInteger digits with
    | .ok n => .ok n.toNat
    | .error (.tooLong n) => .error (.tooLong n)
    | .error .malformed => .error (.notANumber digits)

/-- The minutes in a text that has no blanks around it. -/
def minutesOf (cs : List Char) : Except Fault Nat :=
  if cs.isEmpty then .error (.malformed cs)
  else if cs.all Text.isDigit then amount cs
  else
    let (hours, afterHours) := takeAmount 'h' cs
    let (minutes, afterMinutes) := takeAmount 'm' afterHours
    let (seconds, rest) := takeAmount 's' afterMinutes
    if rest.isEmpty then do
      let hours ← amount hours
      let minutes ← amount minutes
      let seconds ← amount seconds
      return hours * 60 + minutes + seconds / 60
    else .error (.malformed cs)

/-- Reads a duration in whole minutes. Blanks around it do not matter. -/
def readMinutes (s : String) : Except Fault Nat := do
  let cs := Text.trim s.toList
  let minutes ← minutesOf cs
  if minutes < 1 then .error (.belowOneMinute cs) else .ok minutes

end CronLint.Duration
