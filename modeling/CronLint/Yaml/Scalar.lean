import CronLint.Calendar.Date
import CronLint.Data
import CronLint.Text.Quoted
import CronLint.Yaml.Fault
import CronLint.Yaml.Tag

/-!
# Values of scalars
-/
namespace CronLint.Yaml

def withoutUnderscores (cs : List Char) : List Char := cs.filter (· != '_')

def digitIn? (base : Nat) (c : Char) : Option Nat :=
  let n := c.toLower.toNat
  let d := if c.isDigit then n - 48 else if 97 ≤ n ∧ n ≤ 122 then n - 87 else base
  if d < base then some d else none

def numberIn (base : Nat) (cs : List Char) : Except ScalarFault Int :=
  match cs.mapM (digitIn? base) with
  | none | some [] => .error (.notInteger base cs)
  | some digits => .ok ((digits.foldl (fun n d => n * base + d) 0 : Nat) : Int)

def decimalNumber (cs : List Char) : Except ScalarFault Int :=
  match Text.readInteger cs with
  | .ok n => .ok n
  | .error .malformed => .error (.notInteger 10 cs)
  | .error (.tooLong digits) => .error (.integerTooLong digits)

/-- The number with these digits to the base of sixty, the first digit being the highest. -/
def inSixties (digits : List Int) : Int := digits.foldl (fun n d => n * 60 + d) 0

/-- A number without underscores and without its sign. -/
def unsignedInteger (cs : List Char) : Except ScalarFault Int :=
  match cs with
  | [] => .error .emptyNumber
  | ['0'] => .ok 0
  | '0' :: 'b' :: digits => numberIn 2 digits
  | '0' :: 'x' :: digits => numberIn 16 digits
  | '0' :: _ => numberIn 8 cs
  | _ =>
    if cs.contains ':' then do
      return inSixties (← (Text.segments (· == ':') cs).mapM decimalNumber)
    else decimalNumber cs

/-- An integer in decimal, binary, octal or hexadecimal notation, or in sixtieths. -/
def integerValue (cs : List Char) : Except ScalarFault Int :=
  let (sign, body) := Text.readSign (withoutUnderscores cs)
  (unsignedInteger body).map (sign * ·)

/-- The real number with these digits before and after the point and this exponent. -/
def realOfDigits (whole fraction : List Nat) (exponent : Int) : Float :=
  let scale : Int := exponent - fraction.length
  Float.ofScientific (Text.ofDigits (whole ++ fraction)) (decide (scale < 0)) scale.natAbs

def asciiDigits? (cs : List Char) : Option (List Nat) := cs.mapM (digitIn? 10)

def exponent? (cs : List Char) : Option Int :=
  match cs with
  | [] => some 0
  | e :: rest =>
    let (sign, digits) := Text.readSign rest
    if e == 'e' && !digits.isEmpty then
      (asciiDigits? digits).map fun ds => sign * (Text.ofDigits ds : Int)
    else none

/-- A real number in lower case without its sign. -/
def unsignedReal? (cs : List Char) : Option Float := do
  let mantissa := cs.takeWhile (· != 'e')
  let (whole, fraction) := Text.breakOn '.' mantissa
  let whole ← asciiDigits? whole
  let fraction ← asciiDigits? (fraction.getD [])
  let exponent ← exponent? (cs.dropWhile (· != 'e'))
  if whole.isEmpty && fraction.isEmpty then none
  else some (realOfDigits whole fraction exponent)

def infinity : Float := 1.0 / 0.0

def realValue (cs : List Char) : Except ScalarFault Float := do
  let cs := (withoutUnderscores cs).map Char.toLower
  if cs.isEmpty then throw .emptyNumber
  let (sign, body) := Text.readSign cs
  let signed := fun x : Float => if sign < 0 then -x else x
  if [".inf", "inf", "infinity"].contains (String.ofList body) then return signed infinity
  if [".nan", "nan"].contains (String.ofList body) then return 0.0 / 0.0
  let parts ← (Text.segments (· == ':') body).mapM fun part =>
    match unsignedReal? part with
    | some x => .ok x
    | none => .error (.notReal part)
  return signed (parts.foldl (fun n x => n * 60.0 + x) 0.0)

def trueWords : List String := ["yes", "true", "on"]
def falseWords : List String := ["no", "false", "off"]

def flagValue (cs : List Char) : Except ScalarFault Bool :=
  let word := (String.ofList cs).map Char.toLower
  if trueWords.contains word then .ok true
  else if falseWords.contains word then .ok false
  else .error .notFlag

def numbersOf (cs : List Char) : List Nat :=
  ((Text.segments (!Char.isDigit ·) cs).filter (!·.isEmpty)).map fun digits =>
    Text.ofDigits (digits.map fun c => c.toNat - 48)

def spanText (seconds : Int) : String :=
  let part := fun (name : String) (n : Int) => if n = 0 then [] else [name ++ "=" ++ toString n]
  let parts := part "days" (seconds / 86400) ++ part "seconds" (seconds % 86400)
  "datetime.timedelta(" ++ (if parts.isEmpty then "0" else ", ".intercalate parts) ++ ")"

def offsetProblem? (cs : List Char) : Option String := do
  let sign ← cs.head?
  let (hours, minutes) ← match numbersOf cs with
    | [h] => some (h, 0)
    | [h, m] => some (h, m)
    | _ => none
  let seconds : Int := hours * 3600 + minutes * 60
  if seconds < 86400 then none
  else some ("offset must be a timedelta strictly between -timedelta(hours=24) and " ++
    "timedelta(hours=24), not " ++ spanText (if sign = '-' then -seconds else seconds) ++ ".")

def dateProblem? (year month day : Nat) : Option String :=
  if year = 0 then some "year 0 is out of range"
  else if month < 1 ∨ 12 < month then some "month must be in 1..12"
  else if day < 1 ∨ Calendar.daysInMonth year month < day then
    some "day is out of range for month"
  else none

def clockProblem? (hour minute second : Nat) : Option String :=
  if 23 < hour then some "hour must be in 0..23"
  else if 59 < minute then some "minute must be in 0..59"
  else if 59 < second then some "second must be in 0..59"
  else none

def timeProblem? (cs : List Char) : Option String :=
  let date := cs.take (cs.length - ((Tag.dropDate cs).getD []).length)
  let clock := (Tag.dropDate cs).getD []
  let offset := (clock.dropWhile fun c => c != '+' && c != '-')
  match numbersOf date, numbersOf clock with
  | year :: month :: day :: _, hour :: minute :: second :: _ =>
    ((offsetProblem? offset).or (dateProblem? year month day)).or (clockProblem? hour minute second)
  | year :: month :: day :: _, _ => dateProblem? year month day
  | _, _ => none

def checkTime (cs : List Char) : Except ScalarFault Unit :=
  if Tag.isTime cs || Tag.dropDate cs == some [] then
    match timeProblem? cs with
    | some message => .error (.noSuchTime message)
    | none => .ok ()
  else .error .notTime

/-- The value of a scalar with a tag, if scalars may have it. -/
def scalarValue (tag : Tag) (cs : List Char) : Except Fault Data :=
  let checked := fun {α : Type} (f : α → Data) (x : Except ScalarFault α) =>
    (x.map f).mapError Fault.scalar
  match tag with
  | .null => .ok .null
  | .flag => checked .flag (flagValue cs)
  | .integer => checked .integer (integerValue cs)
  | .real => checked .real (realValue cs)
  | .time => checked (fun () => .other) (checkTime cs)
  | .text => .ok (.text (String.ofList cs))
  | .binary => .ok .other
  | .sequence | .mapping | .orderedMapping | .pairs | .set | .merge | .value | .unknown =>
    .error .malformed

namespace ScalarFault

def message : ScalarFault → String
  | noCharacter _ => "chr() arg not in range(0x110000)"
  | notInteger base text =>
    "invalid literal for int() with base " ++ toString base ++ ": " ++
      String.ofList ((Text.quoteChars text).take 200)
  | integerTooLong digits =>
    "Exceeds the limit (" ++ toString Text.maxDigits ++
      " digits) for integer string conversion: value has " ++ toString digits ++
      " digits; use sys.set_int_max_str_digits() to increase the limit"
  | notReal text => "could not convert string to float: " ++ String.ofList (Text.quoteChars text)
  | noSuchTime message => message
  | emptyNumber | notFlag | notTime => ""

end ScalarFault

end CronLint.Yaml
