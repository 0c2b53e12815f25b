import CronLint.Field.Reading
import CronLint.Position
import CronLint.Text.Quoted

/-!
# Spans of values

A scheduler reads each member of a field as a span: the values from `first` to `last` that a
number of steps reaches. Its grammar is strict. A member has one slash and one hyphen at most,
values lie within the bounds of the position, names belong to their own position, and a single
value with a step runs on to the upper bound.
-/
namespace CronLint

inductive GrammarFault where
  | unknownAlias (name : String)
  | fieldCount (fields : List String)
  | notANumber (text : String) (position : Position)
  | badStep (step member : String)
  | tooManySlashes (member : String)
  | tooManyHyphens (member : String)
  | stepNotPositive (member : String)
  | belowMinimum (first : Int) (low : Nat) (member : String)
  | aboveMaximum (last : Int) (high : Nat) (member : String)
  | reversed (first last : Int) (member : String)
  deriving DecidableEq, Repr

namespace GrammarFault

def kind : GrammarFault → ErrorKind
  | unknownAlias _ => .unknownAlias
  | fieldCount _ => .fieldCount
  | belowMinimum .. | aboveMaximum .. => .outOfRange
  | _ => .grammar

def message : GrammarFault → String
  | unknownAlias name => "unrecognized descriptor: " ++ name
  | fieldCount fields =>
    "expected exactly 5 fields, found " ++ toString fields.length ++ ": " ++ Text.quoteList fields
  | notANumber text position =>
    "failed to parse int from " ++ Text.quote text ++ " in " ++ position.label
  | badStep step member => "failed to parse int from " ++ Text.quote step ++ ": " ++ member
  | tooManySlashes member => "too many slashes: " ++ member
  | tooManyHyphens member => "too many hyphens: " ++ member
  | stepNotPositive member => "step of range should be a positive number: " ++ member
  | belowMinimum first low member =>
    "beginning of range (" ++ toString first ++ ") below minimum (" ++ toString low ++ "): " ++
      member
  | aboveMaximum last high member =>
    "end of range (" ++ toString last ++ ") above maximum (" ++ toString high ++ "): " ++ member
  | reversed first last member =>
    "beginning of range (" ++ toString first ++ ") beyond end of range (" ++ toString last ++
      "): " ++ member

def toRejection (f : GrammarFault) : Rejection := { kind := f.kind, message := f.message }

end GrammarFault

/-- The values `first, first + step, …` up to `last`. A span written `*`, with no step or a step of
one, leaves its position unrestricted. -/
structure Span where
  first : Nat
  last : Nat
  step : Nat
  unrestricted : Bool
  deriving DecidableEq, Repr

def Span.admits (s : Span) (v : Nat) : Bool :=
  s.first ≤ v && v ≤ s.last && (v - s.first) % s.step == 0

namespace Position

/-- The value of a number or of one of the position's names, in any case. -/
def readValue (p : Position) (text : List Char) : Except GrammarFault Int :=
  match p.names.lookup (String.ofList (Text.lowerAscii text)) with
  | some v => .ok v
  | none =>
    match Text.integer? text with
    | some v => .ok v
    | none => .error (.notANumber (String.ofList text) p)

/-- The ends of a span before its step is taken into account. The second component says whether
both ends are written. -/
def readEnds (p : Position) (member base : List Char) :
    Except GrammarFault ((Int × Int) × Bool) := do
  if base = ['*'] then return ((p.low, p.high), true)
  match Text.breakOn '-' base with
  | (value, none) =>
    let v ← p.readValue value
    return ((v, v), false)
  | (first, some last) =>
    if last.contains '-' then throw (.tooManyHyphens (String.ofList member))
    return ((← p.readValue first, ← p.readValue last), true)

def readStep (member : List Char) : Option (List Char) → Except GrammarFault Int
  | none => .ok 1
  | some text =>
    match Text.integer? text with
    | none => .error (.badStep (String.ofList text) (String.ofList member))
    | some step =>
      if step ≤ 0 then .error (.stepNotPositive (String.ofList member)) else .ok step

/-- The span with these ends, if they are in order and within the bounds of the position. -/
def spanBetween (p : Position) (member : List Char) (first last step : Int) (star : Bool) :
    Except GrammarFault Span :=
  let text := String.ofList member
  if first < p.low then .error (.belowMinimum first p.low text)
  else if p.high < last then .error (.aboveMaximum last p.high text)
  else if last < first then .error (.reversed first last text)
  else .ok ⟨first.toNat, last.toNat, step.toNat, star && step == 1⟩

def readSpan (p : Position) (member : List Char) : Except GrammarFault Span := do
  let (base, stepText) := Text.breakOn '/' member
  if (stepText.getD []).contains '/' then throw (.tooManySlashes (String.ofList member))
  let ((first, last), bothWritten) ← p.readEnds member base
  let step ← readStep member stepText
  let last := if stepText.isSome && !bothWritten then (p.high : Int) else last
  p.spanBetween member first last step (base == ['*'])

end Position

end CronLint
