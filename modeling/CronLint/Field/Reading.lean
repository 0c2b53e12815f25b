import CronLint.Field.Basic
import CronLint.Rejection
import CronLint.Symbols
import CronLint.Text.Integer
import CronLint.Text.Split
import CronLint.Traversal

/-!
# Reading fields

A field is a list of parts between commas. A part is `*`, a value, or two values joined by a
hyphen, and may end in a slash and a step. Values are integers or names of the locale. Bounds are
not checked here.
-/
namespace CronLint

inductive FieldFault where
  /-- A value is neither an integer nor a name of the locale. -/
  | unresolved (token locale : String)
  /-- The step of a part is no integer. -/
  | invalidStep (step part : String)
  deriving DecidableEq, Repr

namespace FieldFault

def kind : FieldFault → ErrorKind
  | unresolved .. => .unresolvedValue
  | invalidStep .. => .grammar

def message : FieldFault → String
  | unresolved token _ => "unresolved value '" ++ token ++ "'"
  | invalidStep step part => "invalid step '" ++ step ++ "' in '" ++ part ++ "'"

def context : FieldFault → List (String × Detail)
  | unresolved token locale => [("token", .text token), ("locale", .text locale)]
  | invalidStep _ part => [("part", .text part)]

end FieldFault

/-- The value of a token: an integer if it can be read as one, else a name. -/
def Symbols.readValue (s : Symbols) (token : List Char) : Except FieldFault Int :=
  match Text.integer? token with
  | some n => .ok n
  | none =>
    let token := String.ofList token
    match s.resolve? token with
    | some n => .ok n
    | none => .error (.unresolved token s.locale)

namespace Part

def readBase (s : Symbols) (base : List Char) (step : Int) : Except FieldFault Part := do
  if base = ['*'] then return .every step
  match Text.breakOn '-' base with
  | (start, some stop) => return .range (← s.readValue start) (← s.readValue stop) step
  | (value, none) => return .single (← s.readValue value) step

/-- Reads a part. The step is looked at first. -/
def read (s : Symbols) (text : List Char) : Except FieldFault Part :=
  match Text.breakOn '/' text with
  | (base, none) => readBase s base 1
  | (base, some stepText) =>
    match Text.integer? stepText with
    | some step => readBase s base step
    | none => .error (.invalidStep (String.ofList stepText) (String.ofList text))

end Part

namespace Field

def members (raw : String) : List (List Char) := Text.segments (· == ',') raw.toList

theorem members_ne_nil (raw : String) : members raw ≠ [] := Text.segments_ne_nil _ _

/-- There is a part for each member, so there is one at least. -/
theorem ne_nil_of_readAll {f : List Char → Except ε α} {raw : String} {parts : List α}
    (h : readAll f (members raw) = .ok parts) : parts ≠ [] := by
  rintro rfl
  exact members_ne_nil raw (List.length_eq_zero_iff.mp (readAll_length h).symm)

def read (s : Symbols) (raw : String) (low high : Int) : Except FieldFault Field :=
  match h : readAll (Part.read s) (members raw) with
  | .error e => .error e
  | .ok parts => .ok ⟨raw, parts, low, high, ne_nil_of_readAll h⟩

end Field

end CronLint
