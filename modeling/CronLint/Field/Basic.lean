/-!
# Fields

A field is a list of parts, each of which denotes a progression of values within the bounds of the
field or of its own. `values` is what all parts denote together.
-/
namespace CronLint

/-- One member of a field: every value, a single value or an inclusive range, each with a step. -/
inductive Part where
  | every (step : Int)
  | single (value step : Int)
  | range (start stop step : Int)
  deriving DecidableEq, Repr

def Part.step : Part → Int
  | .every step | .single _ step | .range _ _ step => step

/-- A field as written, its parts, and the bounds of its position. -/
structure Field where
  raw : String
  parts : List Part
  low : Int
  high : Int
  parts_ne_nil : parts ≠ []
  deriving DecidableEq

/-- `first, first + step, …` as far as `last`. -/
def progression (first last step : Int) : List Int :=
  if last < first then []
  else
    (List.range (((last - first) / step).toNat + 1)).map fun (k : Nat) => first + step * (k : Int)

def dropRepeats : List Int → List Int
  | [] => []
  | [a] => [a]
  | a :: b :: rest => if a = b then dropRepeats (b :: rest) else a :: dropRepeats (b :: rest)

def ascending (values : List Int) : List Int :=
  dropRepeats (values.mergeSort fun a b => decide (a ≤ b))

theorem mem_dropRepeats {x : Int} {l : List Int} : x ∈ dropRepeats l ↔ x ∈ l := by
  fun_induction dropRepeats l with
  | case1 => simp
  | case2 => simp
  | case3 b rest ih => simp [ih]
  | case4 a b rest h ih => simp [ih]

theorem mem_ascending {x : Int} {l : List Int} : x ∈ ascending l ↔ x ∈ l := by
  simp [ascending, mem_dropRepeats]

namespace Part

/-- The values that a part denotes in a field from `low` to `high`. A step below two means none;
a single value with a step runs on to the upper bound. -/
def values (low high : Int) : Part → List Int
  | .every step => progression low high (max step 1)
  | .range start stop step => progression start stop (max step 1)
  | .single value step => if 1 < step then progression value high step else [value]

end Part

namespace Field

def ofParts? (raw : String) (parts : List Part) (low high : Int) : Option Field :=
  if h : parts ≠ [] then some ⟨raw, parts, low, high, h⟩ else none

def noPartsMessage (raw : String) : String := "Field '" ++ raw ++ "' has no parts"

/-- The field is a lone wildcard, with no step or a step of one. -/
def isEvery (f : Field) : Bool :=
  match f.parts with
  | [.every step] => decide (step ≤ 1)
  | _ => false

/-- Some part has a step above one. -/
def isStep (f : Field) : Bool := f.parts.any fun p => decide (1 < p.step)

/-- The first step above one, or one. -/
def stepValue (f : Field) : Int :=
  ((f.parts.find? fun p => decide (1 < p.step)).map Part.step).getD 1

/-- The field is a lone range, with any step. -/
def isRange (f : Field) : Bool :=
  match f.parts with
  | [.range ..] => true
  | _ => false

def rangeBounds? (f : Field) : Option (Int × Int) :=
  match f.parts with
  | [.range start stop _] => some (start, stop)
  | _ => none

def isList (f : Field) : Bool := decide (1 < f.parts.length)

/-- The field is a lone value, with no step or a step of one. -/
def isSingle (f : Field) : Bool :=
  match f.parts with
  | [.single _ step] => decide (step ≤ 1)
  | _ => false

def value? (f : Field) : Option Int :=
  match f.parts with
  | [.single value step] => if step ≤ 1 then some value else none
  | _ => none

def values (f : Field) : List Int := ascending (f.parts.flatMap (Part.values f.low f.high))

theorem mem_values {f : Field} {v : Int} :
    v ∈ f.values ↔ ∃ p ∈ f.parts, v ∈ p.values f.low f.high := by
  simp [values, mem_ascending]

end Field

end CronLint
