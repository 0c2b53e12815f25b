import CronLint.Schedule.Basic

/-!
# Steps of one

A step of exactly one has no effect, and a field written with it can be simplified.
-/
namespace CronLint

/-- Whether a field is written with a step of one at its end. -/
def endsInUnitStep (raw : List Char) : Bool := ['/', '1'].isSuffixOf raw

def Schedule.hasUnitStep (s : Schedule) : Bool :=
  s.fields.toList.any fun f => endsInUnitStep f.raw.toList

/-- The expression with `*` for every field that ends in a step of one. What does not consist of
five words is left alone. -/
def withoutUnitSteps (expression : String) : String :=
  let fields := Text.words expression.toList
  if fields.length = 5 then
    String.ofList (Text.joinWith [' '] (fields.map fun f => if endsInUnitStep f then ['*'] else f))
  else expression

end CronLint
