/-!
# Rounding quotients

`roundHalfEven` rounds a quotient to the nearest integer. `Binary.nearest` rounds it to the nearest
number with 53 significant bits, the precision in which percentages are reckoned.
-/
namespace CronLint

/-- The integer nearest to `a / b`; of two equally near ones the even one. -/
def roundHalfEven (a b : Nat) : Nat :=
  let q := a / b
  let r := a % b
  if 2 * r < b then q
  else if b < 2 * r then q + 1
  else if q % 2 = 0 then q
  else q + 1

/-- The number `significand / 2 ^ places`. -/
structure Binary where
  significand : Nat
  places : Nat
  deriving DecidableEq, Repr

namespace Binary

/-- The number of binary places that gives `num / den` 53 significant bits. The quotient must not
be so large that it takes none. -/
def placesFor (num den : Nat) : Nat :=
  let places := 52 + den.log2 - num.log2
  if num * Nat.pow 2 places / den < Nat.pow 2 52 then places + 1 else places

/-- The number with 53 significant bits that is nearest to `num / den`. -/
def nearest (num den : Nat) : Binary :=
  if num = 0 then ⟨0, 0⟩
  else
    let places := placesFor num den
    ⟨roundHalfEven (num * Nat.pow 2 places) den, places⟩

/-- `factor` times a number, rounded again. -/
def scale (x : Binary) (factor : Nat) : Binary :=
  nearest (x.significand * factor) (Nat.pow 2 x.places)

def hundredths (x : Binary) : Nat :=
  roundHalfEven (x.significand * 100) (Nat.pow 2 x.places)

end Binary

/-- `part / whole` as a percentage with two decimals, in hundredths of a percent. The quotient and
the percentage are each rounded to 53 significant bits on the way. -/
def percentHundredths (part whole : Nat) : Nat :=
  ((Binary.nearest part whole).scale 100).hundredths

end CronLint
