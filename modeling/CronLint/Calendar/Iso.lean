import CronLint.Calendar.Instant

/-!
# ISO 8601 notation of instants

Written with a `T` between date and time, with six decimals only if the second is not whole, and
with the offset only if it is known. Reading also takes fewer or more decimals and cuts them to
six.
-/
namespace CronLint.Calendar

def padded : (width n : Nat) → List Char
  | 0, _ => []
  | width + 1, n => padded width (n / 10) ++ [Nat.digitChar (n % 10)]

def pad (width n : Nat) : String := String.ofList (padded width n)

def Date.iso (d : Date) : String := pad 4 d.year ++ "-" ++ pad 2 d.month ++ "-" ++ pad 2 d.day

/-- The same without zeros in front of the year. -/
def Date.told (d : Date) : String := toString d.year ++ "-" ++ pad 2 d.month ++ "-" ++ pad 2 d.day

/-- Hours and minutes, and seconds unless they are zero. -/
def isoOffset (seconds : Int) : String :=
  let n := seconds.natAbs
  (if seconds < 0 then "-" else "+") ++ pad 2 (n / 3600) ++ ":" ++ pad 2 (n / 60 % 60) ++
    (if n % 60 = 0 then "" else ":" ++ pad 2 (n % 60))

namespace Instant

def clockToMinute (t : Instant) : String := pad 2 t.hour ++ ":" ++ pad 2 t.minute

def clockToSecond (t : Instant) : String := t.clockToMinute ++ ":" ++ pad 2 t.second

def iso (t : Instant) : String :=
  t.date.iso ++ "T" ++ t.clockToSecond ++
    (if t.microsecond = 0 then "" else "." ++ pad 6 t.microsecond) ++
    (t.offset.map isoOffset).getD ""

def readNumber : (width : Nat) → (value : Nat) → List Char → Option (Nat × List Char)
  | 0, value, cs => some (value, cs)
  | width + 1, value, c :: cs =>
    if c.isDigit then readNumber width (value * 10 + (c.toNat - 48)) cs else none
  | _ + 1, _, [] => none

def readMark (mark : Char) : List Char → Option (List Char)
  | [] => none
  | c :: cs => if c = mark then some cs else none

def readDecimals (cs : List Char) : Option (Nat × List Char) :=
  match cs with
  | '.' :: cs =>
    let digits := cs.takeWhile Char.isDigit
    if digits.isEmpty then none
    else do
      let (n, _) ← readNumber 6 0 ((digits ++ List.replicate 6 '0').take 6)
      return (n, cs.dropWhile Char.isDigit)
  | cs => some (0, cs)

def readOffset : List Char → Option (Option Int)
  | [] => some none
  | ['Z'] => some (some 0)
  | sign :: cs => do
    if sign ≠ '+' ∧ sign ≠ '-' then none
    let (h, cs) ← readNumber 2 0 cs
    let cs ← readMark ':' cs
    let (m, cs) ← readNumber 2 0 cs
    let s ← match cs with
      | [] => some 0
      | ':' :: cs => (readNumber 2 0 cs).bind fun (s, rest) => if rest.isEmpty then some s else none
      | _ => none
    let seconds : Int := h * 3600 + m * 60 + s
    return some (if sign = '-' then -seconds else seconds)

def ofIso? (s : String) : Option Instant := do
  let (year, cs) ← readNumber 4 0 s.toList
  let cs ← readMark '-' cs
  let (month, cs) ← readNumber 2 0 cs
  let cs ← readMark '-' cs
  let (day, cs) ← readNumber 2 0 cs
  let cs ← readMark 'T' cs
  let (hour, cs) ← readNumber 2 0 cs
  let cs ← readMark ':' cs
  let (minute, cs) ← readNumber 2 0 cs
  let cs ← readMark ':' cs
  let (second, cs) ← readNumber 2 0 cs
  let (micro, cs) ← readDecimals cs
  let offset ← readOffset cs
  let date : Date := ⟨year, month, day⟩
  if date.exists? && hour < 24 && minute < 60 && second < 60 then
    return ⟨wallAt date (((hour * 60 + minute) * 60 + second) * 1000000 + micro), offset⟩
  else none

end Instant

end CronLint.Calendar
