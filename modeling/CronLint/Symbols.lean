import CronLint.Text.LetterCase

/-!
# Names of days and months

A locale has names for days and names for months. Names are compared in upper case, and a name
that stands for both a day and a month is taken as a day.
-/
namespace CronLint

def upperText (s : String) : String := String.ofList (Text.upper s.toList)

def lastValue? (entries : List (String × α)) (key : String) : Option α :=
  entries.reverse.lookup key

/-- The names of one locale, in upper case. -/
structure Symbols where
  locale : String
  days : List (String × Int)
  months : List (String × Int)
  deriving DecidableEq, Repr

namespace Symbols

def ofNames (locale : String) (days months : List (String × Int)) : Symbols :=
  let raised := List.map fun (name, value) => (upperText name, value)
  ⟨locale, raised days, raised months⟩

/-- The value of a name. Only the whole name counts, and blanks around it belong to it. -/
def resolve? (s : Symbols) (name : String) : Option Int :=
  let key := upperText name
  (lastValue? s.days key).or (lastValue? s.months key)

def english : Symbols where
  locale := "en"
  days := [("SUN", 0), ("MON", 1), ("TUE", 2), ("WED", 3), ("THU", 4), ("FRI", 5), ("SAT", 6)]
  months := [("JAN", 1), ("FEB", 2), ("MAR", 3), ("APR", 4), ("MAY", 5), ("JUN", 6), ("JUL", 7),
    ("AUG", 8), ("SEP", 9), ("OCT", 10), ("NOV", 11), ("DEC", 12)]

end Symbols

structure SymbolTable where
  locales : List (String × Symbols)
  fallback : Symbols := Symbols.english

namespace SymbolTable

def standard : SymbolTable := { locales := [("en", Symbols.english)] }

/-- The names for a locale, and whether they are the fallback because the locale is unknown. -/
def lookup (t : SymbolTable) (locale : String) : Symbols × Bool :=
  match lastValue? t.locales locale with
  | some s => (s, false)
  | none => (t.fallback, true)

/-- The known locales in ascending order, each once. -/
def localeNames (t : SymbolTable) : List String :=
  (t.locales.map (·.1)).eraseDups.mergeSort fun a b => decide (a ≤ b)

end SymbolTable

end CronLint
