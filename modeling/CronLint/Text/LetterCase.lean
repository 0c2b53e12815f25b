import CronLint.Text.Table.UpperCase

/-!
# Letter case

`upper` gives the full upper-case form of a text, in which a character may grow into several.
`lowerAscii` lowers far enough to compare a text with an ASCII word: every other capital has a
lower-case form outside ASCII, so leaving it alone does not change the outcome.
-/
namespace CronLint.Text

def isAsciiLower (c : Char) : Bool := 'a' ≤ c && c ≤ 'z'

def isAsciiUpper (c : Char) : Bool := 'A' ≤ c && c ≤ 'Z'

/-- The capital of a letter beyond ASCII, or the character itself. -/
def capital (c : Char) : Char :=
  match capitalRuns.find? fun r =>
      r.first ≤ c.toNat && c.toNat ≤ r.last && (c.toNat - r.first) % r.stride == 0 with
  | some r => Char.ofNat (c.toNat + r.shift).toNat
  | none => c

def upperChar (c : Char) : List Char :=
  if isAsciiLower c then [Char.ofNat (c.toNat - 32)]
  else if c.toNat < 128 then [c]
  else
    match capitalExpansions.lookup c.toNat with
    | some codes => codes.map Char.ofNat
    | none => [capital c]

def upper (cs : List Char) : List Char := cs.flatMap upperChar

theorem upper_append (a b : List Char) : upper (a ++ b) = upper a ++ upper b := by
  simp [upper]

/-- The Kelvin sign is the one character beyond ASCII whose lower-case form is in ASCII. -/
def lowerAsciiChar (c : Char) : Char :=
  if isAsciiUpper c then Char.ofNat (c.toNat + 32)
  else if c == '\u212a' then 'k'
  else c

def lowerAscii (cs : List Char) : List Char := cs.map lowerAsciiChar

end CronLint.Text
