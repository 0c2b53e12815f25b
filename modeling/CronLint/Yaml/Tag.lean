import CronLint.Text.Integer
import CronLint.Text.Split

/-!
# Tags

The tag of a node says what kind of value it stands for. A plain scalar without a tag gets the first
one whose form its text has, and is a text otherwise.
-/
namespace CronLint.Yaml

inductive Tag where
  | null
  | flag
  | integer
  | real
  | time
  | text
  | binary
  | sequence
  | mapping
  | orderedMapping
  | pairs
  | set
  | merge
  | value
  | unknown
  deriving DecidableEq, Repr

namespace Tag

/-- What the names of the standard tags start with. -/
def standardStart : List Char := "tag:yaml.org,2002:".toList

def standardNames : List (String × Tag) := [
  ("null", null), ("bool", flag), ("int", integer), ("float", real), ("timestamp", time),
  ("str", text), ("binary", binary), ("seq", sequence), ("map", mapping),
  ("omap", orderedMapping), ("pairs", pairs), ("set", set), ("merge", merge), ("value", value)]

def ofName (name : List Char) : Tag :=
  if standardStart.isPrefixOf name then
    (standardNames.lookup (String.ofList (name.drop standardStart.length))).getD unknown
  else unknown

def isUnderscored (p : Char → Bool) (cs : List Char) : Bool := cs.all fun c => p c || c == '_'

def isDigits : List Char → Bool
  | [] => false
  | c :: cs => c.isDigit && isUnderscored Char.isDigit cs

/-- A number of minutes or seconds after a colon. -/
def isSixtieth : List Char → Bool
  | [c] => c.isDigit
  | [c, d] => '0' ≤ c && c ≤ '5' && d.isDigit
  | _ => false

def isSexagesimal (cs : List Char) : Bool :=
  match Text.segments (· == ':') cs with
  | first :: second :: rest => isDigits first && (second :: rest).all isSixtieth
  | _ => false

def isHexDigit (c : Char) : Bool := c.isDigit || ('a' ≤ c && c ≤ 'f') || ('A' ≤ c && c ≤ 'F')

def isInteger (cs : List Char) : Bool :=
  match (Text.readSign cs).2 with
  | ['0'] => true
  | '0' :: 'b' :: c :: cs => isUnderscored (fun c => c == '0' || c == '1') (c :: cs)
  | '0' :: 'x' :: c :: cs => isUnderscored isHexDigit (c :: cs)
  | '0' :: cs => isUnderscored (fun c => '0' ≤ c && c ≤ '7') cs
  | cs => isDigits cs || isSexagesimal cs

/-- The exponent of a real number, or nothing. -/
def isExponent : List Char → Bool
  | [] => true
  | e :: sign :: c :: cs =>
    (e == 'e' || e == 'E') && (sign == '+' || sign == '-') && (c :: cs).all Char.isDigit
  | _ => false

def isFraction (cs : List Char) : Bool :=
  isExponent (cs.dropWhile fun c => c.isDigit || c == '_')

def isReal (cs : List Char) : Bool :=
  let (_, body) := Text.readSign cs
  let signed := cs.length != body.length
  match Text.breakOn '.' body with
  | (_, none) => false
  | ([], some rest) =>
    ["inf", "Inf", "INF"].contains (String.ofList rest) ||
      (!signed && (["nan", "NaN", "NAN"].contains (String.ofList rest) ||
        ((rest.head?.map Char.isDigit).getD false && isFraction rest)))
  | (whole, some rest) =>
    (isDigits whole && isFraction rest) ||
      (isSexagesimal whole && isUnderscored Char.isDigit rest)

def dropDigits : List Char → Option (List Char)
  | c :: d :: cs => if c.isDigit then some (if d.isDigit then cs else d :: cs) else none
  | [c] => if c.isDigit then some [] else none
  | [] => none

def dropExactly (count : Nat) (cs : List Char) : Option (List Char) :=
  if (cs.take count).length = count ∧ (cs.take count).all Char.isDigit then some (cs.drop count)
  else none

def dropMark (mark : Char) : List Char → Option (List Char)
  | c :: cs => if c == mark then some cs else none
  | [] => none

def isTabOrSpace (c : Char) : Bool := c == ' ' || c == '\t'

/-- An offset from UTC, or nothing. -/
def isOffset (cs : List Char) : Bool :=
  match cs.dropWhile isTabOrSpace with
  | [] => cs.isEmpty
  | ['Z'] => true
  | sign :: rest =>
    (sign == '+' || sign == '-') &&
      match dropDigits rest with
      | some [] => true
      | some (':' :: minutes) => dropExactly 2 minutes == some []
      | _ => false

/-- A time of day with an offset. -/
def isClock (cs : List Char) : Bool :=
  let rest := do
    let cs ← dropDigits cs
    let cs ← dropExactly 2 (← dropMark ':' cs)
    dropExactly 2 (← dropMark ':' cs)
  match rest with
  | some ('.' :: rest) => isOffset (rest.dropWhile Char.isDigit)
  | some rest => isOffset rest
  | none => false

/-- What follows a date: the letter between date and time, or blanks, and then the time. -/
def isClockPart (cs : List Char) : Bool :=
  match cs with
  | [] => false
  | c :: rest =>
    if c == 'T' || c == 't' then isClock rest
    else isTabOrSpace c && isClock (rest.dropWhile isTabOrSpace)

def dropDate (cs : List Char) : Option (List Char) := do
  let cs ← dropMark '-' (← dropExactly 4 cs)
  let cs ← dropMark '-' (← dropDigits cs)
  dropDigits cs

def isTime (cs : List Char) : Bool :=
  let isDate := do
    let cs ← dropMark '-' (← dropExactly 4 cs)
    let cs ← dropMark '-' (← dropExactly 2 cs)
    dropExactly 2 cs
  isDate == some [] || (dropDate cs).any isClockPart

def flagWords : List String :=
  ["yes", "Yes", "YES", "no", "No", "NO", "true", "True", "TRUE", "false", "False", "FALSE",
    "on", "On", "ON", "off", "Off", "OFF"]

def nullWords : List String := ["", "~", "null", "Null", "NULL"]

/-- The tag of a plain scalar that has none. -/
def ofPlain (cs : List Char) : Tag :=
  let word := String.ofList cs
  if flagWords.contains word then flag
  else if nullWords.contains word then null
  else if word == "<<" then merge
  else if word == "=" then value
  else if isReal cs then real
  else if isInteger cs then integer
  else if isTime cs then time
  else text

end Tag

end CronLint.Yaml
