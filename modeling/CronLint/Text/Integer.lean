import CronLint.Text.Blank
import CronLint.Text.Digit

/-!
# Integer literals

A literal is an optional sign and decimal digits of any script, with single underscores allowed
between digits and blanks allowed around the whole. Literals of more than `maxDigits` digits are
refused, leading zeros included.
-/
namespace CronLint.Text

def maxDigits : Nat := 4300

inductive IntegerFault where
  | malformed
  | tooLong (digits : Nat)
  deriving DecidableEq, Repr

/-- The values of digits in which single underscores may stand between neighbours. -/
def digitRun? : List Char → Option (List Nat)
  | [] => none
  | c :: cs =>
    match digitValue? c, cs with
    | none, _ => none
    | some d, [] => some [d]
    | some d, '_' :: rest => (digitRun? rest).map (d :: ·)
    | some d, cs => (digitRun? cs).map (d :: ·)

/-- The blanks allowed around a number; the information separators are not among them. -/
def isNumberBlank (c : Char) : Bool := isBlank c && !(28 ≤ c.toNat && c.toNat ≤ 31)

def trimNumber (cs : List Char) : List Char :=
  ((cs.dropWhile isNumberBlank).reverse.dropWhile isNumberBlank).reverse

/-- The sign of a literal, and what follows it. -/
def readSign : List Char → Int × List Char
  | '-' :: cs => (-1, cs)
  | '+' :: cs => (1, cs)
  | cs => (1, cs)

/-- Reads an integer literal. A text that starts with too many digits is too long, whatever
follows them. -/
def readInteger (cs : List Char) : Except IntegerFault Int :=
  let (sign, body) := readSign (trimNumber cs)
  let run := body.takeWhile fun c => isDecimal c || c == '_'
  match digitRun? run with
  | none => .error .malformed
  | some digits =>
    if maxDigits < digits.length then .error (.tooLong digits.length)
    else if run.length = body.length then .ok (sign * ofDigits digits)
    else .error .malformed

def integer? (cs : List Char) : Option Int := (readInteger cs).toOption

end CronLint.Text
