/-!
# Lines

Two rules for where a line ends. Stored files and streams know the line feed, the carriage return
and the pair of both. Text already in memory also breaks at the vertical tab, the form feed, three
information separators, the next-line control and the two Unicode separators. A break at the very
end starts no further line.
-/
namespace CronLint.Text

/-- The breaks of stored text. -/
def isNewline (c : Char) : Bool := c == '\n' || c == '\r'

/-- The breaks of text in memory. -/
def isLineBreak (c : Char) : Bool :=
  let n := c.toNat
  (10 ≤ n && n ≤ 13) || (28 ≤ n && n ≤ 30) || n == 0x85 || n == 0x2028 || n == 0x2029

theorem isLineBreak_of_isNewline {c : Char} (h : isNewline c = true) : isLineBreak c = true := by
  simp only [isNewline, Bool.or_eq_true, beq_iff_eq] at h
  rcases h with rfl | rfl <;> decide

/-- The lines of a text without their breaks. A carriage return and the line feed after it are one
break. -/
def linesBy (isBreak : Char → Bool) : List Char → List (List Char)
  | [] => []
  | '\r' :: '\n' :: cs => [] :: linesBy isBreak cs
  | c :: cs =>
    if isBreak c then [] :: linesBy isBreak cs
    else
      match linesBy isBreak cs with
      | [] => [[c]]
      | l :: ls => (c :: l) :: ls

def lines (cs : List Char) : List (List Char) := linesBy isLineBreak cs

def storedLines (cs : List Char) : List (List Char) := linesBy isNewline cs

/-- Every break of stored text as a line feed. -/
def unifyNewlines : List Char → List Char
  | [] => []
  | '\r' :: '\n' :: cs => '\n' :: unifyNewlines cs
  | '\r' :: cs => '\n' :: unifyNewlines cs
  | c :: cs => c :: unifyNewlines cs

end CronLint.Text
