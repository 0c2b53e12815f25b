import CronLint.Text.Lines
import CronLint.Text.Range

/-!
# Placed characters

A document is read as a list of characters, each with its place. The list ends with a NUL, which no
document may hold, so that there always is a next character to look at.
-/
namespace CronLint.Yaml

structure Mark where
  index : Nat
  line : Nat
  column : Nat
  deriving DecidableEq, Repr

structure Placed where
  char : Char
  mark : Mark
  deriving DecidableEq, Repr

abbrev Source := List Placed

def byteOrderMark : Char := '\ufeff'

/-- The characters that end a line, after line breaks have been unified. -/
def isBreak (c : Char) : Bool := c == '\n' || c == '\x85' || c == '\u2028' || c == '\u2029'

def isBreakOrEnd (c : Char) : Bool := c == '\x00' || isBreak c

def isSpaceOrEnd (c : Char) : Bool := c == ' ' || isBreakOrEnd c

def isGap (c : Char) : Bool := c == '\t' || isSpaceOrEnd c

/-- The characters that a document may hold, as inclusive ranges of code points. -/
def allowedRanges : List (Nat × Nat) := [
  (0x9, 0xa), (0xd, 0xd), (0x20, 0x7e), (0x85, 0x85), (0xa0, 0xd7ff), (0xe000, 0xfffd),
  (0x10000, 0x10ffff)]

def isAllowed (c : Char) : Bool := Text.inRanges allowedRanges c

/-- The place after a character. A byte order mark takes no column. -/
def Mark.after (m : Mark) (c : Char) : Mark :=
  if isBreak c then ⟨m.index + 1, m.line + 1, 0⟩
  else if c == byteOrderMark then { m with index := m.index + 1 }
  else { m with index := m.index + 1, column := m.column + 1 }

namespace Source

def placeFrom : Mark → List Char → Source
  | m, [] => [⟨'\x00', m⟩]
  | m, c :: cs => ⟨c, m⟩ :: placeFrom (m.after c) cs

/-- The characters of a text at their places, with a NUL at the end. A byte order mark at the very
start is left out. -/
def ofText (text : List Char) : Source :=
  match placeFrom ⟨0, 0, 0⟩ text with
  | ⟨'\ufeff', _⟩ :: rest => rest
  | source => source

def peek (s : Source) (k : Nat) : Char :=
  match s[k]? with
  | some p => p.char
  | none => '\x00'

def next (s : Source) : Char := s.peek 0

def mark (s : Source) : Mark :=
  match s with
  | p :: _ => p.mark
  | [] => ⟨0, 0, 0⟩

def skip (s : Source) (k : Nat) : Source := s.drop k

def column (s : Source) : Nat := s.mark.column

/-- The characters up to the first that fails a test, and what follows them. -/
def spanChars (p : Char → Bool) (s : Source) : List Char × Source :=
  ((s.takeWhile fun c => p c.char).map (·.char), s.dropWhile fun c => p c.char)

def dropChars (p : Char → Bool) (s : Source) : Source := s.dropWhile fun c => p c.char

def dropComment (s : Source) : Source :=
  if s.next == '#' then s.dropChars (!isBreakOrEnd ·) else s

/-- Reads a line break. The two Unicode separators stand for themselves and all other breaks for a
line feed. -/
def takeBreak (s : Source) : List Char × Source :=
  match s with
  | [] => ([], [])
  | p :: rest =>
    if p.char == '\u2028' || p.char == '\u2029' then ([p.char], rest)
    else if isBreak p.char then (['\n'], rest)
    else ([], s)

/-- Whether three marks in a row separate documents here. -/
def atSeparator (s : Source) (c : Char) : Bool :=
  s.peek 0 == c && s.peek 1 == c && s.peek 2 == c && isGap (s.peek 3)

/-- Whether one document ends or another starts here. -/
def atDocumentMark (s : Source) : Bool := s.atSeparator '-' || s.atSeparator '.'

end Source

end CronLint.Yaml
