import CronLint.Terminal.Width
import CronLint.Text.Blank
import CronLint.Text.Split

/-!
# Lines on a terminal

Text is cut into lines at line feeds, tabs are filled up with spaces, and a line that is too wide
goes on in the next one from a word on. A word that is wider than a whole line is folded over
several lines, or cut off where there is no place for that.
-/
namespace CronLint.Terminal

/-- The control characters that are left out: bell, backspace, vertical tab, form feed and carriage
return. -/
def isDropped (c : Char) : Bool := [7, 8, 11, 12, 13].contains c.toNat

def tabWidth : Nat := 8

/-- The text with spaces for tabs; `column` is where it starts. -/
def expandTabs (column : Nat) : List Char → List Char
  | [] => []
  | c :: cs =>
    if c = '\t' then
      let gap := tabWidth - column % tabWidth
      spaces gap ++ expandTabs (column + gap) cs
    else c :: expandTabs (column + charWidth c) cs

/-- The length of the first word, with the blanks on both of its sides. -/
def wordLength (cs : List Char) : Nat :=
  let fromWord := cs.dropWhile Text.isBlank
  let behind := fromWord.dropWhile (!Text.isBlank ·)
  cs.length - (behind.dropWhile Text.isBlank).length

/-- The words of a line, each with the blanks behind it, the first also with those before it. The
first argument bounds their number. -/
def wordsWithBlanks : Nat → List Char → List (List Char)
  | 0, _ => []
  | fuel + 1, cs =>
    if cs.all Text.isBlank then []
    else cs.take (wordLength cs) :: wordsWithBlanks fuel (cs.drop (wordLength cs))

/-- Cuts a text into pieces of at most a width. `room` is left for the first of them. -/
def chopFrom (total : Nat) : (room : Nat) → List Char → List (List Char)
  | _, [] => [[]]
  | room, c :: cs =>
    let w := charWidth c
    if room < w then
      match chopFrom total (total - w) cs with
      | piece :: rest => [] :: (c :: piece) :: rest
      | [] => [[], [c]]
    else
      match chopFrom total (room - w) cs with
      | piece :: rest => (c :: piece) :: rest
      | [] => [[c]]

def chop (total : Nat) (cs : List Char) : List (List Char) := chopFrom total total cs

/-- What becomes of a word that is wider than a line. -/
inductive Overflow where
  /-- The word goes on in further lines. -/
  | fold
  /-- The word keeps its line, which is cut off and ends in an ellipsis. -/
  | ellipsis
  deriving DecidableEq, Repr

/-- Distributes words over lines of a width. `line` is what the current line holds so far and
`used` is its width. -/
def fillLines (overflow : Overflow) (total : Nat) : (line : List Char) → (used : Nat) →
    List (List Char) → List (List Char)
  | line, _, [] => [line]
  | line, used, word :: words =>
    let needed := width (Text.trimEnd word)
    if used + needed ≤ total then fillLines overflow total (line ++ word) (used + width word) words
    else if total < needed then
      let pieces := if overflow = .fold then chop total word else [word]
      let last := pieces.getLast?.getD []
      (if line.isEmpty then [] else [line]) ++ pieces.dropLast ++
        fillLines overflow total last (width last) words
    else line :: fillLines overflow total word (width word) words

/-- The line without the blanks at its end that are beyond a width. -/
def trimBeyond (total : Nat) (line : List Char) : List Char :=
  let blanks := line.length - (Text.trimEnd line).length
  line.take (line.length - min blanks (line.length - total))

def fitting (room : Nat) : List Char → List Char
  | [] => []
  | c :: cs => if room < charWidth c then [] else c :: fitting (room - charWidth c) cs

/-- The line, or as much of it as a width allows; an ellipsis takes the last cell. -/
def cutOff (overflow : Overflow) (total : Nat) (line : List Char) : List Char :=
  if width line ≤ total then line
  else
    match overflow with
    | .fold => padTo total (fitting total line)
    | .ellipsis => padTo (total - 1) (fitting (total - 1) line) ++ ['…']

def wrapLine (overflow : Overflow) (total : Nat) (line : List Char) : List (List Char) :=
  let words := wordsWithBlanks line.length line
  let lines := if words.isEmpty then [line] else fillLines overflow total [] 0 words
  lines.map fun line => cutOff overflow total (trimBeyond total line)

def paragraphs (text : List Char) : List (List Char) :=
  Text.segments (· == '\n') (text.filter (!isDropped ·))

def wrap (total : Nat) (text : List Char) (overflow : Overflow := .fold) : List (List Char) :=
  (paragraphs text).flatMap fun line => wrapLine overflow total (expandTabs 0 line)

end CronLint.Terminal
