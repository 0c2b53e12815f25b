import CronLint.Yaml.Token.Basic

/-!
# Plain scalars

A plain scalar has no quotes. It goes on over several lines as long as they are indented, and line
breaks in it are folded.
-/
namespace CronLint.Yaml

/-- A scalar, whether a line ended behind its last word, and the source after it. -/
structure PlainScalar where
  text : List Char
  lineEnded : Bool
  rest : Source
  deriving Repr

/-- Whether the word that goes on at a character ends before it. Between flow brackets fewer
characters are allowed. -/
def endsPlain (flow : Bool) (c following : Char) : Bool :=
  isGap c ||
    (c == ':' && (isGap following || (flow && ",[]\x7b\x7d".toList.contains following))) ||
    (flow && ",?[]\x7b\x7d".toList.contains c)

def takePlainRun (flow : Bool) : Source → List Char × Source
  | [] => ([], [])
  | p :: rest =>
    if endsPlain flow p.char (Source.next rest) then ([], p :: rest)
    else
      let (run, rest) := takePlainRun flow rest
      (p.char :: run, rest)

/-- Reads empty lines and spaces between the words of a scalar: the breaks after the first one, and
whether a mark between documents stopped the reading. -/
def takePlainBreaks : Source → List Char × Bool × Source
  | [] => ([], false, [])
  | p :: rest =>
    if p.char == ' ' then takePlainBreaks rest
    else if isBreak p.char then
      let broken := (Source.takeBreak (p :: rest)).1
      if Source.atDocumentMark rest then (broken, true, rest)
      else
        let (breaks, stopped, rest) := takePlainBreaks rest
        (broken ++ breaks, stopped, rest)
    else ([], false, p :: rest)

/-- A first line break and those after it, folded: a lone line feed becomes a space, and before
other breaks it is dropped. -/
def foldBreaks (first breaks : List Char) : List Char :=
  if first != ['\n'] then first ++ breaks
  else if breaks.isEmpty then [' ']
  else breaks

/-- What stands between two words of a scalar, and whether it ends a line. Nothing stands there if
the scalar ends here. -/
def takePlainGap (s : Source) : List Char × Bool × Source :=
  let (spaces, rest) := s.spanChars (· == ' ')
  if isBreak rest.next then
    let (first, rest) := rest.takeBreak
    if rest.atDocumentMark then ([], true, rest)
    else
      let (breaks, stopped, rest) := takePlainBreaks rest
      if stopped then ([], true, rest) else (foldBreaks first breaks, true, rest)
  else (spaces, false, rest)

/-- Reads words from here on; `gap` stands before the next one. The first argument bounds the
number of words. -/
def readPlainFrom (flow : Bool) (indent : Int) :
    Nat → (gap : List Char) → (lineEnded : Bool) → Source → PlainScalar
  | 0, _, lineEnded, s => ⟨[], lineEnded, s⟩
  | fuel + 1, gap, lineEnded, s =>
    let (run, rest) := takePlainRun flow s
    if s.next == '#' || run.isEmpty then ⟨[], lineEnded, s⟩
    else
      let (after, ended, rest) := takePlainGap rest
      if after.isEmpty || rest.next == '#' || (!flow && (rest.column : Int) < indent) then
        ⟨gap ++ run, ended, rest⟩
      else
        let more := readPlainFrom flow indent fuel after ended rest
        { more with text := gap ++ run ++ more.text }

def readPlain (flow : Bool) (indent : Int) (s : Source) : PlainScalar :=
  readPlainFrom flow indent s.length [] false s

end CronLint.Yaml
