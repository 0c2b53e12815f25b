import CronLint.Yaml.Token.Property

/-!
# Block scalars

A block scalar consists of indented lines. A literal one keeps its line breaks, a folded one turns a
break between two lines that start with text into a space. The breaks at the end are clipped to
one, unless the header says to strip or to keep them.
-/
namespace CronLint.Yaml

inductive Chomping where
  | strip
  | clip
  | keep
  deriving DecidableEq, Repr

/-- How the breaks at the end are treated, and the indentation if it is given. -/
structure BlockHeader where
  chomping : Chomping := .clip
  increment : Option Nat := none
  deriving DecidableEq, Repr

def chomping? (c : Char) : Option Chomping :=
  if c == '+' then some .keep else if c == '-' then some .strip else none

def readIncrement (s : Source) : Except Fault (Option Nat × Source) :=
  let c := s.next
  if c == '0' then malformed
  else if c.isDigit then .ok (some (c.toNat - 48), s.skip 1)
  else .ok (none, s)

/-- Reads the header behind the sign of a block scalar, with the end of its line. Its two parts come
in either order. -/
def readBlockHeader (s : Source) : Except Fault (BlockHeader × Source) := do
  let (header, rest) ←
    match chomping? s.next with
    | some chomping => do
      let (increment, rest) ← readIncrement (s.skip 1)
      pure ((⟨chomping, increment⟩ : BlockHeader), rest)
    | none => do
      let (increment, rest) ← readIncrement s
      match increment, chomping? rest.next with
      | some n, some chomping => pure (⟨chomping, some n⟩, rest.skip 1)
      | increment, _ => pure (⟨.clip, increment⟩, rest)
  if isSpaceOrEnd rest.next then return (header, ← finishLine rest) else malformed

/-- Reads empty lines whose spaces may reach any column: the breaks, and the rightmost column
reached. -/
def takeEmptyLines (column : Nat) : Source → List Char × Nat × Source
  | [] => ([], column, [])
  | p :: rest =>
    if p.char == ' ' then takeEmptyLines (max column (p.mark.column + 1)) rest
    else if isBreak p.char then
      let (breaks, column, after) := takeEmptyLines column rest
      ((Source.takeBreak (p :: rest)).1 ++ breaks, column, after)
    else ([], column, p :: rest)

/-- Reads empty lines, and the indentation of the line after them. -/
def takeIndentedBreaks (indent : Nat) : Source → List Char × Source
  | [] => ([], [])
  | p :: rest =>
    if p.char == ' ' && p.mark.column < indent then takeIndentedBreaks indent rest
    else if isBreak p.char then
      let (breaks, after) := takeIndentedBreaks indent rest
      ((Source.takeBreak (p :: rest)).1 ++ breaks, after)
    else ([], p :: rest)

def atBlockLine (indent : Nat) (s : Source) : Bool := s.column == indent && s.next != '\x00'

def startsBlank (s : Source) : Bool := s.next == ' ' || s.next == '\t'

/-- The breaks at the end of a scalar: the last one of its lines, and those of empty lines. -/
def chomp (chomping : Chomping) (last breaks : List Char) : List Char :=
  match chomping with
  | .strip => []
  | .clip => last
  | .keep => last ++ breaks

/-- What comes between two lines: the break itself, or a space for a folded one. -/
def betweenLines (folded : Bool) (lineStartsBlank nextStartsBlank : Bool)
    (last breaks : List Char) : List Char :=
  if folded && last == ['\n'] && !lineStartsBlank && !nextStartsBlank then
    if breaks.isEmpty then [' '] else []
  else last

/-- Reads the lines of a scalar, the first of which has just been reached. The first argument bounds
their number. -/
def readBlockLines (folded : Bool) (chomping : Chomping) (indent : Nat) :
    Nat → (breaks : List Char) → Source → List Char × Source
  | 0, _, s => ([], s)
  | fuel + 1, breaks, s =>
    let (line, rest) := s.spanChars (!isBreakOrEnd ·)
    let (last, rest) := rest.takeBreak
    let (after, rest) := takeIndentedBreaks indent rest
    if atBlockLine indent rest then
      let between := betweenLines folded (startsBlank s) (startsBlank rest) last after
      let (more, rest) := readBlockLines folded chomping indent fuel after rest
      (breaks ++ line ++ between ++ more, rest)
    else (breaks ++ line ++ chomp chomping last after, rest)

/-- Reads a block scalar, whose sign is at the start of the source, in a block of the given
indentation. -/
def readBlock (parent : Int) (s : Source) : Except Fault (List Char × Source) := do
  let (header, rest) ← readBlockHeader (s.skip 1)
  let least := (max 1 (parent + 1)).toNat
  let (indent, breaks, rest) :=
    match header.increment with
    | some n =>
      let indent := least + n - 1
      let (breaks, rest) := takeIndentedBreaks indent rest
      (indent, breaks, rest)
    | none =>
      let (breaks, column, rest) := takeEmptyLines 0 rest
      (max least column, breaks, rest)
  if atBlockLine indent rest then
    return readBlockLines (s.next == '>') header.chomping indent rest.length breaks rest
  else return (chomp header.chomping [] breaks, rest)

end CronLint.Yaml
