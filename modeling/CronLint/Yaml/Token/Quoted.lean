import CronLint.Yaml.Token.Plain
import CronLint.Yaml.Token.Property

/-!
# Quoted scalars

In single quotes only the quote itself is escaped, by doubling it. In double quotes a backslash
starts an escape. Line breaks are folded in both.
-/
namespace CronLint.Yaml

/-- The escapes of one character. -/
def shortEscapes : List (Char × Char) := [
  ('0', '\x00'), ('a', '\x07'), ('b', '\x08'), ('t', '\t'), ('\t', '\t'), ('n', '\n'),
  ('v', '\x0b'), ('f', '\x0c'), ('r', '\r'), ('e', '\x1b'), (' ', ' '), ('"', '"'),
  ('\\', '\\'), ('/', '/'), ('N', '\x85'), ('_', '\xa0'), ('L', '\u2028'), ('P', '\u2029')]

/-- The escapes that are followed by a code point, and the number of its digits. -/
def codeEscapes : List (Char × Nat) := [('x', 2), ('u', 4), ('U', 8)]

def lastCodePoint : Nat := 0x10ffff

/-- Reads line breaks and the blanks around them. The first argument bounds their number. -/
def takeQuotedBreaks : Nat → Source → Except Fault (List Char × Source)
  | 0, s => .ok ([], s)
  | fuel + 1, s =>
    if s.atDocumentMark then malformed
    else
      let s := s.dropChars fun c => c == ' ' || c == '\t'
      if isBreak s.next then do
        let (first, s) := s.takeBreak
        let (breaks, s) ← takeQuotedBreaks fuel s
        return (first ++ breaks, s)
      else .ok ([], s)

/-- Reads the escape after a backslash. -/
def readEscape (s : Source) : Except Fault (List Char × Source) :=
  match shortEscapes.lookup s.next, codeEscapes.lookup s.next with
  | some c, _ => .ok ([c], s.skip 1)
  | none, some width => do
    let (code, s) ← readHex width 0 (s.skip 1)
    if lastCodePoint < code then throw (.scalar (.noCharacter code))
    return ([Char.ofNat code], s)
  | none, none =>
    if isBreak s.next then takeQuotedBreaks s.length s.takeBreak.2 else malformed

/-- Reads a gap between words: blanks stand for themselves unless a line ends there. -/
def readQuotedGap (s : Source) : Except Fault (List Char × Source) :=
  let (blanks, rest) := s.spanChars fun c => c == ' ' || c == '\t'
  if rest.next == '\x00' then malformed
  else if isBreak rest.next then do
    let (first, rest) := rest.takeBreak
    let (breaks, rest) ← takeQuotedBreaks rest.length rest
    return (foldBreaks first breaks, rest)
  else .ok (blanks, rest)

/-- Reads the rest of a scalar up to its closing quote. The first argument bounds the number of
pieces. -/
def readQuotedFrom (quote : Char) : Nat → Source → Except Fault (List Char × Source)
  | 0, _ => malformed
  | fuel + 1, s => do
    let c := s.next
    if c == quote && !(quote == '\'' && s.peek 1 == '\'') then return ([], s.skip 1)
    let (piece, rest) ←
      if c == quote then pure ([quote], s.skip 2)
      else if quote == '"' && c == '\\' then readEscape (s.skip 1)
      else if isGap c then readQuotedGap s
      else pure ([c], s.skip 1)
    let (more, rest) ← readQuotedFrom quote fuel rest
    return (piece ++ more, rest)

/-- Reads a quoted scalar, whose opening quote is at the start of the source. -/
def readQuoted (s : Source) : Except Fault (List Char × Source) :=
  readQuotedFrom s.next s.length (s.skip 1)

end CronLint.Yaml
