import CronLint.Yaml.Token.Block
import CronLint.Yaml.Token.Quoted

/-!
# From characters to tokens

The lexer keeps track of the indentation of the blocks around it and of the nesting of flow
collections. A mapping key is recognised only by the colon behind it. So at every place where a key
may start the lexer notes how many tokens came before, and puts the key's token there once the colon
turns up. A key lies on one line and has a limited length.
-/
namespace CronLint.Yaml

/-- A place where a key may have started. A required key is one that stands where the block around
it has to go on. -/
structure KeyPlace where
  tokensBefore : Nat
  required : Bool
  mark : Mark
  deriving DecidableEq, Repr

structure Lexer where
  rest : Source
  tokens : Array Token := #[]
  /-- The number of flow collections that are open. -/
  depth : Nat := 0
  indent : Int := -1
  /-- The indentations of the blocks further out. -/
  outer : List Int := []
  keyAllowed : Bool := true
  /-- Where a key may have started, by depth. -/
  keys : List (Nat × KeyPlace) := []

namespace Lexer

/-- How far the colon may be from the start of its key. -/
def maxKeyLength : Nat := 1024

def inFlow (l : Lexer) : Bool := l.depth != 0

def push (l : Lexer) (t : Token) : Lexer := { l with tokens := l.tokens.push t }

def pushTo (l : Lexer) (t : Token) (rest : Source) : Lexer := { l with rest }.push t

def key? (l : Lexer) : Option KeyPlace := l.keys.lookup l.depth

def withoutKey (l : Lexer) : Lexer :=
  { l with keys := l.keys.filter fun entry => entry.1 != l.depth }

/-- Gives up the key that may have started at this depth. -/
def dropKey (l : Lexer) : Except Fault Lexer :=
  match l.key? with
  | none => .ok l
  | some k => if k.required then malformed else .ok l.withoutKey

def saveKey (l : Lexer) : Except Fault Lexer :=
  if l.keyAllowed then do
    let l ← l.dropKey
    let required := !l.inFlow && l.indent == (l.rest.column : Int)
    return { l with keys := (l.depth, ⟨l.tokens.size, required, l.rest.mark⟩) :: l.keys }
  else .ok l

def stale (l : Lexer) (k : KeyPlace) : Bool :=
  k.mark.line != l.rest.mark.line || maxKeyLength < l.rest.mark.index - k.mark.index

def dropStaleKeys (l : Lexer) : Except Fault Lexer :=
  if l.keys.any fun entry => l.stale entry.2 && entry.2.required then malformed
  else .ok { l with keys := l.keys.filter fun entry => !l.stale entry.2 }

def closeBlocks (l : Lexer) (column : Int) : Lexer :=
  if l.inFlow then l else close l.outer l
where
  close : List Int → Lexer → Lexer
  | [], l => l
  | i :: outer, l =>
    if column < l.indent then close outer ({ l with indent := i, outer }.push .blockEnd) else l

/-- Opens a block at a column if it is indented further than the block around it. Its token comes
after the first `n` tokens. -/
def openBlock (l : Lexer) (column : Int) (start : Token) (n : Nat) : Lexer :=
  if l.indent < column then
    { l with
      indent := column
      outer := l.indent :: l.outer
      tokens := l.tokens.insertIdxIfInBounds n start }
  else l

def openBlockHere (l : Lexer) (start : Token) : Lexer :=
  l.openBlock l.rest.column start l.tokens.size

/-- Skips spaces, comments and line breaks. The first argument bounds the number of lines. -/
def skipGap : Nat → Lexer → Lexer
  | 0, l => l
  | fuel + 1, l =>
    let rest := (dropSpaces l.rest).dropComment
    if isBreak rest.next then
      skipGap fuel { l with rest := rest.takeBreak.2, keyAllowed := l.keyAllowed || !l.inFlow }
    else { l with rest }

/-- Everything that ends at the margin: blocks and keys. -/
def atMargin (l : Lexer) : Except Fault Lexer := do
  let l ← (l.closeBlocks (-1)).dropKey
  return { l with keyAllowed := false }

def readStreamEnd (l : Lexer) : Except Fault Lexer := do
  let l ← l.atMargin
  return l.push .streamEnd

def readDirectiveLine (l : Lexer) : Except Fault Lexer := do
  let l ← l.atMargin
  let (t, rest) ← readDirective l.rest
  return l.pushTo t rest

def readDocumentMark (l : Lexer) (t : Token) : Except Fault Lexer := do
  let l ← l.atMargin
  return l.pushTo t (l.rest.skip 3)

def openFlow (l : Lexer) (t : Token) : Except Fault Lexer := do
  let l ← l.saveKey
  return { l with depth := l.depth + 1, keyAllowed := true }.pushTo t (l.rest.skip 1)

def closeFlow (l : Lexer) (t : Token) : Except Fault Lexer := do
  let l ← l.dropKey
  if !l.inFlow then malformed
  return { l with depth := l.depth - 1, keyAllowed := false }.pushTo t (l.rest.skip 1)

def readFlowEntry (l : Lexer) : Except Fault Lexer := do
  let l ← l.dropKey
  return { l with keyAllowed := true }.pushTo .flowEntry (l.rest.skip 1)

def readBlockEntry (l : Lexer) : Except Fault Lexer := do
  if !l.inFlow && !l.keyAllowed then malformed
  let l := if l.inFlow then l else l.openBlockHere .blockSequenceStart
  let l ← l.dropKey
  return { l with keyAllowed := true }.pushTo .blockEntry (l.rest.skip 1)

def readKey (l : Lexer) : Except Fault Lexer := do
  if !l.inFlow && !l.keyAllowed then malformed
  let l := if l.inFlow then l else l.openBlockHere .blockMappingStart
  let l ← l.dropKey
  return { l with keyAllowed := !l.inFlow }.pushTo .key (l.rest.skip 1)

/-- Reads the colon before a value. If a key may have started before, it did. -/
def readValue (l : Lexer) : Except Fault Lexer := do
  match l.key? with
  | some k =>
    let l := { l.withoutKey with
      tokens := l.tokens.insertIdxIfInBounds k.tokensBefore .key, keyAllowed := false }
    let l := if l.inFlow then l else l.openBlock k.mark.column .blockMappingStart k.tokensBefore
    return l.pushTo .value (l.rest.skip 1)
  | none =>
    if !l.inFlow && !l.keyAllowed then malformed
    let l := if l.inFlow then l else l.openBlockHere .blockMappingStart
    return { l with keyAllowed := !l.inFlow }.pushTo .value (l.rest.skip 1)

/-- Reads a token that may be the start of a key. -/
def readNode (l : Lexer) (read : Source → Except Fault (Token × Source)) : Except Fault Lexer := do
  let l ← l.saveKey
  let (t, rest) ← read l.rest
  return { l with keyAllowed := false }.pushTo t rest

def readPlainScalar (l : Lexer) : Except Fault Lexer := do
  let l ← l.saveKey
  let scalar := readPlain l.inFlow (l.indent + 1) l.rest
  return { l with keyAllowed := scalar.lineEnded }.pushTo (.scalar scalar.text true) scalar.rest

def readBlockScalar (l : Lexer) : Except Fault Lexer := do
  let l ← l.dropKey
  let (text, rest) ← readBlock l.indent l.rest
  return { l with keyAllowed := true }.pushTo (.scalar text false) rest

/-- Whether a plain scalar may start with a character, given the one after it. -/
def startsPlain (flow : Bool) (c following : Char) : Bool :=
  (!isGap c && !"-?:,[]\x7b\x7d#&*!|>'\"%@\x60".toList.contains c) ||
    (!isGap following && (c == '-' || (!flow && (c == '?' || c == ':'))))

/-- Reads the next token, whose place has been reached. -/
def readToken (l : Lexer) : Except Fault Lexer :=
  let s := l.rest
  let c := s.next
  let atStart := s.column == 0
  let single := l.inFlow || isGap (s.peek 1)
  if c == '\x00' then l.readStreamEnd
  else if atStart && c == '%' then l.readDirectiveLine
  else if atStart && s.atSeparator '-' then l.readDocumentMark .documentStart
  else if atStart && s.atSeparator '.' then l.readDocumentMark .documentEnd
  else if c == '[' then l.openFlow .flowSequenceStart
  else if c == '\x7b' then l.openFlow .flowMappingStart
  else if c == ']' then l.closeFlow .flowSequenceEnd
  else if c == '\x7d' then l.closeFlow .flowMappingEnd
  else if c == ',' then l.readFlowEntry
  else if c == '-' && isGap (s.peek 1) then l.readBlockEntry
  else if c == '?' && single then l.readKey
  else if c == ':' && single then l.readValue
  else if c == '*' then
    l.readNode fun s => (readName s).map fun (name, rest) => (.alias name, rest)
  else if c == '&' then
    l.readNode fun s => (readName s).map fun (name, rest) => (.anchor name, rest)
  else if c == '!' then l.readNode readTag
  else if (c == '|' || c == '>') && !l.inFlow then l.readBlockScalar
  else if c == '\'' || c == '"' then
    l.readNode fun s => (readQuoted s).map fun (text, rest) => (.scalar text false, rest)
  else if startsPlain l.inFlow c (s.peek 1) then l.readPlainScalar
  else malformed

def run : Nat → Lexer → Except Fault (List Token)
  | 0, _ => malformed
  | fuel + 1, l => do
    let l ← (l.skipGap l.rest.length).dropStaleKeys
    let l ← (l.closeBlocks l.rest.column).readToken
    if l.tokens.back? == some .streamEnd then return l.tokens.toList else run fuel l

end Lexer

def Source.tokens (s : Source) : Except Fault (List Token) := Lexer.run (s.length + 1) { rest := s }

end CronLint.Yaml
