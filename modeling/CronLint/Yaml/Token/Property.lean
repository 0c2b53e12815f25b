import CronLint.Text.Digit
import CronLint.Text.Utf8
import CronLint.Yaml.Token.Basic

/-!
# Names, tags and directives
-/
namespace CronLint.Yaml

def isNameChar (c : Char) : Bool := c.isAlphanum || c == '-' || c == '_'

/-- The characters of tags, apart from the escapes. -/
def isUriChar (c : Char) : Bool := isNameChar c || ";/?:@&=+$,.!~*'()[]".toList.contains c

def hexDigit? (c : Char) : Option Nat :=
  if c.isDigit then some (c.toNat - 48)
  else if 'a' ≤ c ∧ c ≤ 'f' then some (c.toNat - 87)
  else if 'A' ≤ c ∧ c ≤ 'F' then some (c.toNat - 55)
  else none

/-- Reads a number of exactly so many hexadecimal digits. -/
def readHex : (width : Nat) → (value : Nat) → Source → Except Fault (Nat × Source)
  | 0, value, s => .ok (value, s)
  | width + 1, value, p :: rest =>
    match hexDigit? p.char with
    | some d => readHex width (value * 16 + d) rest
    | none => malformed
  | _ + 1, _, [] => malformed

/-- Reads the name of an anchor or an alias, whose mark is at the start of the source. -/
def readName (s : Source) : Except Fault (List Char × Source) :=
  let (name, rest) := (s.skip 1).spanChars isNameChar
  let c := rest.next
  if name.isEmpty then malformed
  else if isGap c || "?:,]\x7d%@\x60".toList.contains c then .ok (name, rest)
  else malformed

/-- Reads a run of escaped bytes. The first argument bounds their number. -/
def readEscapedBytes : Nat → Source → Except Fault (List UInt8 × Source)
  | 0, s => .ok ([], s)
  | fuel + 1, s =>
    if s.next == '%' then do
      let (byte, s) ← readHex 2 0 (s.skip 1)
      let (bytes, s) ← readEscapedBytes fuel s
      return (byte.toUInt8 :: bytes, s)
    else .ok ([], s)

/-- Reads the pieces of a tag. The first argument bounds their number. -/
def readUriPieces : Nat → Source → Except Fault (List Char × Source)
  | 0, s => .ok ([], s)
  | fuel + 1, s => do
    let (plain, rest) := s.spanChars isUriChar
    if rest.next == '%' then
      let (bytes, rest) ← readEscapedBytes rest.length rest
      match Text.Utf8.decode bytes with
      | .error _ => malformed
      | .ok text =>
        let (more, rest) ← readUriPieces fuel rest
        return (plain ++ text ++ more, rest)
    else return (plain, rest)

def readUri (s : Source) : Except Fault (List Char × Source) :=
  if isUriChar s.next || s.next == '%' then readUriPieces s.length s else malformed

/-- Reads a handle: one exclamation mark, two, or two with a name between them. -/
def readHandle (s : Source) : Except Fault (List Char × Source) :=
  if s.next != '!' then malformed
  else if s.peek 1 == ' ' then .ok (['!'], s.skip 1)
  else
    let (name, rest) := (s.skip 1).spanChars isNameChar
    if rest.next == '!' then .ok ('!' :: name ++ ['!'], rest.skip 1) else malformed

/-- Whether another exclamation mark follows the one at the start before the next space. -/
def hasHandle (s : Source) : Bool :=
  ((s.skip 1).spanChars fun c => !isSpaceOrEnd c).1.contains '!'

def readTag (s : Source) : Except Fault (Token × Source) := do
  let (token, rest) ←
    if s.peek 1 == '<' then do
      let (uri, rest) ← readUri (s.skip 2)
      if rest.next == '>' then pure (Token.tag none uri, rest.skip 1) else malformed
    else if isGap (s.peek 1) then pure (Token.tag none ['!'], s.skip 1)
    else do
      let (handle, rest) ← if hasHandle s then readHandle s else pure (['!'], s.skip 1)
      let (suffix, rest) ← readUri rest
      pure (Token.tag (some handle) suffix, rest)
  if isSpaceOrEnd rest.next then return (token, rest) else malformed

def dropSpaces (s : Source) : Source := s.dropChars (· == ' ')

/-- Reads a decimal number. -/
def readDecimal (s : Source) : Except Fault (Nat × Source) :=
  let (digits, rest) := s.spanChars Char.isDigit
  if digits.isEmpty then malformed
  else .ok (Text.ofDigits (digits.map fun c => c.toNat - 48), rest)

def readVersion (s : Source) : Except Fault (Directive × Source) := do
  let (major, s) ← readDecimal (dropSpaces s)
  if s.next != '.' then malformed
  let (_, s) ← readDecimal (s.skip 1)
  if isSpaceOrEnd s.next then return (.version major, s) else malformed

def readTagHandle (s : Source) : Except Fault (Directive × Source) := do
  let (handle, s) ← readHandle (dropSpaces s)
  if s.next != ' ' then malformed
  let (start, s) ← readUri (dropSpaces s)
  if isSpaceOrEnd s.next then return (.tagHandle handle start, s) else malformed

/-- Drops the rest of a line that may hold only a comment. -/
def finishLine (s : Source) : Except Fault Source :=
  let s := (dropSpaces s).dropComment
  if isBreakOrEnd s.next then .ok s.takeBreak.2 else malformed

def readDirective (s : Source) : Except Fault (Token × Source) := do
  let (name, rest) := (s.skip 1).spanChars isNameChar
  if name.isEmpty || !isSpaceOrEnd rest.next then malformed
  let (d, rest) ←
    if name == "YAML".toList then readVersion rest
    else if name == "TAG".toList then readTagHandle rest
    else pure (Directive.unknown, rest.dropChars (!isBreakOrEnd ·))
  return (.directive d, ← finishLine rest)

end CronLint.Yaml
