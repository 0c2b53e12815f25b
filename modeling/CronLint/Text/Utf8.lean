import CronLint.Text.Quoted

/-!
# UTF-8 decoding

`scan` decodes bytes up to the first fault or to a sequence that the end of the bytes cuts off.
Whole data are decoded at once, so a fault is placed from their start. Streams are decoded piece by
piece as they are read: a sequence cut off by the end of a piece is carried into the next one, and
a fault is placed from the start of the bytes then in hand.
-/
namespace CronLint.Text.Utf8

inductive Fault where
  | badStart
  | badContinuation
  | cutOff
  deriving DecidableEq, Repr

/-- Where decoding failed: `first` is the byte at `position`, and the fault extends over `length`
bytes. -/
structure DecodeError where
  fault : Fault
  position : Nat
  length : Nat
  first : UInt8
  deriving DecidableEq, Repr

/-- What the first bytes hold: a character with the number of its bytes, a fault with the number of
bytes it spans, or the beginning of a character. -/
inductive Head where
  | char (c : Char) (length : Nat)
  | invalid (fault : Fault) (length : Nat)
  | incomplete
  deriving Repr

def isContinuation (b : UInt8) : Bool := 0x80 ≤ b && b ≤ 0xbf

/-- The second bytes that may follow a first byte: they exclude forms longer than needed,
surrogates and code points beyond the last. -/
def allowsSecond (first second : UInt8) : Bool :=
  isContinuation second &&
    !(first == 0xe0 && second < 0xa0) && !(first == 0xed && 0xa0 ≤ second) &&
    !(first == 0xf0 && second < 0x90) && !(first == 0xf4 && 0x90 ≤ second)

/-- The number of bytes that a first byte announces, or zero if it starts no character. -/
def announced (b : UInt8) : Nat :=
  if b < 0x80 then 1
  else if b < 0xc2 then 0
  else if b < 0xe0 then 2
  else if b < 0xf0 then 3
  else if b < 0xf5 then 4
  else 0

def firstBits (b : UInt8) : Nat :=
  if b < 0x80 then b.toNat
  else if b < 0xe0 then b.toNat % 32
  else if b < 0xf0 then b.toNat % 16
  else b.toNat % 8

/-- Reads the continuation bytes of a character: `read` bytes are behind us, `bits` is what they
contribute, and `missing` bytes are due. -/
def readContinuation : (missing read bits : Nat) → List UInt8 → Head
  | 0, read, bits, _ => .char (Char.ofNat bits) read
  | _ + 1, _, _, [] => .incomplete
  | missing + 1, read, bits, b :: bs =>
    if isContinuation b then readContinuation missing (read + 1) (bits * 64 + b.toNat % 64) bs
    else .invalid .badContinuation read

def readHead (first : UInt8) (rest : List UInt8) : Head :=
  match announced first, rest with
  | 0, _ => .invalid .badStart 1
  | 1, _ => .char (Char.ofNat first.toNat) 1
  | _, [] => .incomplete
  | n, second :: _ =>
    if allowsSecond first second then readContinuation (n - 1) 1 (firstBits first) rest
    else .invalid .badContinuation 1

/-- Decodes from `position` on. The number says how many bytes at the end form the beginning of a
character only. The first argument bounds the number of characters. -/
def scanFrom : Nat → Nat → List UInt8 → List Char → Except DecodeError (List Char × Nat)
  | 0, _, bytes, acc => .ok (acc.reverse, bytes.length)
  | _ + 1, _, [], acc => .ok (acc.reverse, 0)
  | fuel + 1, position, first :: rest, acc =>
    match readHead first rest with
    | .char c length => scanFrom fuel (position + length) (rest.drop (length - 1)) (c :: acc)
    | .invalid fault length => .error ⟨fault, position, length, first⟩
    | .incomplete => .ok (acc.reverse, rest.length + 1)

def scan (bytes : List UInt8) : Except DecodeError (List Char × Nat) :=
  scanFrom bytes.length 0 bytes []

/-- The fault of bytes that end within a character, `length` bytes before their end. -/
def cutOffError (bytes : List UInt8) (position length : Nat) : DecodeError :=
  ⟨.cutOff, position, length, (bytes[bytes.length - length]?).getD 0⟩

/-- Decodes data that are all in hand. -/
def decode (bytes : List UInt8) : Except DecodeError (List Char) := do
  let (text, left) ← scan bytes
  if left = 0 then return text
  else throw (cutOffError bytes (bytes.length - left) left)

/-- The number of bytes that a stream is read by. -/
def pieceLength : Nat := 8192

/-- The number of bytes at the end of a piece that wait for the next one. -/
def waiting (bytes : List UInt8) : Nat :=
  match scan bytes with
  | .ok (_, left) => left
  | .error e => bytes.length - e.position

/-- How many of the bytes have to be in hand for a fault to show. The first two bytes of a surrogate
are taken for the beginning of a character until a third one is there. -/
def DecodeError.bytesToShow (e : DecodeError) (bytes : List UInt8) : Nat :=
  match e.fault with
  | .badStart => e.position + 1
  | .badContinuation =>
    let halfSurrogate := e.first == 0xed && e.length == 1 &&
      ((bytes[e.position + 1]?).map isContinuation).getD false
    e.position + e.length + if halfSurrogate then 2 else 1
  | .cutOff => bytes.length + 1

/-- The place of a fault from the start of the bytes in hand when it shows. At the end of the stream
only the beginning of a character is left in hand. -/
def DecodeError.placeInHand (e : DecodeError) (bytes : List UInt8) : Nat :=
  let needed := e.bytesToShow bytes
  if bytes.length < needed then 0
  else
    let before := (needed - 1) / pieceLength * pieceLength
    e.position - (before - waiting (bytes.take before))

def decodeStream (bytes : List UInt8) : Except DecodeError (List Char) :=
  (decode bytes).mapError fun e => { e with position := e.placeInHand bytes }

namespace DecodeError

def reason : Fault → String
  | .badStart => "invalid start byte"
  | .badContinuation => "invalid continuation byte"
  | .cutOff => "unexpected end of data"

/-- The complaint about bytes that cannot be decoded. One byte is shown, several are not. -/
def message (e : DecodeError) : String :=
  "'utf-8' codec can't decode " ++
    (if e.length = 1 then
      "byte 0x" ++ String.ofList (hexDigits 2 e.first.toNat) ++ " in position " ++
        toString e.position
    else
      "bytes in position " ++ toString e.position ++ "-" ++ toString (e.position + e.length - 1)) ++
    ": " ++ reason e.fault

end DecodeError

def encode (s : String) : List UInt8 := s.toUTF8.toList

end CronLint.Text.Utf8
