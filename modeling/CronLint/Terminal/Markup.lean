/-!
# Markup

Text for the terminal may hold style tags in brackets. Backslashes in front of a tag escape it, in
pairs, and `escape` writes text so that none of it is taken for a tag. The output has no styles, so
tags leave no trace in it.
-/
namespace CronLint.Terminal

def isTagStart (c : Char) : Bool := ('a' ≤ c && c ≤ 'z') || c == '#' || c == '/' || c == '@'

/-- The inside of the tag that an opening bracket before this text starts. -/
def tagInside? (cs : List Char) : Option (List Char) :=
  match cs with
  | [] => none
  | c :: rest =>
    let inside := rest.takeWhile fun d => d != ']' && d != '['
    if isTagStart c && (rest.drop inside.length).head? == some ']' then some (c :: inside) else none

/-- A piece of marked-up text. Backslashes are kept with what they precede. -/
inductive Piece where
  | char (slashes : Nat) (c : Char)
  /-- An opening bracket that starts no tag. -/
  | bracket (slashes : Nat)
  | tag (slashes : Nat) (inside : List Char)
  | finish (slashes : Nat)
  deriving DecidableEq, Repr

/-- The pieces of a text after some backslashes, of which the first characters are skipped. -/
def piecesFrom : (slashes skip : Nat) → List Char → List Piece
  | slashes, _, [] => [.finish slashes]
  | slashes, skip + 1, _ :: cs => piecesFrom slashes skip cs
  | slashes, 0, c :: cs =>
    if c = '\\' then piecesFrom (slashes + 1) 0 cs
    else if c = '[' then
      match tagInside? cs with
      | some inside => .tag slashes inside :: piecesFrom 0 (inside.length + 1) cs
      | none => .bracket slashes :: piecesFrom 0 0 cs
    else .char slashes c :: piecesFrom 0 0 cs

def pieces (cs : List Char) : List Piece := piecesFrom 0 0 cs

def backslashes (n : Nat) : List Char := List.replicate n '\\'

def bracketed (inside : List Char) : List Char := '[' :: inside ++ [']']

namespace Piece

def source : Piece → List Char
  | char n c => backslashes n ++ [c]
  | bracket n => backslashes n ++ ['[']
  | tag n inside => backslashes n ++ bracketed inside
  | finish n => backslashes n

/-- A piece as it has to be written to be shown. -/
def escaped : Piece → List Char
  | tag n inside => backslashes (2 * n + 1) ++ bracketed inside
  | p => p.source

def shown : Piece → List Char
  | bracket n => backslashes (n - 1) ++ ['[']
  | tag n inside => backslashes (n / 2) ++ if n % 2 = 1 then bracketed inside else []
  | p => p.source

end Piece

def endsInLoneBackslash (cs : List Char) : Bool :=
  match cs.reverse with
  | '\\' :: '\\' :: _ => false
  | '\\' :: _ => true
  | _ => false

/-- Writes a text so that its brackets are not taken for tags. -/
def escape (cs : List Char) : List Char :=
  let written := (pieces cs).flatMap Piece.escaped
  if endsInLoneBackslash written then written ++ ['\\'] else written

def plain (cs : List Char) : List Char := (pieces cs).flatMap Piece.shown

end CronLint.Terminal
