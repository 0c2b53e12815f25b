import CronLint.Text.Range
import CronLint.Text.Table.CellWidth

/-!
# Cells

A terminal shows a character in one cell, in two, or, if it is a control character or a combining
mark, in none.
-/
namespace CronLint.Terminal

def isControl (c : Char) : Bool := c.toNat < 32 || (127 ≤ c.toNat && c.toNat < 160)

def charWidth (c : Char) : Nat :=
  if isControl c then 0
  else if c.toNat < 127 then 1
  else if Text.inRanges Text.wideRanges c then 2
  else if Text.inRanges Text.zeroWidthRanges c then 0
  else 1

def width (cs : List Char) : Nat := cs.foldr (fun c n => charWidth c + n) 0

def spaces (n : Nat) : List Char := List.replicate n ' '

def padTo (total : Nat) (cs : List Char) : List Char := cs ++ spaces (total - width cs)

end CronLint.Terminal
