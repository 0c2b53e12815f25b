import CronLint.Terminal.Markup
import CronLint.Terminal.Wrap

/-!
# Tables

A table has a title, a row of headings and further rows, within a frame of lines. A column is as
wide as its widest cell, with a space on each side. If all columns together are too wide, the widest
one gives way: its cells are wrapped, and words that are still too wide are cut off.
-/
namespace CronLint.Terminal

structure Column where
  heading : String
  rightAligned : Bool := false
  deriving DecidableEq, Repr

/-- A table; its title and its cells may hold markup. -/
structure Table where
  title : List Char
  columns : List Column
  rows : List (List (List Char))

def screenWidth : Nat := 500

def alignRight (total : Nat) (line : List Char) : List Char :=
  let line := Text.trimEnd line
  spaces (total - width line) ++ line

/-- Puts a line in the middle; an odd space goes to the right. -/
def centre (total : Nat) (line : List Char) : List Char :=
  let line := Text.trimEnd line
  padTo total (spaces ((total - width line) / 2) ++ line)

def blockWidth (lines : List (List Char)) : Nat := (lines.map width).foldl max 0

namespace Table

def columnWidth (rows : List (List (List Char))) (column : Nat) : Nat :=
  blockWidth (rows.flatMap fun row => paragraphs ((row[column]?).getD []))

def reduceWidest (excess : Nat) (widths : List Nat) : List Nat :=
  let i := widths.findIdx fun w => w == widths.foldl max 0
  widths.modify i (· - excess)

/-- The spaces beside the cells and the lines between them. -/
def frameWidth (columns : Nat) : Nat := 3 * columns + 1

def totalWidth (widths : List Nat) : Nat := widths.foldr (· + ·) 0 + frameWidth widths.length

def widths (columns : Nat) (rows : List (List (List Char))) : List Nat :=
  let natural := (List.range columns).map (columnWidth rows)
  reduceWidest (totalWidth natural - screenWidth) natural

def rule (left line cross right : Char) (widths : List Nat) : List Char :=
  left :: (Text.joinWith [cross] (widths.map fun w => List.replicate (w + 2) line) ++ [right])

/-- A line of a row; `bar` stands between the cells and at both ends. -/
def rowLine (bar : Char) (cells : List (List Char)) : List Char :=
  bar :: (cells.flatMap fun cell => ' ' :: cell ++ [' ', bar])

def rowLines (bar : Char) (columns : List Column) (widths : List Nat) (row : List (List Char)) :
    List (List Char) :=
  let cells := row.zip widths |>.map fun (cell, w) => wrap w cell .ellipsis
  let height := (cells.map List.length).foldl max 1
  (List.range height).map fun i =>
    rowLine bar ((cells.zip (columns.zip widths)).map fun (lines, column, w) =>
      let line := (lines[i]?).getD []
      if column.rightAligned then alignRight w line else padTo w line)

def lines (t : Table) : List (List Char) :=
  let heading := t.columns.map fun c => c.heading.toList
  let rows := t.rows.map fun row => row.map plain
  let widths := widths t.columns.length (heading :: rows)
  let total := totalWidth widths
  (wrap total (plain t.title)).map (centre total) ++
    [rule '┏' '━' '┳' '┓' widths] ++ rowLines '┃' t.columns widths heading ++
    [rule '┡' '━' '╇' '┩' widths] ++ rows.flatMap (rowLines '│' t.columns widths) ++
    [rule '└' '─' '┴' '┘' widths]

end Table

def printLines (lines : List (List Char)) : String :=
  String.ofList (lines.flatMap fun line => line ++ ['\n'])

def printTable (t : Table) : String := printLines t.lines

def printMarkup (text : List Char) : String := printLines (wrap screenWidth (plain text))

end CronLint.Terminal
