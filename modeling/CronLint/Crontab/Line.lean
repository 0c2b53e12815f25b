import CronLint.Text.Blank
import CronLint.Text.WordCharacter

/-!
# Lines of a crontab

A line is blank, a comment, a variable or a job, or it is invalid. A job line starts with an alias
or with five fields and goes on to a command; what stands behind the first `#` after the expression
is a comment.
-/
namespace CronLint

/-- What a line is. The texts of a job are its expression and all that follows. -/
inductive LineShape where
  | empty
  | comment
  | variable
  | job (expression rest : List Char)
  | invalid
  deriving DecidableEq, Repr

namespace LineShape

def isNameStart (c : Char) : Bool := ('A' ≤ c && c ≤ 'Z') || c == '_'

def isNameChar (c : Char) : Bool := isNameStart c || ('0' ≤ c && c ≤ '9')

/-- Whether a text starts with a name in upper case and an equals sign right after it. -/
def startsWithVariable : List Char → Bool
  | [] => false
  | c :: cs => isNameStart c && (cs.dropWhile isNameChar).head? == some '='

/-- The aliases that a job line may start with. The first is recognised here only to be refused
later. -/
def jobAliases : List String :=
  ["@reboot", "@yearly", "@annually", "@monthly", "@weekly", "@daily", "@hourly"]

def startsWithAlias (cs : List Char) : Bool :=
  jobAliases.any fun name =>
    name.toList.isPrefixOf cs && Text.atWordEnd (cs.drop name.toList.length)

/-- The expression made of the first `count` words, if something follows them. -/
def jobAfter (count : Nat) (cs : List Char) : LineShape :=
  let (fields, rest) := Text.takeWords count cs
  if rest.isEmpty then .invalid else .job (Text.joinWith [' '] fields) rest

def ofLine (line : List Char) : LineShape :=
  let cs := Text.trim line
  match cs with
  | [] => .empty
  | '#' :: _ => .comment
  | _ =>
    if startsWithVariable cs then .variable
    else if startsWithAlias cs then jobAfter 1 cs
    else jobAfter 5 cs

end LineShape

/-- The command in a text and the comment after it, without blanks around them. -/
def splitComment (rest : List Char) : List Char × List Char :=
  let (command, comment) := Text.breakOn '#' rest
  (Text.trim command, Text.trim (comment.getD []))

end CronLint
