import CronLint.Crontab.Line
import CronLint.Schedule.Basic

/-!
# Entries of a crontab

Every line of a crontab is an entry. A job whose expression cannot be parsed is an entry all the
same, marked with the complaint.
-/
namespace CronLint

/-- A job. `fault` is the complaint about its expression, if there is one; line 0 stands for no
line. -/
structure Job where
  line : Int
  expression : String
  command : String := ""
  comment : String := ""
  fault : Option String := none
  deriving DecidableEq, Repr

def Job.valid (j : Job) : Bool := j.fault.isNone

/-- What tells jobs apart: the line, or the expression of a job without a line. -/
def Job.id (j : Job) : String :=
  if j.line = 0 then j.expression else "line-" ++ toString j.line

inductive EntryBody where
  | empty
  | comment
  | variable
  | job (j : Job)
  | invalid
  deriving DecidableEq, Repr

structure Entry where
  line : Int
  raw : String
  body : EntryBody
  deriving DecidableEq, Repr

def Entry.job? (e : Entry) : Option Job :=
  match e.body with
  | .job j => some j
  | _ => none

def jobsOf (entries : List Entry) : List Job := entries.filterMap Entry.job?

def Parser.faultOf (p : Parser) (expression : String) : Option String :=
  match p.parse expression with
  | .ok _ => none
  | .error e => some e.message

def Job.ofLine (p : Parser) (expression rest : List Char) (line : Int) : Job :=
  let (command, comment) := splitComment rest
  let expression := String.ofList expression
  { line, expression, command := String.ofList command, comment := String.ofList comment
    fault := p.faultOf expression }

def Entry.ofLine (p : Parser) (text : List Char) (line : Int) : Entry where
  line := line
  raw := String.ofList text
  body :=
    match LineShape.ofLine text with
    | .empty => .empty
    | .comment => .comment
    | .variable => .variable
    | .job expression rest => .job (Job.ofLine p expression rest line)
    | .invalid => .invalid

def entriesFrom (p : Parser) (first : Int) : List (List Char) → List Entry
  | [] => []
  | text :: rest => Entry.ofLine p text first :: entriesFrom p (first + 1) rest

def entriesOf (p : Parser) (lines : List (List Char)) : List Entry := entriesFrom p 1 lines

end CronLint
