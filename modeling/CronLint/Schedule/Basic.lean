import CronLint.Field.Reading
import CronLint.Scheduler

/-!
# Schedules

A schedule is an expression with its five fields read in the names of a locale. Whether the
expression is acceptable is left to a scheduler, which is asked before any field is read.
-/
namespace CronLint

structure Schedule where
  original : String
  fields : Fields Field

inductive ParseError where
  | empty
  | unknownAlias (name : String)
  | fieldCount (count : Nat)
  | rejected (r : Rejection)
  | unreadable (f : FieldFault)
  deriving DecidableEq, Repr

namespace ParseError

def kind : ParseError → ErrorKind
  | empty => .empty
  | unknownAlias _ => .unknownAlias
  | fieldCount _ => .fieldCount
  | rejected r => r.kind
  | unreadable f => f.kind

def message : ParseError → String
  | empty => "empty expression"
  | unknownAlias name => "unrecognized alias: " ++ name
  | fieldCount count => "expected 5 fields, got " ++ toString count
  | rejected r =>
    match r.kind with
    | .fieldCount => "expected 5 fields"
    | .outOfRange => "value out of range: " ++ r.message
    | .unknownAlias => r.message
    | _ => "failed to parse expression: " ++ r.message
  | unreadable f => f.message

def context : ParseError → List (String × Detail)
  | empty => []
  | unknownAlias name => [("alias", .text name)]
  | fieldCount count => [("fields", .number count)]
  | rejected r => r.context
  | unreadable f => f.context

end ParseError

/-- What is put to the scheduler, and the fields to read if it agrees. -/
structure Request where
  text : String
  fields : Fields String
  deriving DecidableEq, Repr

/-- Splits an expression without regard to any scheduler or locale. An alias has to be written
exactly; all else is turned to upper case. -/
def Request.ofExpression (expression : String) : Except ParseError Request :=
  if expression.isEmpty then .error .empty
  else if expression.toList.head? = some '@' then
    match aliasFields? expression with
    | some fields => .ok ⟨expression, fields⟩
    | none => .error (.unknownAlias expression)
  else
    let text := upperText expression
    let fields := wordsOf text
    match Fields.ofList? fields with
    | some fields => .ok ⟨text, fields⟩
    | none => .error (.fieldCount fields.length)

/-- A reader of expressions. `usesFallback` says that the names stand in for those of an unknown
locale. -/
structure Parser where
  symbols : Symbols := Symbols.english
  scheduler : Scheduler := calendarScheduler
  usesFallback : Bool := false

namespace Parser

def forLocale (locale : String) (table : SymbolTable := SymbolTable.standard)
    (scheduler : Scheduler := calendarScheduler) : Parser :=
  let (symbols, unknown) := table.lookup locale
  ⟨symbols, scheduler, unknown⟩

def readFields (p : Parser) (raw : Fields String) : Except FieldFault (Fields Field) :=
  raw.traverse fun position text => Field.read p.symbols text position.low position.high

/-- Follows up a request: the scheduler comes first, the fields second. -/
def answer (p : Parser) (expression : String) (request : Request) : Except ParseError Schedule :=
  match p.scheduler.validate request.text with
  | .error r => .error (.rejected r)
  | .ok () =>
    match p.readFields request.fields with
    | .error f => .error (.unreadable f)
    | .ok fields => .ok ⟨expression, fields⟩

def parse (p : Parser) (expression : String) : Except ParseError Schedule :=
  (Request.ofExpression expression).bind (p.answer expression)

end Parser

end CronLint
