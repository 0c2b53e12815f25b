import CronLint.Schedule.Basic

/-!
# Remembered schedules

A memo keeps schedules by the exact expression. `Parser.parseWith` looks there first, and remembers
what it has to work out. Failures are not remembered.
-/
namespace CronLint

/-- A memo that stores nothing, or the schedules stored so far. -/
inductive Memo where
  | disabled
  | stored (entries : List (String × Schedule))

namespace Memo

def empty : Memo := stored []

def get? (expression : String) : Memo → Option Schedule
  | disabled => none
  | stored entries => entries.lookup expression

def put (expression : String) (s : Schedule) : Memo → Memo
  | disabled => disabled
  | stored entries => stored ((expression, s) :: entries.filter fun entry => entry.1 != expression)

def size : Memo → Nat
  | disabled => 0
  | stored entries => entries.length

def clear : Memo → Memo
  | disabled => disabled
  | stored _ => empty

end Memo

/-- The outcome of parsing with a memo: the result, the memo afterwards, and the texts that were put
to the scheduler on the way. -/
structure Parsed where
  result : Except ParseError Schedule
  memo : Memo
  consulted : List String

/-- Parses an expression unless its schedule is remembered. The empty expression is refused before
the memo is looked at. -/
def Parser.parseWith (p : Parser) (memo : Memo) (expression : String) : Parsed :=
  if expression.isEmpty then ⟨.error .empty, memo, []⟩
  else
    match memo.get? expression with
    | some s => ⟨.ok s, memo, []⟩
    | none =>
      match Request.ofExpression expression with
      | .error e => ⟨.error e, memo, []⟩
      | .ok request =>
        match p.answer expression request with
        | .error e => ⟨.error e, memo, [request.text]⟩
        | .ok s => ⟨.ok s, memo.put expression s, [request.text]⟩

end CronLint
