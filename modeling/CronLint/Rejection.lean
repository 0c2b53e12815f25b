/-!
# Kinds of failure

Every failure to understand an expression or to read a crontab has a kind, a message and a few
named details.
-/
namespace CronLint

inductive ErrorKind where
  | empty
  | fieldCount
  | outOfRange
  | unknownAlias
  | unresolvedValue
  | grammar
  | sourceRead
  deriving DecidableEq, Repr

namespace ErrorKind

def all : List ErrorKind :=
  [empty, fieldCount, outOfRange, unknownAlias, unresolvedValue, grammar, sourceRead]

def name : ErrorKind → String
  | empty => "empty"
  | fieldCount => "field_count"
  | outOfRange => "out_of_range"
  | unknownAlias => "unknown_alias"
  | unresolvedValue => "unresolved_value"
  | grammar => "syntax"
  | sourceRead => "source_read"

def ofName? (s : String) : Option ErrorKind := all.find? fun k => k.name == s

theorem ofName?_name (k : ErrorKind) : ofName? k.name = some k := by cases k <;> decide

end ErrorKind

inductive Detail where
  | text (s : String)
  | number (n : Int)
  deriving DecidableEq, Repr

structure Rejection where
  kind : ErrorKind
  message : String
  context : List (String × Detail) := []
  deriving DecidableEq, Repr

end CronLint
