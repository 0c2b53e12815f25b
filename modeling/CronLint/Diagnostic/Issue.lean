import CronLint.Diagnostic.Code
import CronLint.Json

/-!
# Issues
-/
namespace CronLint

/-- A finding about an expression, a job or a set of jobs. The line is 0 and the expression empty
where there is none. -/
structure Issue where
  severity : Severity
  code : Code
  message : String
  hint : String := ""
  line : Int := 0
  expression : String := ""
  deriving DecidableEq, Repr

namespace Issue

/-- An issue with the severity and the hint of its code. -/
def ofCode (code : Code) (message : String) : Issue :=
  { severity := code.severity, code, message, hint := code.hint }

def atLine (i : Issue) (line : Int) : Issue := { i with line }

def about (i : Issue) (expression : String) : Issue := { i with expression }

def isError (i : Issue) : Bool := i.severity == .error
def isWarning (i : Issue) : Bool := i.severity == .warn
def isInfo (i : Issue) : Bool := i.severity == .info

def toJson (i : Issue) : JsonValue :=
  .object ([("severity", .text i.severity.name), ("code", .text i.code.id),
    ("lineNumber", .integer i.line), ("expression", .text i.expression),
    ("message", .text i.message)] ++ if i.hint.isEmpty then [] else [("hint", .text i.hint)])

end Issue

end CronLint
