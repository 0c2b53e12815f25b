import CronLint.Text.Blank
import CronLint.Text.LetterCase

/-!
# Severities
-/
namespace CronLint

/-- How grave an issue is, from the least to the most. -/
inductive Severity where
  | info
  | warn
  | error
  deriving DecidableEq, Repr

namespace Severity

def rank : Severity → Nat
  | info => 0
  | warn => 1
  | error => 2

theorem rank_injective {a b : Severity} (h : a.rank = b.rank) : a = b := by
  cases a <;> cases b <;> first | rfl | contradiction

def name : Severity → String
  | info => "info"
  | warn => "warn"
  | error => "error"

/-- The severity with a name, in any case and with blanks around it. -/
def ofText? (s : String) : Option Severity :=
  match String.ofList (Text.lowerAscii (Text.trim s.toList)) with
  | "info" => some info
  | "warn" | "warning" => some warn
  | "error" => some error
  | _ => none

def unknownMessage (s : String) : String := "invalid severity: " ++ s

def unknownThresholdMessage (s : String) : String :=
  "invalid fail-on level: " ++ s ++ " (must be 'error', 'warn', or 'info')"

def graver (a b : Severity) : Severity := if a.rank < b.rank then b else a

def gravest? : List Severity → Option Severity
  | [] => none
  | s :: rest => some (rest.foldl graver s)

end Severity

end CronLint
