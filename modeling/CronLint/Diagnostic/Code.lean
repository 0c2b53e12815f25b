import CronLint.Diagnostic.Severity
import CronLint.Text.Quoted

/-!
# Diagnostic codes

Each kind of issue has a stable code, a severity and a hint.
-/
namespace CronLint

inductive Code where
  | domDowConflict
  | emptySchedule
  | parseError
  | fileReadError
  | invalidStructure
  | redundantPattern
  | excessiveRuns
  | missingAbsolutePath
  | missingRedirection
  | percentCharacter
  | quotingIssue
  | overlapDetected
  deriving DecidableEq, Repr

namespace Code

def all : List Code :=
  [domDowConflict, emptySchedule, parseError, fileReadError, invalidStructure, redundantPattern,
    excessiveRuns, missingAbsolutePath, missingRedirection, percentCharacter, quotingIssue,
    overlapDetected]

theorem mem_all (c : Code) : c ∈ all := by cases c <;> decide

def id : Code → String
  | domDowConflict => "CRON-001"
  | emptySchedule => "CRON-002"
  | parseError => "CRON-003"
  | fileReadError => "CRON-004"
  | invalidStructure => "CRON-005"
  | redundantPattern => "CRON-006"
  | excessiveRuns => "CRON-007"
  | missingAbsolutePath => "CRON-008"
  | missingRedirection => "CRON-009"
  | percentCharacter => "CRON-010"
  | quotingIssue => "CRON-011"
  | overlapDetected => "CRON-012"

def ofId? (s : String) : Option Code := all.find? fun c => c.id == s

theorem ofId?_id (c : Code) : ofId? c.id = some c := by cases c <;> decide

def unknownMessage (s : String) : String := Text.quote s ++ " is not a valid DiagnosticCode"

def name : Code → String
  | domDowConflict => "DOM_DOW_CONFLICT"
  | emptySchedule => "EMPTY_SCHEDULE"
  | parseError => "PARSE_ERROR"
  | fileReadError => "FILE_READ_ERROR"
  | invalidStructure => "INVALID_STRUCTURE"
  | redundantPattern => "REDUNDANT_PATTERN"
  | excessiveRuns => "EXCESSIVE_RUNS"
  | missingAbsolutePath => "MISSING_ABSOLUTE_PATH"
  | missingRedirection => "MISSING_REDIRECTION"
  | percentCharacter => "PERCENT_CHARACTER"
  | quotingIssue => "QUOTING_ISSUE"
  | overlapDetected => "OVERLAP_DETECTED"

def severity : Code → Severity
  | emptySchedule | parseError | fileReadError | invalidStructure => .error
  | missingAbsolutePath | missingRedirection => .info
  | domDowConflict | redundantPattern | excessiveRuns | percentCharacter | quotingIssue
  | overlapDetected => .warn

def hint : Code → String
  | domDowConflict =>
    "Consider using only day-of-month OR day-of-week, not both. " ++
      "Cron uses OR logic (runs if either condition is met)."
  | emptySchedule =>
    "This expression never runs. " ++
      "Check for conflicting constraints or impossible date combinations."
  | parseError =>
    "Fix the syntax error in the cron expression. " ++
      "Ensure all 5 fields are present and valid."
  | fileReadError => "Check that the file exists and is readable. Verify file permissions."
  | invalidStructure =>
    "Ensure the crontab file follows the correct format with valid cron expressions."
  | redundantPattern =>
    "Use '*' instead of '*/1' for better readability. They are functionally equivalent."
  | excessiveRuns =>
    "This schedule runs very frequently. " ++
      "Consider if this is necessary, as it may impact system resources."
  | missingAbsolutePath =>
    "Consider using absolute paths for commands to avoid PATH-related issues. " ++
      "Example: /usr/bin/command instead of command"
  | missingRedirection =>
    "Consider redirecting stdout and stderr to log files to capture output and errors. " ++
      "Example: command > /var/log/command.log 2>&1"
  | percentCharacter =>
    "The '%' character in cron commands is interpreted as a newline. " ++
      "Escape it as '\\%' if you need a literal % character."
  | quotingIssue =>
    "Check that all quotes are properly closed and escaped. " ++
      "Use single quotes for literal strings, double quotes for variable expansion."
  | overlapDetected =>
    "Multiple jobs are scheduled to run at the same time. " ++
      "This may cause resource contention. Consider adjusting schedules to distribute load."

end Code

end CronLint
