import CronLint.Diagnostic.Issue
import CronLint.Text.Blank

/-!
# Command hygiene

Common mistakes in the command of a job: a program without a path, output that goes nowhere,
percent signs, and quotes that are not closed. Quotes are counted, whether escaped or not.
-/
namespace CronLint.Hygiene

/-- The places of programs that make a command absolute when one of its words starts there. -/
def programPlaces : List String := ["/usr/bin/", "/bin/", "/sbin/", "/usr/local/bin/", "/opt/"]

def usesAbsolutePath (command : String) : Bool :=
  match Text.trim command.toList with
  | [] => false
  | '/' :: _ => true
  | cs => (Text.words cs).any fun w => programPlaces.any fun place => place.toList.isPrefixOf w

/-- Every way to redirect output is written with this sign. -/
def redirectsOutput (command : String) : Bool := command.toList.contains '>'

def hasPercent (command : String) : Bool := command.toList.contains '%'

def unbalanced (quote : Char) (command : String) : Bool := command.toList.count quote % 2 == 1

def issueIf (condition : Bool) (code : Code) (message : String) : List Issue :=
  if condition then [Issue.ofCode code message] else []

def issues (command : String) : List Issue :=
  issueIf (!usesAbsolutePath command) .missingAbsolutePath "Command may not use absolute path" ++
    issueIf (!redirectsOutput command) .missingRedirection
      "Command may not redirect stdout/stderr" ++
    issueIf (hasPercent command) .percentCharacter
      "Command contains '%' character (cron interprets % as newline)" ++
    issueIf (unbalanced '\'' command) .quotingIssue "Command contains unclosed single quotes" ++
    issueIf (unbalanced '"' command) .quotingIssue "Command contains unclosed double quotes"

end CronLint.Hygiene
