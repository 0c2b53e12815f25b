import CronLint.Crontab.Entry
import CronLint.Host
import CronLint.Text.Lines

/-!
# Sources of crontabs

A crontab comes from text in memory, from a stream, from a file or from the program that prints the
user's crontab. Most failures to read it are reported as a `SourceError`; two are not and stop the
check.
-/
namespace CronLint

inductive SourceError where
  | badInput (e : Text.Utf8.DecodeError)
  | badFile (path : String) (e : Text.Utf8.DecodeError)
  | noFile (path : String) (f : FileFault)
  | noProgram
  | programFailed (status : Int) (errors : String)
  deriving DecidableEq, Repr

namespace SourceError

def message : SourceError → String
  | badInput e => "error reading input: " ++ e.message
  | badFile _ e => "failed to open file: " ++ e.message
  | noFile path f => "failed to open file: " ++ f.message path
  | noProgram => "failed to run crontab: " ++ FileFault.missing.message "crontab"
  | programFailed status errors =>
    "crontab -l exited with status " ++ toString status ++ ": " ++ errors

def context : SourceError → List (String × Detail)
  | badFile path _ | noFile path _ => [("path", .text path)]
  | programFailed status _ => [("returncode", .number status)]
  | badInput _ | noProgram => []

end SourceError

inductive ReadError where
  | reported (e : SourceError)
  /-- The path holds a NUL character. -/
  | nullInPath
  /-- What the program printed is not UTF-8. -/
  | undecodable (e : Text.Utf8.DecodeError)
  deriving DecidableEq, Repr

def nullInPathMessage : String := "embedded null byte"

namespace Parser

def readText (p : Parser) (text : List Char) : List Entry := entriesOf p (Text.lines text)

def readStream (p : Parser) (bytes : Bytes) : Except SourceError (List Entry) :=
  match Text.Utf8.decodeStream bytes with
  | .ok text => .ok (entriesOf p (Text.storedLines text))
  | .error e => .error (.badInput e)

def readCrontab (p : Parser) (h : Host) (name : String) : Except ReadError (List Entry) :=
  let path := Path.ofText name
  if name.toList.contains '\x00' then .error .nullInPath
  else
    match h.contentOf path with
    | .error f => .error (.reported (.noFile path.toText f))
    | .ok bytes =>
      match Text.Utf8.decodeStream bytes with
      | .ok text => .ok (entriesOf p (Text.storedLines text))
      | .error e => .error (.reported (.badFile path.toText e))

/-- The jobs in what the program printed, which the host's locale makes UTF-8. A status of 1 means
that there is no crontab. -/
def readResult (p : Parser) (r : ProgramResult) : Except ReadError (List Job) := do
  let output ← (Text.Utf8.decode r.output).mapError .undecodable
  let errors ← (Text.Utf8.decode r.errors).mapError .undecodable
  if r.status = 1 then return []
  if r.status ≠ 0 then
    throw (.reported (.programFailed r.status
      (String.ofList (Text.trim (Text.unifyNewlines errors)))))
  return jobsOf (p.readText (Text.unifyNewlines output))

def readUser (p : Parser) (h : Host) : Except ReadError (List Job) :=
  match h.crontab with
  | none => .error (.reported .noProgram)
  | some r => p.readResult r

end Parser

end CronLint
