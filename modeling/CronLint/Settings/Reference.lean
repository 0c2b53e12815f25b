import CronLint.Settings.Entries
import CronLint.Settings.Load
import CronLint.Yaml.Document

/-!
# Libraries for loading settings

Both libraries, written out as far as configuration files need them. The whole file is decoded
before its text is looked at, and the stack is taken to be deep enough for any document.
-/
namespace CronLint

/-- The data in a file of a host with a UTF-8 locale. -/
def Yaml.readFile (content : Bytes) : Except Fault Data :=
  match Text.Utf8.decodeStream content with
  | .error e => .error (.undecodable e)
  | .ok text => read text

def Settings.Libraries.reference : Libraries where
  readDocument := Yaml.readFile
  validate := ofEntries

end CronLint
