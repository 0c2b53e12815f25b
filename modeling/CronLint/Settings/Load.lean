import CronLint.Data
import CronLint.Host
import CronLint.Settings.Basic
import CronLint.Yaml.Fault

/-!
# Loading settings

Settings come from the section `check` of a configuration file and from environment variables, which
count more. A file that is missing, that cannot be opened or that holds no document has no section.
Two libraries do most of the work: one reads documents, the other one checks the entries of a
section.
-/
namespace CronLint

inductive LoadFault where
  | invalid (complaints : List Complaint)
  /-- The place of the file cannot be looked at. -/
  | path (f : FileFault)
  /-- The file is not UTF-8. -/
  | undecodable (e : Text.Utf8.DecodeError)
  /-- The file has a scalar that does not fit its tag. -/
  | scalar (f : Yaml.ScalarFault)
  /-- Reading the document ended in an exception of this name. -/
  | interrupted (exception : String)
  deriving DecidableEq, Repr

def configurationMessage (complaints : List Complaint) : String :=
  "Invalid configuration: " ++ Complaint.join complaints

/-- Whether a fault in looking at a place means that nothing is there. The other ones are not
handled. -/
def FileFault.meansAbsence (f : FileFault) : Bool := [2, 9, 20, 40].contains f.number

namespace Settings

structure Libraries where
  /-- The document in a file that was opened as text, which the host's locale makes UTF-8. -/
  readDocument : Bytes → Except Yaml.Fault Data
  /-- The settings that the entries of a mapping make. -/
  validate : List (Data × Data) → Except (List Complaint) Settings

def section? : Data → Option (List (Data × Data))
  | .mapping entries =>
    match Data.get? entries "check" with
    | some (.mapping members) => some members
    | _ => none
  | _ => none

/-- The section in the content of a file. Only a malformed document is passed over. -/
def sectionOf (lib : Libraries) (content : Bytes) : Except LoadFault (List (Data × Data)) :=
  match lib.readDocument content with
  | .ok d => .ok ((section? d).getD [])
  | .error .malformed => .ok []
  | .error (.scalar f) => .error (.scalar f)
  | .error (.undecodable e) => .error (.undecodable e)
  | .error (.interrupted exception) => .error (.interrupted exception)

/-- What comes of looking at the place of a configuration file; the usual place if no path is given.
A path with a NUL character leads nowhere. -/
def lookAt (h : Host) : (path : Option String) → Except FileFault Node
  | none => h.config
  | some name =>
    if name.toList.contains '\x00' then .error .missing else h.find (Path.ofText name)

/-- The section of a configuration file, without any entries if there is no file or it cannot be
opened. -/
def fileEntries (lib : Libraries) (h : Host) (path : Option String) :
    Except LoadFault (List (Data × Data)) :=
  match lookAt h path with
  | .error f => if f.meansAbsence then .ok [] else .error (.path f)
  | .ok node =>
    match node.content with
    | .ok content => sectionOf lib content
    | .error _ => .ok []

def overrides : List (String × String) :=
  [("CRONKIT_LOCALE", "locale"), ("CRONKIT_MAX_RUNS_PER_DAY", "max_runs_per_day")]

def environmentEntries (h : Host) : List (Data × Data) :=
  overrides.filterMap fun (source, name) =>
    (h.environmentValue? source).map fun value => (.text name, .text value)

def load (lib : Libraries) (h : Host) (path : Option String := none) :
    Except LoadFault Settings := do
  let entries ← fileEntries lib h path
  (lib.validate (entries ++ environmentEntries h)).mapError .invalid

end Settings

end CronLint
