import CronLint.Text.Quoted
import CronLint.Text.Split
import CronLint.Text.Utf8

/-!
# The host

What a check reads from its surroundings: files, environment variables, the output of the program
that prints the user's crontab, the standard input and the configuration file. All of it is plain
data. The locale of the host is one of UTF-8, so this is what texts in files, in the input and in
the output of programs are decoded by.
-/
namespace CronLint

abbrev Bytes := List UInt8

/-- Why a file cannot be found, opened or read. Of other faults, the system tells the number and a
text. -/
inductive FileFault where
  | missing
  | permissionDenied
  | notDirectory
  | isDirectory
  | nameTooLong
  | other (number : Nat) (text : String)
  deriving DecidableEq, Repr

namespace FileFault

def number : FileFault → Nat
  | missing => 2
  | permissionDenied => 13
  | notDirectory => 20
  | isDirectory => 21
  | nameTooLong => 36
  | other number _ => number

def text : FileFault → String
  | missing => "No such file or directory"
  | permissionDenied => "Permission denied"
  | notDirectory => "Not a directory"
  | isDirectory => "Is a directory"
  | nameTooLong => "File name too long"
  | other _ text => text

def message (f : FileFault) (path : String) : String :=
  "[Errno " ++ toString f.number ++ "] " ++ f.text ++ ": " ++ Text.quote path

end FileFault

inductive Node where
  | file (content : Bytes)
  | directory
  /-- A file that cannot be opened or read. -/
  | unreadable (f : FileFault)
  /-- A directory without any permission. -/
  | locked
  deriving DecidableEq, Repr

namespace Node

def content : Node → Except FileFault Bytes
  | file content => .ok content
  | directory => .error .isDirectory
  | unreadable f => .error f
  | locked => .error .permissionDenied

/-- Why a node other than an open directory is not on the way to another one. -/
def barrier : Node → FileFault
  | locked => .permissionDenied
  | _ => .notDirectory

end Node

/-- How a program ended: its status, or minus the signal that killed it, and what it printed. -/
structure ProgramResult where
  status : Int
  output : Bytes
  errors : Bytes
  deriving DecidableEq, Repr

/-- A path: the slashes that it starts with, and its parts without those that mean nothing. -/
structure Path where
  root : String
  parts : List String
  deriving DecidableEq, Repr

namespace Path

/-- The root of a path that starts with this number of slashes. Exactly two of them are kept, and
more count for one. -/
def rootOf (slashes : Nat) : String :=
  if slashes = 0 then "" else if slashes = 2 then "//" else "/"

/-- The path that a text names. Empty parts and single dots mean nothing. -/
def ofText (s : String) : Path where
  root := rootOf (s.toList.takeWhile (· == '/')).length
  parts := ((Text.segments (· == '/') s.toList).map String.ofList).filter fun p =>
    p != "" && p != "."

def rooted (p : Path) : Bool := !p.root.isEmpty

/-- The text of a path; without any part it is its root, or a dot. -/
def toText (p : Path) : String :=
  let text := p.root ++ "/".intercalate p.parts
  if text.isEmpty then "." else text

/-- The directory where a walk along a path starts: the root, or the working directory. -/
def start (p : Path) : Path := ⟨if p.rooted then "/" else "", []⟩

end Path

structure Host where
  /-- What these paths lead to. The directories on the way exist. -/
  files : List (Path × Node) := []
  /-- What comes of looking at the usual place of the configuration file. -/
  config : Except FileFault Node := .error .missing
  environment : List (String × String) := []
  /-- The outcome of printing the user's crontab, unless there is no such program. -/
  crontab : Option ProgramResult := none
  input : Bytes := []

namespace Host

def maxNameLength : Nat := 255
def maxPathLength : Nat := 4095

/-- Whether a path leads to something that has another path on its way. -/
def isOnWay (place path : Path) : Bool :=
  place.rooted == path.rooted && place.parts.isPrefixOf path.parts

/-- What stands at a place. The two places where a walk may start are directories. -/
def nodeAt? (h : Host) (place : Path) : Option Node :=
  match h.files.reverse.lookup place with
  | some node => some node
  | none =>
    if place.parts.isEmpty || h.files.any fun entry => isOnWay place entry.1 then some .directory
    else none

def above (place : Path) : Option Path :=
  if place.parts.isEmpty && !place.rooted then none
  else some { place with parts := place.parts.dropLast }

/-- Walks on from a directory, which is `none` where nothing is known: only the way up from there
leads to directories. -/
def walk (h : Host) : (place : Option Path) → (parts : List String) → Except FileFault Node
  | _, [] => .ok .directory
  | place, part :: rest =>
    if part = ".." then walk h (place.bind above) rest
    else if maxNameLength < part.utf8ByteSize then .error .nameTooLong
    else
      match place with
      | none => .error .missing
      | some place =>
        let here : Path := { place with parts := place.parts ++ [part] }
        match h.nodeAt? here with
        | none => .error .missing
        | some .directory => walk h (some here) rest
        | some node => if rest.isEmpty then .ok node else .error node.barrier

/-- What a path leads to. A path that is listed as it stands needs no walk. -/
def find (h : Host) (path : Path) : Except FileFault Node :=
  match h.files.reverse.lookup path with
  | some node => .ok node
  | none =>
    if maxPathLength < path.toText.utf8ByteSize then .error .nameTooLong
    else h.walk (some path.start) path.parts

def contentOf (h : Host) (path : Path) : Except FileFault Bytes := (h.find path).bind Node.content

/-- The value of an environment variable; an empty one counts as unset. -/
def environmentValue? (h : Host) (name : String) : Option String :=
  match h.environment.reverse.lookup name with
  | some "" => none
  | v => v

end Host

end CronLint
