/-!
# Settings of a check

The settings, the constraints that are declared for them, and the complaints about settings that do
not fit.
-/
namespace CronLint

structure Settings where
  locale : String := "en"
  enableFrequency : Bool := true
  maxRunsPerDay : Int := 1000
  enableHygiene : Bool := false
  warnOnOverlap : Bool := false
  overlapWindowMinutes : Int := 1440
  deriving DecidableEq, Repr

structure Settings.Admissible (s : Settings) : Prop where
  locale : s.locale ≠ ""
  maxRunsPerDay : 1 ≤ s.maxRunsPerDay
  overlapWindow : 1 ≤ s.overlapWindowMinutes

/-- What is wrong with the value at a place in the data. The data as a whole have the empty
place. -/
structure Complaint where
  place : List String
  message : String
  deriving DecidableEq, Repr

namespace Complaint

def text (c : Complaint) : String := ".".intercalate c.place ++ ": " ++ c.message

def join (complaints : List Complaint) : String := "; ".intercalate (complaints.map text)

end Complaint

end CronLint
