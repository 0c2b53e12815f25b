import CronLint.Calendar.Instant

/-!
# How far ahead an instant lies

Told in the largest unit of which at least one whole fits, and cut to whole units. Whatever lies
less than a minute ahead, the past included, is told alike.
-/
namespace CronLint.Calendar

def countOf (n : Int) (unit : String) : String :=
  "in " ++ toString n ++ " " ++ unit ++ if n = 1 then "" else "s"

def tellAhead (span : Int) : String :=
  if span < microsPerMinute then "in less than a minute"
  else if span < microsPerHour then countOf (span / microsPerMinute) "minute"
  else if span < microsPerDay then countOf (span / microsPerHour) "hour"
  else countOf (span / microsPerDay) "day"

def Instant.tellFrom (now t : Instant) : Except CalendarError String :=
  (now.elapsed t).map tellAhead

end CronLint.Calendar
