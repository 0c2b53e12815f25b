import CronLint.Schedule.Basic

/-!
# Two restricted day fields
-/
namespace CronLint

/-- Whether both the day of the month and the day of the week are restricted. A job then runs on
days that satisfy either. -/
def Schedule.restrictsBothDays (s : Schedule) : Bool :=
  !s.fields.dayOfMonth.isEvery && !s.fields.dayOfWeek.isEvery

end CronLint
