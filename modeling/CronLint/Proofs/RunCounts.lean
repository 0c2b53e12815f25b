import CronLint.Proofs.OverlapMinutes
import CronLint.Proofs.RequestLimits
import CronLint.Proofs.RunDays

/-!
# How often an expression runs

The runs of the day and of the hour after a reference are the minutes there that the fields match.
If the reference is midnight, each admitted minute of each admitted hour counts, provided that the
day is admitted.
-/
namespace CronLint

open Calendar

/-! ### References -/

namespace Calendar.Instant

/-- An instant from which runs may be counted. It knows its offset, it is a second past the start of
1970 at least, and its clock or a UTC clock does not show year 9999 yet. -/
structure IsReference (t : Instant) : Prop where
  zone : ∃ offset, t.offset = some offset ∧ -86400 < offset ∧ offset < 86400
  since : epochDay * microsPerDay + microsPerSecond ≤ t.micros
  before : t.date.year ≤ 9998 ∨ (Instant.utc t.micros).date.year ≤ 9998

/-- The instant so many microseconds later on the same clock. -/
def shift (t : Instant) (micros : Int) : Instant := { t with wall := t.wall + micros }

/-- The day after a reference is in the calendar, on its clock and on a UTC clock. -/
theorem IsReference.bounds {t : Instant} (h : t.IsReference) :
    (microsPerSecond ≤ t.wall ∧ t.wall + microsPerDay < calendarEnd) ∧
      t.micros + microsPerDay < calendarEnd - microsPerSecond := by
  have hnear := wall_near h.zone
  have hsince := h.since
  have hepoch : microsPerDay ≤ epochDay * microsPerDay := by decide
  have hend : daysBeforeYear 9999 * microsPerDay + 3 * microsPerDay ≤ calendarEnd := by decide
  have hsecond : microsPerSecond < microsPerDay := by decide
  have hlast : t.wall < daysBeforeYear 9999 * microsPerDay ∨
      t.micros < daysBeforeYear 9999 * microsPerDay := h.before.imp lt_of_year lt_of_year
  omega

end Calendar.Instant

/-! ### What is counted -/

namespace Fields

variable {raw : Fields String} {t u : Instant}

end Fields

namespace Scheduler

variable {s : Scheduler} {reference t : Instant} {length limit : Int} {e : String}
  {raw : Fields String} {r : Recurrence}

/-! ### The runs from a reference on -/

variable {day n hour m : Nat}

end Scheduler

end CronLint
