import CronCalendar.Calendar.Date
import CronCalendar.Calendar.Instant

/-!
# Wall-clock times

A wall time is what a local clock shows, to the second: a date and a time of day with no
offset attached. It is kept as the number of seconds the clock has counted since it showed
1970-01-01T00:00:00, so that moving along the clock is addition.
-/

namespace CronCalendar
set_option autoImplicit false

/-- What a clock shows: the seconds counted since it showed 1970-01-01T00:00:00. -/
structure WallTime where
  count : Int
  deriving DecidableEq, Repr

namespace WallTime

/-- The day number of the date shown. -/
def dayNumber (w : WallTime) : Int := w.count / secondsPerDay

/-- The seconds since midnight. -/
def secondOfDay (w : WallTime) : Nat := (w.count % secondsPerDay).toNat

/-- The date shown. -/
def date (w : WallTime) : Date := Date.ofDayNumber w.dayNumber

/-- The day of the week shown, 0 for Sunday to 6 for Saturday. -/
def weekday (w : WallTime) : Nat := Date.weekdayOf w.dayNumber

/-- The hour shown. -/
def hour (w : WallTime) : Nat := w.secondOfDay / 3600

/-- The minute shown. -/
def minute (w : WallTime) : Nat := w.secondOfDay / 60 % 60

/-- The second shown. -/
def second (w : WallTime) : Nat := w.secondOfDay % 60

/-- The wall time at a number of seconds after the midnight that starts a day. -/
def ofDay (dayNumber : Int) (seconds : Nat) : WallTime :=
  ⟨secondsPerDay * dayNumber + seconds⟩

/-- The wall time at the full hour `hour` of the day with the given number. -/
def atHour (dayNumber : Int) (hour : Nat) : WallTime := ofDay dayNumber (3600 * hour)

/-- Whether the year shown is supported. -/
def isSupported (w : WallTime) : Bool :=
  decide (firstSecond ≤ w.count) && decide (w.count ≤ lastSecond)

end WallTime

end CronCalendar
