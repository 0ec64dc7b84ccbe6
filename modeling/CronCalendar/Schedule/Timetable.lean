import CronCalendar.Schedule.Basic
import CronCalendar.Zone.Basic

/-!
# Timetables

The five fields of a schedule, evaluated: the minutes, hours, days, months and weekdays on which
it runs. `Timetable.names` says which wall times a timetable names.

A day is named by its number in the month, by its weekday, or by either: a day field that is not
restricted leaves the choice to the other one, and two restricted fields are alternatives.
-/

namespace CronCalendar
set_option autoImplicit false

/-- The values that the fields of a schedule match. -/
structure Timetable where
  minutes : Values
  hours : Values
  days : Values
  months : Values
  weekdays : Values
  /-- The day of the month is not restricted. -/
  anyDay : Bool
  /-- The day of the week is not restricted. -/
  anyWeekday : Bool
  deriving DecidableEq

/-- The fields of a schedule, evaluated. -/
def Schedule.timetable (s : Schedule) : Timetable where
  minutes := s.values .minute
  hours := s.values .hour
  days := s.values .day
  months := s.values .month
  weekdays := s.values .dayOfWeek
  anyDay := (s.field .day).isAny
  anyWeekday := (s.field .dayOfWeek).isAny

namespace Timetable

/-- Whether every field matches something. -/
def isSatisfiable (t : Timetable) : Bool :=
  !t.minutes.isEmpty && !t.hours.isEmpty && !t.days.isEmpty && !t.months.isEmpty &&
    !t.weekdays.isEmpty

/-- Whether a day is named, by its number in the month and its weekday. -/
def namesDay (t : Timetable) (day weekday : Nat) : Bool :=
  if t.anyWeekday then t.days.contains day
  else if t.anyDay then t.weekdays.contains weekday
  else t.days.contains day || t.weekdays.contains weekday

/-- Whether the minute that a wall time falls in is named. -/
def names (t : Timetable) (w : WallTime) : Bool :=
  t.namesDay w.date.day w.weekday && t.minutes.contains w.minute && t.hours.contains w.hour &&
    t.months.contains w.date.month

end Timetable

/-- Whether the minute that an instant falls in, by the clocks of a zone, is one at which the
schedule runs. -/
def Schedule.matchesAt (s : Schedule) (z : Zone) (t : Instant) : Bool :=
  s.timetable.names (z.wallAt t)

end CronCalendar
