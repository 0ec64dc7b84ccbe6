import CronCalendar.Field.Values

/-!
# The five fields

A schedule has a field for the minute, the hour, the day of the month, the month and the day of
the week, written in that order. Each kind of field has the range of values that its expressions
may name and the range of values that a calendar shows; they differ only for the day of the
week, where 7 is a second name of Sunday.
-/

namespace CronCalendar.Field
set_option autoImplicit false

/-- A range of numbers, both ends included. -/
structure Bounds where
  least : Nat
  greatest : Nat
  deriving DecidableEq, Repr

/-- The kinds of field. -/
inductive Kind where
  | minute
  | hour
  | day
  | month
  | dayOfWeek
  deriving DecidableEq, Repr

namespace Kind

/-- The kinds in the order in which a line lists them. -/
def all : List Kind := [minute, hour, day, month, dayOfWeek]

/-- The place of a kind in that order, from 0. -/
def index : Kind → Nat
  | minute => 0
  | hour => 1
  | day => 2
  | month => 3
  | dayOfWeek => 4

/-- The name of a kind. -/
def name : Kind → String
  | minute => "minute"
  | hour => "hour"
  | day => "day"
  | month => "month"
  | dayOfWeek => "day_of_week"

/-- The kind with a name. The day of the week has two more names. -/
def named? (name : String) : Option Kind :=
  if name = "dayofweek" ∨ name = "dow" then some dayOfWeek
  else all.find? fun kind => kind.name == name

/-- The values that can occur on a calendar. -/
def calendarBounds : Kind → Bounds
  | minute => ⟨0, 59⟩
  | hour => ⟨0, 23⟩
  | day => ⟨1, 31⟩
  | month => ⟨1, 12⟩
  | dayOfWeek => ⟨0, 6⟩

/-- The values that an expression may name. -/
def expressionBounds : Kind → Bounds
  | dayOfWeek => ⟨0, 7⟩
  | kind => kind.calendarBounds

end Kind

/-- The weekdays of a set in which 7 may stand for Sunday: if 7 is the greatest member, 0 takes
its place. -/
def foldSunday (v : Values) : Values :=
  if v.toList.getLast? = some 7 then (Values.singleton 0).union (v.filter (· != 7)) else v

end CronCalendar.Field
