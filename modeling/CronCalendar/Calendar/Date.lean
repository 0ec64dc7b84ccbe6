/-!
# Civil dates

Dates of the proleptic Gregorian calendar and their day numbers, counted from 1970-01-01.
Day numbers are computed in years that start in March, so that the leap day is the last day
of its year: `Date.dayNumber` adds up whole years, whole months and days, and `Date.ofDayNumber`
divides by the cycles of 400, 100, 4 and 1 years.

Dates outside the years `firstYear` to `lastYear` can be computed with but are not supported:
nothing is scheduled there.
-/

namespace CronCalendar
set_option autoImplicit false

/-- A date, by year, month (from 1) and day of the month (from 1). -/
structure Date where
  year : Int
  month : Nat
  day : Nat
  deriving DecidableEq, Repr

namespace Date

/-- The first supported year. -/
def firstYear : Int := -262143

/-- The last supported year. -/
def lastYear : Int := 262142

/-- Whether a year has a 29th of February. -/
def isLeapYear (year : Int) : Bool :=
  decide (year % 4 = 0) && (decide (year % 100 ≠ 0) || decide (year % 400 = 0))

/-- The number of days of a month. -/
def daysInMonth (year : Int) (month : Nat) : Nat :=
  match month with
  | 2 => if isLeapYear year then 29 else 28
  | 4 | 6 | 9 | 11 => 30
  | _ => 31

/-- Whether a date exists: its month is a month and its day one of the month's days. -/
def isValid (d : Date) : Bool :=
  decide (1 ≤ d.month) && decide (d.month ≤ 12) &&
    decide (1 ≤ d.day) && decide (d.day ≤ daysInMonth d.year d.month)

/-- Whether the year of a date is supported. -/
def isSupported (d : Date) : Bool :=
  decide (firstYear ≤ d.year) && decide (d.year ≤ lastYear)

/-- The year a date falls in when years start on the first of March and are named for it. -/
def marchYear (d : Date) : Int := if d.month ≤ 2 then d.year - 1 else d.year

/-- The months since March of a date. -/
def marchMonth (d : Date) : Nat := if d.month ≤ 2 then d.month + 9 else d.month - 3

/-- The days from 0000-03-01 to the first of March of a year. -/
def marchYearStart (y : Int) : Int := 365 * y + y / 4 - y / 100 + y / 400

/-- The days from the first of March to the first of the month that comes `m` months later. -/
def marchMonthStart (m : Nat) : Nat := (153 * m + 2) / 5

/-- The day number of 0000-03-01 is the negative of this. -/
def epochShift : Int := 719468

/-- The day number of a date: 0 for 1970-01-01, 1 for the day after. -/
def dayNumber (d : Date) : Int :=
  marchYearStart d.marchYear + (marchMonthStart d.marchMonth : Nat) + (d.day : Int) - 1 - epochShift

/-- The date whose day number is `n`. -/
def ofDayNumber (n : Int) : Date :=
  let fromMarch := n + epochShift
  let inCycle := fromMarch % 146097
  let century := min (inCycle / 36524) 3
  let inCentury := inCycle - 36524 * century
  let quad := inCentury / 1461
  let inQuad := inCentury % 1461
  let single := min (inQuad / 365) 3
  let dayOfYear := (inQuad - 365 * single).toNat
  let marchYear := 400 * (fromMarch / 146097) + 100 * century + 4 * quad + single
  let marchMonth := (5 * dayOfYear + 2) / 153
  let day := dayOfYear - marchMonthStart marchMonth + 1
  if marchMonth < 10 then ⟨marchYear, marchMonth + 3, day⟩ else ⟨marchYear + 1, marchMonth - 9, day⟩

/-- The day of the week of a day number, 0 for Sunday to 6 for Saturday. -/
def weekdayOf (n : Int) : Nat := ((n + 4) % 7).toNat

/-- The day of the week of a date, 0 for Sunday to 6 for Saturday. -/
def weekday (d : Date) : Nat := weekdayOf d.dayNumber

end Date

end CronCalendar
