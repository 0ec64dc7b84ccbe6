import CronCalendar.Schedule.Timetable

/-!
# The search for the next run

The search keeps a candidate instant and moves it along the local clock until all five fields
agree. One `step` looks at the month, the day, the hour and the minute in turn; the first that
does not fit moves the candidate to the start of the next unit that may, and the next step starts
over from there. The search ends with an instant at which the schedule runs, or gives up: when the
candidate is more than `yearLimit` years past the start, or leaves the supported years.

* An hour that a gap swallows is run in the hour the clock jumps to, unless that hour is named
  itself or lies on another day.
* A wall time that an overlap repeats is taken for its first occurrence.
* The minute in which the search starts does not count.

Local dates are counted on beyond the supported years, which the clock of a zone may show at the
first and the last of the instants. The program cannot: a search that takes the date of such an
instant is broken off. `lacksDate` says which steps take one, and `ending?` how a search ends.
-/

namespace CronCalendar
set_option autoImplicit false

namespace Search

/-- The search gives up when the candidate is this many calendar years past the start: eight
years reach from one leap day to the next across a century that has none. -/
def yearLimit : Int := 8

/-- Where the search stands. -/
structure Candidate where
  instant : Instant
  /-- The candidate still stands in the minute in which the search started. -/
  untouched : Bool
  deriving DecidableEq

/-- What a step of the search comes to. -/
inductive Outcome where
  /-- The search goes on from another candidate. -/
  | goOn (c : Candidate)
  /-- The schedule runs at this instant. -/
  | runs (t : Instant)
  /-- No run can be found. -/
  | giveUp
  deriving DecidableEq

/-- Goes on from an instant that the candidate was moved to, if there is one. -/
def goOnAt : Option Instant → Outcome
  | some t => .goOn ⟨t, false⟩
  | none => .giveUp

/-- The days from a day to the next of the named days of the month, counting on into the next
month when the rest of this one has none. -/
def daysToNamedDay (t : Timetable) (d : Date) : Nat :=
  let next := t.days.nextFrom d.day
  if d.day ≤ next then next - d.day else Date.daysInMonth d.year d.month - d.day + next

/-- The days from a weekday to the next of the named ones. -/
def daysToNamedWeekday (t : Timetable) (weekday : Nat) : Nat :=
  let next := t.weekdays.nextFrom weekday
  if weekday ≤ next then next - weekday else 7 - weekday + next

/-- The days from a day to the next that may be named. -/
def dayOffset (t : Timetable) (d : Date) (weekday : Nat) : Nat :=
  if t.anyWeekday then daysToNamedDay t d
  else if t.anyDay then daysToNamedWeekday t weekday
  else min (daysToNamedDay t d) (daysToNamedWeekday t weekday)

/-- The instant at which the first day of a month starts. -/
def startOfMonth? (z : Zone) (year : Int) (month : Nat) : Option Instant :=
  let d : Date := ⟨year, month, 1⟩
  if d.isSupported then z.startOfDay? d.dayNumber else none

/-- The instant at which a day starts, if its year is supported. -/
def startOfSupportedDay? (z : Zone) (dayNumber : Int) : Option Instant :=
  if (WallTime.ofDay dayNumber 0).isSupported then z.startOfDay? dayNumber else none

/-- The start of the minute that an instant falls in by the local clock. -/
def startOfMinute? (z : Zone) (t : Instant) : Option Instant :=
  Instant.ofSeconds? (t.seconds - (z.wallAt t).second)

/-- The instant a number of minutes later, if there is one. -/
def addMinutes? (t : Instant) (n : Nat) : Option Instant := t.addSeconds? (60 * (n : Int))

/-- The last part of a step: everything down to the hour fits. -/
def minuteStep (t : Timetable) (z : Zone) (c : Candidate) : Outcome :=
  match startOfMinute? z c.instant with
  | none => .giveUp
  | some start =>
    let minute := (z.wallAt start).minute
    let next := t.minutes.nextFrom minute
    if next = minute ∧ c.untouched then goOnAt (addMinutes? start 1)
    else if next < minute then goOnAt (addMinutes? start (60 - minute))
    else
      match addMinutes? start (next - minute) with
      | some found => .runs found
      | none => .giveUp

/-- Whether a run stays in the hour that the clock jumps to: the wall time that was looked for
lies in a gap, and the hour it is moved to is not named itself and lies on the same day. -/
def staysInJumpedHour (t : Timetable) (z : Zone) (w : WallTime) (target : Instant) : Bool :=
  z.isInGap w && !t.hours.contains (z.wallAt target).hour &&
    (z.wallAt target).dayNumber == w.dayNumber

/-- The part of a step behind the day: the month and the day fit. It takes the date of the candidate if
the hour does not fit, and that of the target in the test whether a run stays there (`hourLacksDate`). -/
def hourStep (t : Timetable) (z : Zone) (c : Candidate) : Outcome :=
  let wall := z.wallAt c.instant
  let next := t.hours.nextFrom wall.hour
  if next = wall.hour then minuteStep t z c
  else
    let day := if next < wall.hour then wall.dayNumber + 1 else wall.dayNumber
    let w := WallTime.atHour day next
    if w.isSupported then
      match z.resolve? w with
      | none => .giveUp
      | some target =>
        if staysInJumpedHour t z w target then minuteStep t z ⟨target, false⟩
        else .goOn ⟨target, false⟩
    else .giveUp

/-- The part of a step behind the month: the month fits. It takes the date of the candidate if the day
does not fit (`lacksDate`). -/
def dayStep (t : Timetable) (z : Zone) (c : Candidate) : Outcome :=
  let wall := z.wallAt c.instant
  let offset := dayOffset t wall.date wall.weekday
  if offset = 0 then hourStep t z c
  else goOnAt (startOfSupportedDay? z (wall.dayNumber + (offset : Int)))

/-- The part of a step behind the limit on the years. -/
def monthStep (t : Timetable) (z : Zone) (c : Candidate) : Outcome :=
  let date := (z.wallAt c.instant).date
  let next := t.months.nextFrom date.month
  if next = date.month then dayStep t z c
  else goOnAt (startOfMonth? z (if next < date.month then date.year + 1 else date.year) next)

/-- One step of a search that started in the year `firstYear`. -/
def step (t : Timetable) (z : Zone) (firstYear : Int) (c : Candidate) : Outcome :=
  if yearLimit < (z.wallAt c.instant).date.year - firstYear then .giveUp else monthStep t z c

/-- The outcome of at most `n` steps. It says `goOn` when they do not end the search. -/
def iterate (t : Timetable) (z : Zone) (firstYear : Int) : Nat → Candidate → Outcome
  | 0, c => .goOn c
  | n + 1, c =>
    match step t z firstYear c with
    | .goOn c => iterate t z firstYear n c
    | outcome => outcome

/-- The number of steps allowed for a search: one for each minute of the years it may cover. -/
def stepLimit : Nat := 60 * 24 * 366 * 10

/-- The outcome of the search that starts at an instant. -/
def outcome (t : Timetable) (z : Zone) (start : Instant) : Outcome :=
  iterate t z (z.wallAt start).date.year stepLimit ⟨start, true⟩

/-- The instant that the search finds. It is not told whether a search that finds none gives up or goes
on, nor whether it is broken off on the way; `ending?` tells. -/
def run? (t : Timetable) (z : Zone) (start : Instant) : Option Instant :=
  match outcome t z start with
  | .runs found => some found
  | _ => none

/-! ## Dates that cannot be told -/

/-- Whether the date that the clock shows at an instant is out of range. -/
def isOutOfRange (z : Zone) (t : Instant) : Bool := !(z.wallAt t).isSupported

/-- Whether the part of a step behind the day takes a date that is out of range: that of the candidate,
which is needed to move it, or that of the instant it is moved to over a gap, which is needed unless the
hour of that is named. -/
def hourLacksDate (t : Timetable) (z : Zone) (c : Candidate) : Bool :=
  let wall := z.wallAt c.instant
  let next := t.hours.nextFrom wall.hour
  if next = wall.hour then false
  else if isOutOfRange z c.instant then true
  else
    let day := if next < wall.hour then wall.dayNumber + 1 else wall.dayNumber
    let w := WallTime.atHour day next
    if w.isSupported then
      match z.resolve? w with
      | none => false
      | some target =>
        z.isInGap w && !t.hours.contains (z.wallAt target).hour && isOutOfRange z target
    else false

/-- Whether a step takes a date that is out of range. The month, the year and the weekday are told of
every instant; the date itself is taken where the day or the hour does not fit. -/
def lacksDate (t : Timetable) (z : Zone) (firstYear : Int) (c : Candidate) : Bool :=
  let wall := z.wallAt c.instant
  if yearLimit < wall.date.year - firstYear then false
  else if t.months.nextFrom wall.date.month = wall.date.month then
    if dayOffset t wall.date wall.weekday = 0 then hourLacksDate t z c
    else isOutOfRange z c.instant
  else false

/-- How a search ends. -/
inductive Ending where
  /-- It finds the instant of a run. -/
  | finds (t : Instant)
  /-- It gives up. -/
  | givesUp
  /-- It is broken off for want of a date. -/
  | breaksOff
  deriving DecidableEq

/-- How the search ends within a number of steps, if it does. -/
def ending? (t : Timetable) (z : Zone) (firstYear : Int) : Nat → Candidate → Option Ending
  | 0, _ => none
  | n + 1, c =>
    if lacksDate t z firstYear c then some .breaksOff
    else
      match step t z firstYear c with
      | .goOn c => ending? t z firstYear n c
      | .runs found => some (.finds found)
      | .giveUp => some .givesUp

end Search

end CronCalendar
