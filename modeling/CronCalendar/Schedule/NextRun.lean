import CronCalendar.Calendar.Timestamp
import CronCalendar.Error
import CronCalendar.Schedule.Search

/-!
# Next runs

`nextRun` is the first run behind the minute of an instant, and `nextRuns` the runs that follow
one another. A schedule that cannot run has the instant `never` for its next run, which is the
start of the year 2222. They are what the program answers, if it does: `answer` and `answers` tell
that apart from a search that is broken off and from one that does not end.
-/

namespace CronCalendar
set_option autoImplicit false

/-- The instant 2222-01-01T00:00:00Z, which stands for a run that never comes. -/
def never : Instant := ⟨7952342400, 0, zero_lt_nanosPerSecond, by decide, by decide⟩

/-- Whether an instant is the one that stands for no run. -/
def isNever (t : Instant) : Bool := t == never

namespace Schedule

/-- The next run of a schedule behind the minute that an instant falls in; `never` if a field
matches nothing or the search gives up. -/
def nextRun (s : Schedule) (z : Zone) (now : Instant) : Instant :=
  if s.isSatisfiable then (Search.run? s.timetable z now).getD never else never

/-- The next `n` runs of a schedule, fewer if it stops running. -/
def nextRuns (s : Schedule) (z : Zone) (now : Instant) : Nat → List Instant
  | 0 => []
  | n + 1 =>
    let next := s.nextRun z now
    if isNever next then [] else next :: nextRuns s z next n

/-- The next run, as it is answered. There is no answer if the search is broken off, or goes on after
all the steps that it is allowed. -/
def answer (s : Schedule) (z : Zone) (now : Instant) : Except Error Instant :=
  if s.isSatisfiable then
    match Search.ending? s.timetable z (z.wallAt now).date.year Search.stepLimit ⟨now, true⟩ with
    | some (.finds found) => .ok found
    | some .givesUp => .ok never
    | some .breaksOff => .error .dateOutOfRange
    | none => .error .searchUnending
  else .ok never

/-- The next `n` runs, as they are answered. -/
def answers (s : Schedule) (z : Zone) (now : Instant) : Nat → Except Error (List Instant)
  | 0 => .ok []
  | n + 1 =>
    match s.answer z now with
    | .error e => .error e
    | .ok next => if isNever next then .ok [] else (answers s z next n).map (next :: ·)

end Schedule

/-- An instant in UTC and, in parentheses, by the clocks of a zone. -/
def describeInstant (z : Zone) (t : Instant) : String :=
  let wall := z.wallAt t
  String.ofList (Timestamp.secondsText t) ++ " (" ++
    String.ofList (Timestamp.dateText wall.date ++ ' ' :: Timestamp.minuteText wall) ++ " " ++
    (z.typeAt t.seconds).abbreviation ++ ")"

/-- Runs as lines, or the one line `never`. -/
def describeRuns (z : Zone) : List Instant → List String
  | [] => ["never"]
  | runs => runs.map (describeInstant z)

/-- The next `n` runs of a schedule as lines. -/
def Schedule.upcoming (s : Schedule) (z : Zone) (now : Instant) (n : Nat) : List String :=
  describeRuns z (s.nextRuns z now n)

end CronCalendar
