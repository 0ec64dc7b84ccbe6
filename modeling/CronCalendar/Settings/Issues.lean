import CronCalendar.Schedule.Validation
import CronCalendar.Settings.Basic

/-!
# Issues of settings

What is wrong with settings that could be read, told as a list of issues: first the ones that
concern names and paths, then the ones that concern the schedules of tasks. Tasks are gone
through in the order of their ids.
-/

namespace CronCalendar
set_option autoImplicit false

open Field (Kind)

/-- How grave an issue is. -/
inductive Severity where
  | error
  | warning
  deriving DecidableEq, Repr

/-- Something that is wrong with settings. -/
structure Issue where
  severity : Severity
  /-- The names that lead to the setting, joined by dots. -/
  place : String
  message : String
  deriving DecidableEq, Repr

namespace Issue

/-- An issue as a line. -/
def text (i : Issue) : String :=
  let tag := match i.severity with
    | .error => "[ERROR] "
    | .warning => "[WARN] "
  tag ++ i.place ++ ": " ++ i.message

end Issue

namespace Settings

/-- The issue of the time zone, if its name is unknown. -/
def zoneIssues (s : Settings) (lookup : String → Option Zone) : List Issue :=
  if (lookup s.timezone).isSome then []
  else
    [⟨.error, "scheduler.timezone",
      "'" ++ s.timezone ++ "' is not an IANA timezone (e.g. 'Europe/London', 'UTC')"⟩]

/-- The issue of the overrides path, if it is empty. -/
def pathIssues (s : Settings) : List Issue :=
  if s.overridesPath = "" then
    [⟨.error, "scheduler.overrides_path", "overrides_path must not be empty"⟩]
  else []

/-- The issue of a task's id, if it is blank. -/
def idIssues (id : String) : List Issue :=
  if Text.trimmed id = "" then [⟨.error, "tasks", "task id must not be empty"⟩] else []

/-- The issue of a task's component, if it is empty or missing from the listed ones. -/
def componentIssues (s : Settings) (id component : String) : List Issue :=
  let place := "tasks." ++ id ++ ".component"
  if component = "" then [⟨.error, place, "component must not be empty"⟩]
  else if !s.components.isEmpty && !s.components.contains component then
    [⟨.warning, place,
      "component '" ++ component ++ "' is not listed in [components]; assuming enabled"⟩]
  else []

/-- The issues that concern names and paths. -/
def structuralIssues (s : Settings) (lookup : String → Option Zone) : List Issue :=
  s.zoneIssues lookup ++ s.pathIssues ++
    (if s.tasks.isEmpty then [⟨.warning, "tasks", "no tasks configured"⟩] else []) ++
    s.tasks.entries.flatMap fun (id, t) => idIssues id ++ s.componentIssues id t.component

/-- The issue of a task's field, if it matches nothing. -/
def fieldIssue? (id : String) (kind : Kind) (text : String) : Option Issue :=
  match validateField kind text with
  | .ok () => none
  | .error e => some ⟨.error, "tasks." ++ id ++ "." ++ kind.name, e.message⟩

/-- The issues of a task's fields. -/
def fieldIssues (id : String) (t : TaskDefaults) : List Issue :=
  t.fields.filterMap fun (kind, text) => fieldIssue? id kind text

/-- The text of a field, with the least value of the calendar in place of a random one. -/
def concreteText (kind : Kind) (text : String) : String :=
  if Field.isRandom text then Decimal.text kind.calendarBounds.least else text

/-- The schedule of a task with a value for each random field. -/
def concreteSchedule (id : String) (t : TaskDefaults) : Schedule :=
  t.fields.foldl (fun s (kind, text) => s.setField kind (concreteText kind text)) { taskId := id }

/-- The issue of a task's schedule, if its fields never coincide. -/
def neverIssues (z : Zone) (id : String) (t : TaskDefaults) : List Issue :=
  let s := concreteSchedule id t
  if isNever (s.nextRun z Instant.epoch) then
    [⟨.error, "tasks." ++ id, "schedule '" ++ s.line ++ "' can never fire"⟩]
  else []

/-- The issues of a task: those of its fields or, if there are none, that of its schedule. -/
def taskIssues (z : Zone) (id : String) (t : TaskDefaults) : List Issue :=
  match fieldIssues id t with
  | [] => neverIssues z id t
  | issues => issues

/-- The issues that concern the schedules of tasks. They run in UTC if the time zone is unknown. -/
def scheduleIssues (s : Settings) (lookup : String → Option Zone) : List Issue :=
  let z := (lookup s.timezone).getD Zone.utc
  s.tasks.entries.flatMap fun (id, t) => taskIssues z id t

/-- All issues of settings. -/
def issues (s : Settings) (lookup : String → Option Zone) : List Issue :=
  s.structuralIssues lookup ++ s.scheduleIssues lookup

end Settings

end CronCalendar
