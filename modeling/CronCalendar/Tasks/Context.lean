import CronCalendar.Schedule.Validation
import CronCalendar.Tasks.Defaults
import CronCalendar.Tasks.Overrides

/-!
# Tasks

The tasks of some settings with their overrides: `list` lists them, `setEnabled` enables or
disables one by an override, and `reset` goes back to its default. The schedule in force for a task
is its override if it has one, else its default.

A listing asks the clock for each task that is enabled, and is broken off if the search for the next
run of one is; `rows` says what it shows otherwise.
-/

namespace CronCalendar
set_option autoImplicit false

/-- The defaults and overrides of tasks, and the time zone they run in. -/
structure Tasks where
  defaults : NameMap Schedule
  registry : Registry
  overrides : Overrides
  zone : Zone

/-- What a listing of tasks says of one task. -/
structure TaskRow where
  taskId : String
  component : String
  line : String
  enabled : Bool
  customised : Bool
  /-- The next run, `never`, or a dash if the task is not enabled. -/
  next : String
  deriving DecidableEq, Repr

namespace Tasks

variable {m : Type → Type} [Monad m] [Files m]

/-- Opens the tasks of some settings. -/
def openFor (settings : Settings) (lookup : String → Option Zone) : m (Except Error Tasks) := do
  match ← Overrides.openAt settings.overridesPath with
  | .error e => pure (.error e)
  | .ok overrides =>
    pure ((zoneNamed settings.timezone lookup).map fun zone =>
      ⟨settings.defaultSchedules, settings.registry, overrides, zone⟩)

/-- The schedule in force for a task. -/
def effective? (t : Tasks) (taskId : String) : Option Schedule :=
  t.overrides.effective? t.registry taskId

/-- The schedule in force for a task that has to exist. -/
def effective (t : Tasks) (taskId : String) : Except Error Schedule :=
  match t.effective? taskId with
  | some s => .ok s
  | none => .error (.unknownTask taskId)

/-- What a listing says of the next run of a schedule. -/
def nextText (t : Tasks) (now : Instant) (s : Schedule) : String :=
  if t.registry.isEnabled s then
    let next := s.nextRun t.zone now
    if isNever next then "never" else describeInstant t.zone next
  else "-"

/-- What a listing says of a task at an instant. -/
def row (t : Tasks) (now : Instant) (taskId : String) : Except Error TaskRow := do
  let s ← t.effective taskId
  let same ← t.registry.hasDefaultConfiguration s
  pure
    { taskId
      component := s.component
      line := s.line
      enabled := t.registry.isEnabled s
      customised := !same
      next := t.nextText now s }

/-- The same, if the search for the next run of an enabled task is answered. -/
def answeredRow (t : Tasks) (now : Instant) (taskId : String) : Except Error TaskRow := do
  let s ← t.effective taskId
  let _ ← if t.registry.isEnabled s then s.answer t.zone now else pure never
  t.row now taskId

/-- The rows of some tasks, each at the instant that the clock shows when it is asked for the row. It is
asked for tasks that are enabled. -/
def rowsBy (row : Instant → String → Except Error TaskRow) :
    Clock → List String → Except Error (List TaskRow)
  | _, [] => pure []
  | clock, taskId :: rest => do
    let r ← row clock.now taskId
    let later ← rowsBy row (if r.enabled then clock.asked else clock) rest
    pure (r :: later)

/-- The rows of the configured tasks, in the order of their ids. -/
def rows (t : Tasks) (clock : Clock) : Except Error (List TaskRow) :=
  rowsBy t.row clock t.defaults.names

/-- The listing of the configured tasks: their rows, if each search is answered. -/
def list (t : Tasks) (clock : Clock) : Except Error (List TaskRow) :=
  rowsBy t.answeredRow clock t.defaults.names

/-- Enables or disables a schedule and keeps it as an override. Answers the schedule as it is
afterwards. -/
def setDisabled (s : Schedule) (disabled : Bool) : StateT Tasks m (Except Error Schedule) := fun t => do
  let ((result, s), overrides) ←
    (t.registry.setDisabled Overrides.save s disabled : StateT Overrides m _) t.overrides
  pure (result.map fun _ => s, { t with overrides })

/-- Enables or disables a task. Answers its schedule as it is afterwards. -/
def setEnabled (taskId : String) (enabled : Bool) : StateT Tasks m (Except Error Schedule) := fun t =>
  match t.effective taskId with
  | .error e => pure (.error e, t)
  | .ok s => setDisabled s (!enabled) t

/-- Drops the override of a task. Answers whether there was one. -/
def reset (taskId : String) : StateT Tasks m (Except Error Bool) := fun t =>
  if t.defaults.contains taskId then do
    let (result, overrides) ← Overrides.remove taskId t.overrides
    pure (result, { t with overrides })
  else pure (.error (.unknownTask taskId), t)

end Tasks

/-- The schedule that a listing of runs is asked for: that of a line, or the one in force for a
task. -/
def chosenSchedule {m : Type → Type} [Monad m] [Files m] (settings : Settings)
    (line task : Option String) : m (Except Error Schedule) :=
  match line, task with
  | some line, _ => pure do
    validateLine line
    let (s, _) ← Schedule.ofLine? "cli" line (Random.ChaCha.ofSeed 0)
    pure s
  | none, some taskId => do
    match ← Overrides.openAt settings.overridesPath with
    | .error e => pure (.error e)
    | .ok overrides =>
      match overrides.effective? settings.registry taskId with
      | some s => pure (.ok s)
      | none => pure (.error (.unknownTask taskId))
  | none, none => pure (.error .nothingGiven)

/-- The time zone that a listing of runs is asked for: the named one or that of the settings. -/
def chosenZone (settings : Settings) (name : Option String) (lookup : String → Option Zone) :
    Except Error Zone :=
  zoneNamed (name.getD settings.timezone) lookup

end CronCalendar
