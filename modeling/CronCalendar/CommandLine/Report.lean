import CronCalendar.CommandLine.Arguments
import CronCalendar.Settings.Issues
import CronCalendar.Settings.Toml
import CronCalendar.Tasks.Context
import CronCalendar.Zone.Named

/-!
# Commands

What each command of the command line does. A command reads the settings, works on the tasks and
their overrides, and reports: what it prints, what it complains about and its exit code, which
is 0 for success, 1 for a failure, 2 for arguments that are not understood and 101 for a listing
that no memory has room for or whose search for a run is broken off. Time zones are those of
`Zone.named?`.
-/

namespace CronCalendar.CommandLine
set_option autoImplicit false

/-- What a run of the command line comes to. -/
structure Report where
  code : Nat
  /-- The text for the standard output. -/
  output : String
  /-- The text for the standard error. -/
  complaint : String
  deriving DecidableEq, Repr

/-- What a run of the command line depends on apart from files and arguments. -/
structure Environment where
  /-- The path of the settings, if it is not the usual one. -/
  settingsPath : Option String
  clock : Clock

/-- The text of some lines. -/
def unlines (lines : List String) : String := String.join (lines.map (· ++ "\n"))

/-- A success with some lines of output. -/
def success (lines : List String) : Report := ⟨0, unlines lines, ""⟩

/-- A failure. -/
def failure (e : Error) : Report :=
  if e.isBreak then ⟨101, "", unlines [e.message]⟩ else ⟨1, "", unlines ["Error: " ++ e.message]⟩

/-- A success with lines of output, or a failure. -/
def reportLines : Except Error (List String) → Report
  | .ok lines => success lines
  | .error e => failure e

/-- The version, as it is printed. -/
def versionLine : String := "cronkit 0.1.0"

/-- The lines that explain the command line. -/
def helpLines : List String :=
  ["Compute when cron-scheduled tasks run next", "", "Usage: cronkit <COMMAND>", "", "Commands:",
    "  next      Print upcoming fire times for a cron line or a configured task",
    "  check     Check that a cron line is well formed and can fire",
    "  tasks     List configured tasks with their effective schedule and next run",
    "  enable    Enable a task (stored as an override)",
    "  disable   Disable a task (stored as an override)",
    "  reset     Drop a task's override and go back to its configured default",
    "  config    Validate or show the configuration",
    "  help      Print this message"]

/-- A text with blanks behind it up to a number of characters. -/
def padRight (width : Nat) (s : String) : String :=
  s ++ String.ofList (List.replicate (width - s.length) ' ')

/-- A line of the listing of tasks. -/
def columns (task component schedule enabled custom next : String) : String :=
  Text.unwords
    [padRight 20 task, padRight 12 component, padRight 24 schedule, padRight 8 enabled,
      padRight 10 custom, next]

/-- A truth value in the listing of tasks. -/
def yesNo (b : Bool) : String := if b then "yes" else "no"

/-- The listing of tasks. -/
def listing : List TaskRow → List String
  | [] => ["No tasks configured."]
  | rows =>
    columns "TASK" "COMPONENT" "SCHEDULE" "ENABLED" "CUSTOM" "NEXT" ::
      rows.map fun r =>
        columns r.taskId r.component r.line (yesNo r.enabled) (yesNo r.customised) r.next

/-- What the check of settings reports. -/
def issuesReport (path : String) : List Issue → Report
  | [] => success ["Config OK (" ++ path ++ ")"]
  | issues =>
    let errors := issues.countP fun i => i.severity = .error
    let summary := Decimal.text errors ++ " error(s), " ++ Decimal.text (issues.length - errors) ++
      " warning(s) in " ++ path
    ⟨if errors = 0 then 0 else 1, unlines (issues.map Issue.text ++ ["", summary]), ""⟩

variable {m : Type → Type} [Monad m] [Files m]

/-- Reads the settings at a path. A missing file stands for the defaults. -/
def loadSettings (path : String) : m (Except Error Settings) := do
  if ← Files.present path then
    match ← Files.read path with
    | .error cause => pure (.error (.settingsUnreadable path cause))
    | .ok text =>
      match Settings.ofToml? text with
      | some settings => pure (.ok settings)
      | none => pure (.error (.settingsMalformed path))
  else pure (.ok {})

/-- The starting point of a listing of runs. -/
def chosenStart (clock : Clock) : Option String → Except Error Instant
  | some text => startingPoint text
  | none => .ok clock.now

/-- The greatest number of runs that can be asked for: room is made for all of them beforehand, with
twelve bytes for each, and the size of that room has to fit into sixty-three bits. -/
def countLimit : Nat := (Nat.pow 2 63 - 1) / 12

/-- The listing of the next runs of a schedule. It breaks off behind its first line if there is no
room for the runs, or a search for one is broken off. -/
def runsReport (s : Schedule) (z : Zone) (now : Instant) (count : Nat) : Report :=
  let title := s.line ++ "  [" ++ z.name ++ "]"
  if countLimit < count then ⟨101, unlines [title], unlines ["capacity overflow"]⟩
  else
    match s.answers z now count with
    | .error e => ⟨101, unlines [title], unlines [e.message]⟩
    | .ok runs => success (title :: (describeRuns z runs).map ("  " ++ ·))

/-- Works on the tasks of some settings, once they are open. -/
def withTasks (settings : Settings) (act : StateT Tasks m (Except Error (List String))) :
    m Report := do
  match ← Tasks.openFor settings Zone.named? with
  | .error e => pure (failure e)
  | .ok tasks =>
    let (result, _) ← act tasks
    pure (reportLines result)

/-- The line that confirms that a task was enabled or disabled. -/
def switchLine (taskId : String) (enabled : Bool) (s : Schedule) : String :=
  taskId ++ ": " ++ (if enabled then "enabled" else "disabled") ++
    if s.customised then " (customised)" else ""

/-- Enables or disables a task. -/
def switchTask (settings : Settings) (taskId : String) (enabled : Bool) : m Report :=
  withTasks settings do
    let result ← Tasks.setEnabled taskId enabled
    pure (result.map fun s => [switchLine taskId enabled s])

/-- Runs a command on some settings, which were read from a path. -/
def runCommand (clock : Clock) (path : String) (settings : Settings) : Command → m Report
  | .next line task count zone start =>
    match chosenZone settings zone Zone.named?, chosenStart clock start with
    | .error e, _ => pure (failure e)
    | .ok _, .error e => pure (failure e)
    | .ok z, .ok start => do
      match ← chosenSchedule settings line task with
      | .error e => pure (failure e)
      | .ok s => pure (runsReport s z start count)
  | .check line =>
    match checkLine line with
    | .ok text => pure (success [text])
    | .error e => pure ⟨1, "", unlines [e.message]⟩
  | .tasks => withTasks settings fun t => pure ((t.list clock).map listing, t)
  | .enable taskId => switchTask settings taskId true
  | .disable taskId => switchTask settings taskId false
  | .reset taskId => withTasks settings do
      let result ← Tasks.reset taskId
      pure (result.map fun removed =>
        [taskId ++ if removed then ": override removed" else ": already at default"])
  | .validateSettings => pure (issuesReport path (settings.issues Zone.named?))
  | .showSettings => pure ⟨0, settings.toToml, ""⟩

/-- Runs the command line. -/
def run (env : Environment) (arguments : List String) : m Report :=
  match read arguments with
  | .error e => pure ⟨2, "", unlines ["error: " ++ e.message]⟩
  | .ok .help => pure (success helpLines)
  | .ok .version => pure (success [versionLine])
  | .ok (.run c) => do
    let path := env.settingsPath.getD "cronkit.toml"
    match ← loadSettings path with
    | .error e => pure (failure e)
    | .ok settings => runCommand env.clock path settings c

end CronCalendar.CommandLine
