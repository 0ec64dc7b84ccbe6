import CronCalendar.Field.Kind
import CronCalendar.Json.Basic
import CronCalendar.Text.NameMap

/-!
# Settings

What a configuration file can set: the time zone and the overrides file of the scheduler, the
logging, the default schedule of each task and which components are enabled. Everything has a
default, so that an empty document stands for usable settings.

Settings are read from a document value, whether it was written in TOML or in JSON. A table may
also be given as the list of its values; names that mean nothing here are passed over. What a
document writes where there is no value depends on its form, so readers are told by a test.
-/

namespace CronCalendar
set_option autoImplicit false

open Field (Kind)

/-- The form in which log lines are written. -/
inductive LogFormat where
  | json
  | text
  deriving DecidableEq, Repr

/-- The default schedule of a task, as it is configured. -/
structure TaskDefaults where
  component : String := "core"
  minute : String := "*"
  hour : String := "*"
  day : String := "*"
  month : String := "*"
  dayOfWeek : String := "*"
  disabled : Bool := false
  runIfComponentDisabled : Bool := false
  deriving DecidableEq, Repr

namespace TaskDefaults

/-- The text of a field. -/
def field (t : TaskDefaults) : Kind → String
  | .minute => t.minute
  | .hour => t.hour
  | .day => t.day
  | .month => t.month
  | .dayOfWeek => t.dayOfWeek

/-- The texts of the fields, each with its kind, in the order of the kinds. -/
def fields (t : TaskDefaults) : List (Kind × String) := Kind.all.map fun kind => (kind, t.field kind)

end TaskDefaults

/-- What a configuration file sets. -/
structure Settings where
  /-- The name of the time zone in which fields are evaluated. -/
  timezone : String := "UTC"
  /-- The path of the file that keeps the overrides. -/
  overridesPath : String := "data/overrides.json"
  logFormat : LogFormat := .text
  logFilter : String := "info"
  /-- The default schedule of each task. -/
  tasks : NameMap TaskDefaults := .empty
  /-- Whether a component is enabled. -/
  components : NameMap Bool := .empty

namespace Settings

/-- Whether a component is enabled. Components that are not listed are. -/
def isComponentEnabled (s : Settings) (component : String) : Bool :=
  (s.components.get? component).getD true

/-- The values of a table by their names, from the table or from the list of its values. -/
def tableEntries? (names : List String) : Json → Option (List (String × Json))
  | .object members => members.mapM fun (key, value) => key.map (·, value)
  | .array items => if items.length ≤ names.length then some (names.zip items) else none
  | _ => none

/-- A text under a name of a table, or what stands for it when it is missing. -/
def textOf? (entries : List (String × Json)) (name default : String) : Option String :=
  match entries.lookup name with
  | none => some default
  | some (.string content) => content
  | some _ => none

/-- A truth value under a name of a table, false when it is missing. -/
def flagOf? (entries : List (String × Json)) (name : String) : Option Bool :=
  match entries.lookup name with
  | none => some false
  | some (.bool b) => some b
  | some _ => none

/-- What is read from the value under a name of a table, or what stands for it when it is missing. -/
def partOf? {α : Type} (entries : List (String × Json)) (name : String) (default : α)
    (read? : Json → Option α) : Option α :=
  match entries.lookup name with
  | none => some default
  | some value => read? value

/-- A map from names, from an object whose values are read one by one. -/
def mapOf? {α : Type} (read? : Json → Option α) : Json → Option (NameMap α)
  | .object members => do
    let entries ← members.mapM fun (key, value) => do
      let name ← key
      let a ← read? value
      some (name, a)
    some (NameMap.ofList entries)
  | _ => none

/-- A truth value. -/
def flag? : Json → Option Bool
  | .bool b => some b
  | _ => none

/-- A log format by its name. -/
def logFormatNamed? (name : String) : Option LogFormat :=
  if name = "json" then some .json else if name = "text" then some .text else none

/-- A log format: its name, alone or as the only key of a table without a value. -/
def logFormat? (isNothing : Json → Bool) : Json → Option LogFormat
  | .string (some name) => logFormatNamed? name
  | .object [(some name, value)] => if isNothing value then logFormatNamed? name else none
  | _ => none

/-- The defaults of a task. -/
def taskDefaults? (value : Json) : Option TaskDefaults := do
  let entries ← tableEntries?
    ["component", "minute", "hour", "day", "month", "day_of_week", "disabled",
      "run_if_component_disabled"] value
  let component ← textOf? entries "component" "core"
  let minute ← textOf? entries "minute" "*"
  let hour ← textOf? entries "hour" "*"
  let day ← textOf? entries "day" "*"
  let month ← textOf? entries "month" "*"
  let dayOfWeek ← textOf? entries "day_of_week" "*"
  let disabled ← flagOf? entries "disabled"
  let runIfComponentDisabled ← flagOf? entries "run_if_component_disabled"
  some { component, minute, hour, day, month, dayOfWeek, disabled, runIfComponentDisabled }

/-- The time zone and the overrides path of the scheduler. -/
def scheduler? (value : Json) : Option (String × String) := do
  let entries ← tableEntries? ["timezone", "overrides_path"] value
  let timezone ← textOf? entries "timezone" "UTC"
  let overridesPath ← textOf? entries "overrides_path" "data/overrides.json"
  some (timezone, overridesPath)

/-- The format and the filter of the logging. -/
def logging? (isNothing : Json → Bool) (value : Json) : Option (LogFormat × String) := do
  let entries ← tableEntries? ["format", "filter"] value
  let format ← partOf? entries "format" .text (logFormat? isNothing)
  let filter ← textOf? entries "filter" "info"
  some (format, filter)

/-- Settings from a document value. -/
def ofDocument? (isNothing : Json → Bool) (value : Json) : Option Settings := do
  let entries ← tableEntries? ["scheduler", "logging", "tasks", "components"] value
  let scheduler ← partOf? entries "scheduler" ("UTC", "data/overrides.json") scheduler?
  let logging ← partOf? entries "logging" (.text, "info") (logging? isNothing)
  let tasks ← partOf? entries "tasks" .empty (mapOf? taskDefaults?)
  let components ← partOf? entries "components" .empty (mapOf? flag?)
  some ⟨scheduler.1, scheduler.2, logging.1, logging.2, tasks, components⟩

/-- Settings from a JSON value. -/
def ofJson? (value : Json) : Option Settings := ofDocument? Json.isNull value

/-- The name of a log format. -/
def logFormatName : LogFormat → String
  | .json => "json"
  | .text => "text"

/-- The settings of a task by their names, in the order in which they are written. -/
def taskEntries (t : TaskDefaults) : List (String × Json) :=
  [("component", .ofText t.component), ("minute", .ofText t.minute), ("hour", .ofText t.hour),
    ("day", .ofText t.day), ("month", .ofText t.month), ("day_of_week", .ofText t.dayOfWeek),
    ("disabled", .bool t.disabled), ("run_if_component_disabled", .bool t.runIfComponentDisabled)]

/-- The settings of the scheduler by their names. -/
def schedulerEntries (s : Settings) : List (String × Json) :=
  [("timezone", .ofText s.timezone), ("overrides_path", .ofText s.overridesPath)]

/-- The settings of the logging by their names. -/
def loggingEntries (s : Settings) : List (String × Json) :=
  [("format", .ofText (logFormatName s.logFormat)), ("filter", .ofText s.logFilter)]

/-- A table as a JSON object. -/
def tableToJson (entries : List (String × Json)) : Json :=
  .object (entries.map fun (name, value) => (some name, value))

/-- Settings as a document value, with everything written out. -/
def toJson (s : Settings) : Json :=
  tableToJson
    [("scheduler", tableToJson s.schedulerEntries), ("logging", tableToJson s.loggingEntries),
      ("tasks", tableToJson (s.tasks.entries.map fun (id, t) => (id, tableToJson (taskEntries t)))),
      ("components", tableToJson (s.components.entries.map fun (name, b) => (name, .bool b)))]

end Settings

end CronCalendar
