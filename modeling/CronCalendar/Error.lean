import CronCalendar.Field.Kind
import CronCalendar.Files.Basic
import CronCalendar.Text.Decimal

/-!
# Errors

The causes for which an operation fails, and the message that tells each of them.
-/

namespace CronCalendar
set_option autoImplicit false

open Field (Kind)

/-- Why an operation failed. -/
inductive Error where
  /-- No kind of field has this name. -/
  | unknownField (name : String)
  /-- The registry has no default schedule for this task. -/
  | noDefault (taskId : String)
  /-- No time zone has this name. -/
  | unknownZone (name : String)
  /-- No time zone has the name that was to be checked. -/
  | notZoneName (name : String)
  /-- A schedule line does not have one word for each field. -/
  | wordCount (found : Nat)
  /-- An expression matches no value of its field. -/
  | matchesNothing (kind : Kind) (expression : String)
  /-- A schedule line is well formed, but its fields never coincide. -/
  | neverFires (line : String)
  /-- The overrides could not be saved. -/
  | notSaved (description : String)
  /-- A file could not be accessed. -/
  | fileAccess (cause : FileError)
  /-- A document is not the JSON it should be. -/
  | malformedJson
  /-- No task has this name. -/
  | unknownTask (taskId : String)
  /-- Neither a schedule line nor a task was given. -/
  | nothingGiven
  /-- The starting point is not a timestamp. -/
  | notTimestamp (text : String)
  /-- The settings could not be read. -/
  | settingsUnreadable (path : String) (cause : FileError)
  /-- The settings are not the TOML they should be. -/
  | settingsMalformed (path : String)
  /-- A search for a run needs a date outside of the supported years, which breaks the program off. -/
  | dateOutOfRange
  /-- A search for a run still goes on after all the steps that it is allowed. -/
  | searchUnending
  deriving DecidableEq, Repr

namespace Error

/-- The message for a failure to write a file. -/
def ofWriting (path : String) (cause : FileError) : Error :=
  notSaved (path ++ ": " ++ cause.message)

/-- The message that tells an error. -/
def message : Error → String
  | unknownField name => "unknown schedule field: " ++ name
  | noDefault taskId => "no default schedule registered for task: " ++ taskId
  | unknownZone name => "invalid timezone: '" ++ name ++ "'"
  | notZoneName name =>
    "invalid timezone: '" ++ name ++ "'; use IANA names like 'America/New_York' or 'UTC'"
  | wordCount found =>
    "expected 5 fields (minute hour day month day_of_week), got " ++ Decimal.text found
  | matchesNothing kind expression =>
    kind.name ++ ": '" ++ expression ++
      "' matches nothing; expected *, N, N-M, lists and /steps within " ++
      Decimal.text kind.expressionBounds.least ++ "..=" ++
      Decimal.text kind.expressionBounds.greatest
  | neverFires line => "'" ++ line ++ "' is well formed but can never fire"
  | notSaved description => "persistence: " ++ description
  | fileAccess cause => "IO: " ++ cause.message
  | malformedJson => "JSON: the document does not list schedules"
  | unknownTask taskId => "unknown task '" ++ taskId ++ "'"
  | nothingGiven => "give a cron line or --task <id>"
  | notTimestamp text => "--from '" ++ text ++ "' is not an RFC 3339 timestamp"
  | settingsUnreadable path cause => "reading " ++ path ++ ": " ++ cause.message
  | settingsMalformed path => "parsing " ++ path ++ ": the settings are malformed"
  | dateOutOfRange => "local time out of range"
  | searchUnending => "the search for the next run does not end"

/-- Whether the program does not report an error but is broken off by it. -/
def isBreak : Error → Bool
  | dateOutOfRange | searchUnending => true
  | _ => false

end Error

end CronCalendar
