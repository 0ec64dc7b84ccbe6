import CronCalendar.Calendar.Timestamp
import CronCalendar.Json.Reader
import CronCalendar.Schedule.Basic

/-!
# Schedules as JSON

A schedule is written as an object with twelve members in a fixed order. It is read from such an
object, whatever the order of its members, or from an array of their values in that order. Only
the task id has to be there; members with other names are passed over, but no member that counts
may come twice.
-/

namespace CronCalendar
set_option autoImplicit false

open Field (Kind Expr)

namespace Schedule

/-- The members of the object that stands for a schedule. -/
inductive Member where
  | taskId
  | component
  | field (kind : Kind)
  | disabled
  | customised
  | overridden
  | lastRun
  | runIfComponentDisabled
  deriving DecidableEq

namespace Member

/-- The members in the order in which they are written. -/
def all : List Member :=
  [taskId, component, field .minute, field .hour, field .day, field .month, field .dayOfWeek,
    disabled, customised, overridden, lastRun, runIfComponentDisabled]

/-- The key of a member. -/
def key : Member → String
  | taskId => "task_id"
  | component => "component"
  | field kind => kind.name
  | disabled => "disabled"
  | customised => "customised"
  | overridden => "overridden"
  | lastRun => "last_run_time"
  | runIfComponentDisabled => "run_if_component_disabled"

/-- The member with a key. -/
def ofKey? (key : String) : Option Member := all.find? fun m => m.key == key

end Member

/-- An instant or its absence as JSON. -/
def lastRunToJson : Option Instant → Json
  | none => .null
  | some t => .ofText (String.ofList (Timestamp.text t))

/-- The value of a member. -/
def memberToJson (s : Schedule) : Member → Json
  | .taskId => .ofText s.taskId
  | .component => .ofText s.component
  | .field kind => .ofText (s.expression kind)
  | .disabled => .bool s.disabled
  | .customised => .bool s.customised
  | .overridden => .bool s.overridden
  | .lastRun => lastRunToJson s.lastRun
  | .runIfComponentDisabled => .bool s.runIfComponentDisabled

/-- A schedule as a JSON object. -/
def toJson (s : Schedule) : Json :=
  .object (Member.all.map fun m => (some m.key, s.memberToJson m))

/-- An instant or its absence from JSON. -/
def lastRunOfJson? : Json → Option (Option Instant)
  | .null => some none
  | .string (some text) => (Timestamp.readLenient? text.toList).map some
  | _ => none

/-- The schedule with a member set from its value, if the value is of the right kind. -/
def setMember? (s : Schedule) : Member → Json → Option Schedule
  | .taskId, .string (some text) => some { s with taskId := text }
  | .component, .string (some text) => some { s with component := text }
  | .field kind, .string (some text) => some (s.setField kind text)
  | .disabled, .bool b => some { s with disabled := b }
  | .customised, .bool b => some { s with customised := b }
  | .overridden, .bool b => some { s with overridden := b }
  | .lastRun, value => (lastRunOfJson? value).map fun t => { s with lastRun := t }
  | .runIfComponentDisabled, .bool b => some { s with runIfComponentDisabled := b }
  | _, _ => none

/-- The schedule with some members set from their values, one after the other. -/
def setMembers? (s : Schedule) : List (Member × Json) → Option Schedule
  | [] => some s
  | (m, value) :: rest => (s.setMember? m value).bind fun s => setMembers? s rest

/-- The members of an object that count, with their values, if each key is a text. -/
def knownMembers? : List (Option String × Json) → Option (List (Member × Json))
  | [] => some []
  | (none, _) :: _ => none
  | (some key, value) :: rest =>
    match Member.ofKey? key with
    | some m => (knownMembers? rest).map ((m, value) :: ·)
    | none => knownMembers? rest

/-- A schedule from the values of its members: the task id is among them, and none is repeated. -/
def ofMembers? (ms : List (Member × Json)) : Option Schedule :=
  let names := ms.map Prod.fst
  if .taskId ∈ names ∧ names.Nodup then setMembers? { taskId := "" } ms else none

/-- A schedule from a JSON value. -/
def ofJson? : Json → Option Schedule
  | .object members => (knownMembers? members).bind ofMembers?
  | .array items =>
    if items.length ≤ Member.all.length then ofMembers? (Member.all.zip items) else none
  | _ => none

/-- Reads a schedule from a JSON text. -/
def parse? (text : String) : Option Schedule := (Json.parse? text.toList).bind ofJson?

/-- A schedule as a JSON text on one line. -/
def compactText (s : Schedule) : String := String.ofList s.toJson.compact

/-- Reads a list of schedules from a JSON text. -/
def parseList? (text : String) : Option (List Schedule) :=
  match Json.parse? text.toList with
  | some (.array items) => items.mapM ofJson?
  | _ => none

/-- A list of schedules as a JSON text over several lines. -/
def listText (ss : List Schedule) : String :=
  String.ofList (Json.array (ss.map toJson)).pretty

end Schedule

end CronCalendar
