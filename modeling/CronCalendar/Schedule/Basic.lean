import CronCalendar.Calendar.Instant
import CronCalendar.Error
import CronCalendar.Random.Expansion

/-!
# Schedules

A schedule says when a task runs and whether it may. Its five fields start unrestricted. A field
is set from a text, in which `R` asks for a random number, or from a set of values; a whole
schedule is read from a line of five words with `ofLine?` and written with `line`.
-/

namespace CronCalendar
set_option autoImplicit false

open Field (Kind Expr)
open Random (Source)

/-- One stored field for each kind. -/
structure Fields where
  minute : Expr := .any
  hour : Expr := .any
  day : Expr := .any
  month : Expr := .any
  dayOfWeek : Expr := .any
  deriving DecidableEq

namespace Fields

/-- The field of a kind. -/
def get (fs : Fields) : Kind → Expr
  | .minute => fs.minute
  | .hour => fs.hour
  | .day => fs.day
  | .month => fs.month
  | .dayOfWeek => fs.dayOfWeek

/-- The fields with the one of a kind replaced. -/
def set (fs : Fields) (kind : Kind) (e : Expr) : Fields :=
  match kind with
  | .minute => { fs with minute := e }
  | .hour => { fs with hour := e }
  | .day => { fs with day := e }
  | .month => { fs with month := e }
  | .dayOfWeek => { fs with dayOfWeek := e }

theorem get_set (fs : Fields) (kind other : Kind) (e : Expr) :
    (fs.set kind e).get other = if kind = other then e else fs.get other := by
  cases kind <;> cases other <;> rfl

end Fields

/-- When a task runs, and whether it may. -/
structure Schedule where
  taskId : String
  /-- The component that the task belongs to. -/
  component : String := "core"
  fields : Fields := {}
  disabled : Bool := false
  /-- The fields or `disabled` differ from the default of the task. -/
  customised : Bool := false
  /-- The schedule comes from the overrides, not from the defaults. -/
  overridden : Bool := false
  /-- When the task last ran. -/
  lastRun : Option Instant := none
  /-- The task may run although its component is disabled. -/
  runIfComponentDisabled : Bool := false
  deriving DecidableEq

namespace Schedule

/-- The stored field of a kind. -/
def field (s : Schedule) (kind : Kind) : Expr := s.fields.get kind

/-- The text of a field. -/
def expression (s : Schedule) (kind : Kind) : String := (s.field kind).toText

/-- The values that a field matches. -/
def values (s : Schedule) (kind : Kind) : Values := kind.evaluate (s.field kind)

/-- The schedule with a stored field replaced. -/
def setExpr (s : Schedule) (kind : Kind) (e : Expr) : Schedule :=
  { s with fields := s.fields.set kind e }

/-- The schedule with a field set from a text, in which `R` is not expanded. -/
def setField (s : Schedule) (kind : Kind) (text : String) : Schedule :=
  s.setExpr kind (Expr.ofText text)

/-- The schedule with a field set from a text, in which `R` is a random value of the calendar. -/
def setFieldDrawing {σ : Type} [Source σ] (s : Schedule) (kind : Kind) (text : String) (source : σ) :
    Schedule × σ :=
  let (text, source) := Field.expandRandom text kind.calendarBounds source
  (s.setField kind text, source)

/-- The schedule with a field set to a set of values. -/
def setValues (s : Schedule) (kind : Kind) (v : Values) : Schedule := s.setExpr kind (.values v)

/-- The schedule with some of its fields set from texts, one after the other. -/
def setFieldsDrawing {σ : Type} [Source σ] (s : Schedule) (source : σ) :
    List (Kind × String) → Schedule × σ
  | [] => (s, source)
  | (kind, text) :: rest =>
    let (s, source) := s.setFieldDrawing kind text source
    setFieldsDrawing s source rest

/-- The words of a schedule line. -/
def lineWords (line : String) : List String := (Text.words line.toList).map String.ofList

/-- Reads a schedule line: one word for each field, in the order of the kinds. -/
def ofLine? {σ : Type} [Source σ] (taskId line : String) (source : σ) :
    Except Error (Schedule × σ) :=
  let words := lineWords line
  if words.length = Kind.all.length then
    .ok (setFieldsDrawing { taskId } source (Kind.all.zip words))
  else .error (.wordCount words.length)

/-- A schedule as a line of five words. -/
def line (s : Schedule) : String := Text.unwords (Kind.all.map s.expression)

/-- Whether a field matches anything. -/
def isFieldValid (s : Schedule) (kind : Kind) : Bool := !(s.values kind).isEmpty

/-- Whether each field matches something. -/
def isSatisfiable (s : Schedule) : Bool := Kind.all.all s.isFieldValid

/-- Whether a schedule has the field texts and the `disabled` flag of a default. -/
def matchesDefault (s default : Schedule) : Bool :=
  (Kind.all.all fun kind => (s.field kind).sameText (default.field kind)) &&
    s.disabled == default.disabled

end Schedule

end CronCalendar
