import CronCalendar.Files.Basic
import CronCalendar.Schedule.Document
import CronCalendar.Schedule.Lifecycle
import CronCalendar.Text.NameMap

/-!
# Overrides

The schedules that take the place of defaults, kept under the ids of their tasks and in a file.
Every schedule kept here has its `overridden` flag set. The file is written anew after each
change; the change stays in memory even if the file could not be written.
-/

namespace CronCalendar
set_option autoImplicit false

/-- The overrides in memory, and the path of the file that keeps them. -/
structure Overrides where
  path : String
  schedules : NameMap Schedule

namespace Overrides

variable {m : Type → Type} [Monad m] [Files m]

/-- The map with a schedule kept as an override, in place of any override of the same task. -/
def keep (schedules : NameMap Schedule) (s : Schedule) : NameMap Schedule :=
  schedules.insert s.taskId { s with overridden := true }

/-- The overrides that a list of schedules makes up. Of two for one task, the last counts. -/
def ofSchedules (path : String) (ss : List Schedule) : Overrides := ⟨path, ss.foldl keep .empty⟩

/-- Opens the overrides at a path. There are none if nothing stands there. -/
def openAt (path : String) : m (Except Error Overrides) := do
  if ← Files.present path then
    match ← Files.read path with
    | .error cause => pure (.error (.fileAccess cause))
    | .ok text =>
      match Schedule.parseList? text with
      | some ss => pure (.ok (ofSchedules path ss))
      | none => pure (.error .malformedJson)
  else pure (.ok ⟨path, .empty⟩)

/-- The schedules in the order of their task ids. -/
def list (o : Overrides) : List Schedule := o.schedules.values

/-- The override of a task. -/
def get? (o : Overrides) (taskId : String) : Option Schedule := o.schedules.get? taskId

/-- The override of a task or, if there is none, its default. -/
def effective? (o : Overrides) (r : Registry) (taskId : String) : Option Schedule :=
  (o.get? taskId).or (r.default? taskId)

/-- Writes the overrides to their file, in directories that are created if need be. -/
def persist (o : Overrides) : m (Except Error Unit) := do
  match ← Files.makeParents o.path with
  | .error cause => pure (.error (.ofWriting o.path cause))
  | .ok () =>
    match ← Files.write o.path (Schedule.listText o.list) with
    | .error cause => pure (.error (.ofWriting o.path cause))
    | .ok () => pure (.ok ())

/-- Keeps a schedule as an override. -/
def save (s : Schedule) : StateT Overrides m (Except Error Unit) := fun o => do
  let o := { o with schedules := keep o.schedules s }
  let written ← o.persist
  pure (written, o)

/-- Drops the override of a task. Answers whether there was one. -/
def remove (taskId : String) : StateT Overrides m (Except Error Bool) := fun o =>
  if o.schedules.contains taskId then do
    let o := { o with schedules := o.schedules.erase taskId }
    let written ← o.persist
    pure (written.map fun _ => true, o)
  else pure (.ok false, o)

end Overrides

end CronCalendar
