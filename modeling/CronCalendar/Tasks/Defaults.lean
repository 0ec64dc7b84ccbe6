import CronCalendar.Digest.Sha256
import CronCalendar.Random.ChaCha
import CronCalendar.Schedule.Lifecycle
import CronCalendar.Settings.Basic

/-!
# Default schedules of tasks

The default schedule of each configured task. Random fields are drawn from a source seeded with
the task's id, so that a task has the same default each time.
-/

namespace CronCalendar
set_option autoImplicit false

open Random (ChaCha)

/-- The number that the first eight bytes of a sequence stand for, the least significant first. -/
def littleEndian64 (bytes : List UInt8) : Nat :=
  (bytes.take 8).foldr (fun b n => b.toNat + 256 * n) 0

/-- The seed of a task: the first eight bytes of the SHA-256 digest of its id. -/
def taskSeed (taskId : String) : UInt64 :=
  UInt64.ofNat (littleEndian64 (Sha256.digest taskId.toUTF8.toList))

namespace TaskDefaults

/-- The schedule that the defaults of a task stand for, with random fields drawn from a source. -/
def scheduleFrom {σ : Type} [Random.Source σ] (t : TaskDefaults) (taskId : String) (source : σ) :
    Schedule :=
  let base : Schedule := { taskId, component := t.component }
  let (s, _) := base.setFieldsDrawing source t.fields
  { s with disabled := t.disabled, runIfComponentDisabled := t.runIfComponentDisabled }

/-- The schedule that the defaults of a task stand for. -/
def schedule (t : TaskDefaults) (taskId : String) : Schedule :=
  t.scheduleFrom taskId (ChaCha.ofSeed (taskSeed taskId))

end TaskDefaults

namespace Settings

/-- The default schedules of the configured tasks. -/
def defaultSchedules (s : Settings) : NameMap Schedule :=
  s.tasks.map fun taskId t => t.schedule taskId

/-- The configured defaults and components as a registry. -/
def registry (s : Settings) : Registry :=
  let defaults := s.defaultSchedules
  { default? := defaults.get?, isComponentEnabled := s.isComponentEnabled }

end Settings

end CronCalendar
