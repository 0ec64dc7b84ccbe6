import CronCalendar.Proofs.Schedule.DrawnFields
import CronCalendar.Tasks.Defaults

/-!
# Defaults and the values drawn for them

The default schedule of a task has for each field what its text stands for, with a value in place of
a text that asks for a random one (`TaskDefaults.withDraws`). Whatever source the values come from, it
is the schedule with some values of the calendar (`exists_draws`).
-/

namespace CronCalendar.TaskDefaults
set_option autoImplicit false

open Field (Kind)
open Random (Source)

/-- The default schedule of a task when a value is drawn for each random field. -/
def withDraws (t : TaskDefaults) (taskId : String) (draws : Kind → Nat) : Schedule where
  taskId
  component := t.component
  fields := .ofTexts fun kind => drawnText draws kind (t.field kind)
  disabled := t.disabled
  runIfComponentDisabled := t.runIfComponentDisabled

theorem fields_withDraws (t : TaskDefaults) (taskId : String) (draws : Kind → Nat) :
    (t.withDraws taskId draws).fields = .ofTexts fun kind => drawnText draws kind (t.field kind) := rfl

/-- Whatever the source, the schedule of a task is the one with some values of the calendar. -/
theorem exists_draws {σ : Type} [Source σ] (t : TaskDefaults) (taskId : String) (source : σ) :
    ∃ draws : Kind → Nat, (∀ kind : Kind, kind.calendarBounds.Contains (draws kind)) ∧
      t.scheduleFrom taskId source = t.withDraws taskId draws := by
  obtain ⟨draws, within, set⟩ :=
    Schedule.setFieldsDrawing_all { taskId, component := t.component } source t.field
  refine ⟨draws, within, ?_⟩
  simp only [scheduleFrom, fields, set]
  rfl

theorem exists_schedule (t : TaskDefaults) (taskId : String) :
    ∃ draws : Kind → Nat, (∀ kind : Kind, kind.calendarBounds.Contains (draws kind)) ∧
      t.schedule taskId = t.withDraws taskId draws := t.exists_draws taskId _

end CronCalendar.TaskDefaults
