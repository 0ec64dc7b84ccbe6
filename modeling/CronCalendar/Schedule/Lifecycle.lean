import CronCalendar.Schedule.Basic

/-!
# Enabling and disabling schedules

Enabling and disabling a schedule needs to know the default of its task, keeps the `customised`
flag in step with it, and saves the result. Where defaults come from and where schedules are
saved is left open: a `Registry` answers for defaults and components, and saving is any action.

The default is looked up before anything changes. A schedule that could not be saved is changed
all the same.
-/

namespace CronCalendar
set_option autoImplicit false

/-- What is known about tasks and components apart from the schedules themselves. -/
structure Registry where
  /-- The default schedule of a task. -/
  default? : String → Option Schedule
  /-- Whether a component is enabled. -/
  isComponentEnabled : String → Bool

namespace Registry

/-- Whether a task may run: its component is enabled, or it does not mind. -/
def canRun (r : Registry) (s : Schedule) : Bool :=
  r.isComponentEnabled s.component || s.runIfComponentDisabled

/-- Whether a task runs: it may, and it is not disabled itself. -/
def isEnabled (r : Registry) (s : Schedule) : Bool := r.canRun s && !s.disabled

/-- The default of a schedule's task. -/
def defaultOf (r : Registry) (s : Schedule) : Except Error Schedule :=
  match r.default? s.taskId with
  | some default => .ok default
  | none => .error (.noDefault s.taskId)

/-- Whether a schedule has the fields and the `disabled` flag of its default. -/
def hasDefaultConfiguration (r : Registry) (s : Schedule) : Except Error Bool :=
  (r.defaultOf s).map s.matchesDefault

/-- The schedule with its `customised` flag brought in step with its default. -/
def refreshCustomised (r : Registry) (s : Schedule) : Except Error Schedule :=
  (r.hasDefaultConfiguration s).map fun same => { s with customised := !same }

/-- The schedule enabled or disabled, with its `customised` flag in step with a default. -/
def withDisabled (s default : Schedule) (disabled : Bool) : Schedule :=
  let s := { s with disabled }
  { s with customised := !s.matchesDefault default }

/-- Enables or disables a schedule and saves it. Answers the schedule as it is afterwards, and
whether that worked. -/
def setDisabled {m : Type → Type} [Monad m] (r : Registry)
    (save : Schedule → m (Except Error Unit)) (s : Schedule) (disabled : Bool) :
    m (Except Error Unit × Schedule) :=
  match r.defaultOf s with
  | .error e => pure (.error e, s)
  | .ok default => do
    let s := withDisabled s default disabled
    let saved ← save s
    pure (saved, s)

section

variable {m : Type → Type} [Monad m] {r : Registry} {save : Schedule → m (Except Error Unit)}
  {s default : Schedule}

theorem defaultOf_of_known (known : r.default? s.taskId = some default) : r.defaultOf s = .ok default := by
  rw [defaultOf, known]

theorem defaultOf_of_unknown (unknown : r.default? s.taskId = none) :
    r.defaultOf s = .error (.noDefault s.taskId) := by rw [defaultOf, unknown]

theorem hasDefaultConfiguration_of_known (known : r.default? s.taskId = some default) :
    r.hasDefaultConfiguration s = .ok (s.matchesDefault default) := by
  rw [hasDefaultConfiguration, defaultOf_of_known known]
  rfl

/-- A schedule with a default gets its flags, and is then saved. -/
theorem setDisabled_of_known (known : r.default? s.taskId = some default) (disabled : Bool) :
    r.setDisabled save s disabled =
      save (withDisabled s default disabled) >>= fun saved =>
        pure (saved, withDisabled s default disabled) := by
  simp only [setDisabled, defaultOf_of_known known]

/-- Without a default, a schedule is neither enabled nor disabled. -/
theorem setDisabled_of_unknown (unknown : r.default? s.taskId = none) (disabled : Bool) :
    r.setDisabled save s disabled = pure (.error (.noDefault s.taskId), s) := by
  simp only [setDisabled, defaultOf_of_unknown unknown]

end

end Registry

/-- A place to save schedules that keeps every copy, and refuses copies while it has a reason to. -/
structure Journal where
  /-- The saved copies, the latest first. -/
  copies : List Schedule
  /-- Why copies are refused. -/
  refusal : Option String

namespace Journal

/-- The journal without copies. -/
def empty : Journal := ⟨[], none⟩

/-- Saves a copy of a schedule, or refuses it. -/
def save (s : Schedule) : StateM Journal (Except Error Unit) := fun j =>
  match j.refusal with
  | some reason => (.error (.notSaved reason), j)
  | none => (.ok (), { j with copies := s :: j.copies })

end Journal

end CronCalendar
