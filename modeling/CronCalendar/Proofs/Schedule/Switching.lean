import CronCalendar.Schedule.Lifecycle

/-!
# Requests that fail

A schedule is enabled, disabled or brought in step with its default. Such a request fails if the task
has no default, and then nothing has changed yet, or if the schedule is not saved. In that case it has
its new flags already and keeps them: it is as it was before only if they are the old ones
(`unchanged_iff_of_failed`).
-/

namespace CronCalendar.Registry
set_option autoImplicit false

/-- What is asked of a schedule. -/
inductive Request where
  | enable
  | disable
  /-- The `customised` flag is to be brought in step with the default. -/
  | refresh

/-- The `disabled` flag that a request asks for. -/
def Request.disabled? : Request → Option Bool
  | enable => some false
  | disable => some true
  | refresh => none

/-- Answers a request: whether it worked, and the schedule as it is afterwards. -/
def answer {m : Type → Type} [Monad m] (r : Registry) (save : Schedule → m (Except Error Unit))
    (s : Schedule) : Request → m (Except Error Unit × Schedule)
  | .enable => r.setDisabled save s false
  | .disable => r.setDisabled save s true
  | .refresh =>
    match r.refreshCustomised s with
    | .error e => pure (.error e, s)
    | .ok s => pure (.ok (), s)

section Runs

variable {σ : Type} {r : Registry} {save : Schedule → StateM σ (Except Error Unit)}
  {s default : Schedule} {q : Request} {x : σ}

/-- Without a default, every request fails and leaves everything as it is. -/
theorem answer_of_unknown (unknown : r.default? s.taskId = none) (q : Request) :
    r.answer save s q x = ((.error (.noDefault s.taskId), s), x) := by
  cases q with
  | enable | disable =>
    rw [answer, setDisabled_of_unknown unknown]
    rfl
  | refresh =>
    rw [answer, refreshCustomised, hasDefaultConfiguration, defaultOf_of_unknown unknown]
    rfl

/-- Enabling or disabling a schedule gives it its flags, and then saves it. -/
theorem answer_of_switch (known : r.default? s.taskId = some default) {disabled : Bool}
    (asked : q.disabled? = some disabled) :
    r.answer save s q x =
      let s' := withDisabled s default disabled
      (((save s' x).1, s'), (save s' x).2) := by
  cases q with
  | enable | disable =>
    cases asked
    rw [answer, setDisabled_of_known known]
    rfl
  | refresh => cases asked

/-- Bringing a schedule in step with its default touches nothing but its `customised` flag. -/
theorem answer_of_refresh (known : r.default? s.taskId = some default) (asked : q.disabled? = none) :
    r.answer save s q x = ((.ok (), { s with customised := !s.matchesDefault default }), x) := by
  cases q with
  | enable | disable => cases asked
  | refresh =>
    rw [answer, refreshCustomised, hasDefaultConfiguration_of_known known]
    rfl

/-- A schedule is given the flags that it has if it has the one asked for and is in step with its
default. -/
theorem withDisabled_eq_self_iff {disabled : Bool} :
    withDisabled s default disabled = s ↔
      s.disabled = disabled ∧ s.customised = !s.matchesDefault default := by
  constructor
  · intro same
    obtain rfl : disabled = s.disabled := congrArg Schedule.disabled same
    exact ⟨rfl, (congrArg Schedule.customised same).symm⟩
  · rintro ⟨rfl, customised⟩
    exact congrArg (fun customised => { s with customised }) customised.symm

/-- A request that fails leaves the schedule as it was just if its task has no default, or nothing was
to be changed: the schedule has the flag that is asked for and is in step with its default. -/
theorem unchanged_iff_of_failed {e : Error} {s' : Schedule} {x' : σ}
    (failed : r.answer save s q x = ((.error e, s'), x')) :
    s' = s ↔ ∀ default disabled, r.default? s.taskId = some default → q.disabled? = some disabled →
      s.disabled = disabled ∧ s.customised = !s.matchesDefault default := by
  cases known : r.default? s.taskId with
  | none =>
    rw [answer_of_unknown known] at failed
    cases failed
    exact iff_of_true rfl fun _ _ found => nomatch found
  | some default =>
    cases asked : q.disabled? with
    | none =>
      rw [answer_of_refresh known asked] at failed
      cases failed
    | some disabled =>
      rw [answer_of_switch known asked] at failed
      obtain rfl : withDisabled s default disabled = s' := congrArg (fun p => p.1.2) failed
      rw [withDisabled_eq_self_iff]
      constructor
      · rintro same _ _ ⟨⟩ ⟨⟩
        exact same
      · intro same
        exact same default disabled rfl rfl

end Runs

/-- Every task has an unrestricted default. -/
def unrestricted : Registry := ⟨fun taskId => some { taskId }, fun _ => true⟩

/-- A schedule that is disabled already and known to differ from its default is as before when it could
not be saved as disabled. -/
theorem disabledAgain_unchanged :
    ∃ (s s' : Schedule) (full : Journal),
      unrestricted.answer Journal.save s .disable full = ((.error (.notSaved "disk full"), s'), full) ∧
      s.disabled = true ∧ s' = s := by
  let s : Schedule := { taskId := "t", disabled := true, customised := true }
  have failed : unrestricted.answer Journal.save s .disable ⟨[], some "disk full"⟩ =
      ((.error (.notSaved "disk full"), s), ⟨[], some "disk full"⟩) := rfl
  refine ⟨s, s, _, failed, rfl, (unchanged_iff_of_failed failed).2 ?_⟩
  rintro _ _ ⟨⟩ ⟨⟩
  exact ⟨rfl, by decide⟩

/-- A default schedule that is to be disabled and cannot be saved is disabled and customised all the
same. -/
theorem fullDisk_disables :
    ∃ (s s' : Schedule) (full : Journal),
      unrestricted.answer Journal.save s .disable full = ((.error (.notSaved "disk full"), s'), full) ∧
      s.disabled = false ∧ s.customised = false ∧ s'.disabled = true ∧ s'.customised = true :=
  ⟨{ taskId := "t" }, { taskId := "t", disabled := true, customised := true }, ⟨[], some "disk full"⟩,
    rfl, rfl, rfl, rfl, rfl⟩

end CronCalendar.Registry
