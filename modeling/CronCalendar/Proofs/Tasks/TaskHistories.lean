import CronCalendar.Proofs.Tasks.DrawnDefaults
import CronCalendar.Proofs.Tasks.OverrideFiles
import CronCalendar.Proofs.Tasks.Rows

/-!
# Tasks over any number of requests

Tasks are opened for settings without a file of overrides, and then enabled, disabled, reset and
opened again, any number of times. All that this leaves of the requests is a flag for each configured
task: the one last requested since the task was last reset (`requested`). An override is the default
of its task with that flag (`overrideOf`), in memory as in the file, since a default is read back as it
is (`Consistent`, kept by each request). So every listing shows the default with the flag
(`behaves_of_reached`), whichever zones there are names for.
-/

namespace CronCalendar.Tasks
set_option autoImplicit false

open Field (Expr)

/-- What is asked of tasks. -/
inductive Request where
  | setEnabled (taskId : String) (enabled : Bool)
  | reset (taskId : String)
  /-- The tasks are opened again for the same settings. -/
  | reopen

/-- The task that a request is about. -/
def Request.task? : Request → Option String
  | setEnabled taskId _ => some taskId
  | reset taskId => some taskId
  | reopen => none

/-- Whatever the answer, it is not that a file could not be written. -/
def Written {α : Type} (answer : Except Error α) : Prop := ∀ why, answer ≠ .error (.notSaved why)

/-- A request is answered, and makes of some tasks and files others. Files are written if they are to
be. -/
inductive Answered (settings : Settings) (lookup : String → Option Zone) :
    Request → Tasks → Tree → Tasks → Tree → Prop
  | setEnabled {taskId : String} {enabled : Bool} {answer : Except Error Schedule} {k k' : Tasks}
      {t t' : Tree}
      (ran : (setEnabled taskId enabled k : StateM Tree (Except Error Schedule × Tasks)) t =
        ((answer, k'), t'))
      (written : Written answer) : Answered settings lookup (.setEnabled taskId enabled) k t k' t'
  | reset {taskId : String} {answer : Except Error Bool} {k k' : Tasks} {t t' : Tree}
      (ran : (reset taskId k : StateM Tree (Except Error Bool × Tasks)) t = ((answer, k'), t'))
      (written : Written answer) : Answered settings lookup (.reset taskId) k t k' t'
  | reopen {k k' : Tasks} {t t' : Tree}
      (ran : (openFor settings lookup : StateM Tree (Except Error Tasks)) t = (.ok k', t')) :
      Answered settings lookup .reopen k t k' t'

/-- The tasks and files that come about by opening the tasks of some settings and then answering some
requests, the latest of which comes first. -/
inductive Reached (settings : Settings) (lookup : String → Option Zone) (start : Tree) :
    List Request → Tasks → Tree → Prop
  | opened {k : Tasks} {t : Tree}
      (ran : (openFor settings lookup : StateM Tree (Except Error Tasks)) start = (.ok k, t)) :
      Reached settings lookup start [] k t
  | answered {requests : List Request} {r : Request} {k k' : Tasks} {t t' : Tree}
      (reached : Reached settings lookup start requests k t)
      (answered : Answered settings lookup r k t k' t') :
      Reached settings lookup start (r :: requests) k' t'

/-- Whether a task was last requested to be disabled, if anything was requested since it was last
reset. -/
def requested : List Request → String → Option Bool
  | [], _ => none
  | .setEnabled asked enabled :: requests, taskId =>
    if taskId = asked then some (!enabled) else requested requests taskId
  | .reset asked :: requests, taskId => if taskId = asked then none else requested requests taskId
  | .reopen :: requests, taskId => requested requests taskId

/-- The default of a task, disabled or not, as its override. -/
def overrideOf (default : Schedule) (disabled : Bool) : Schedule :=
  { default with disabled, customised := disabled != default.disabled, overridden := true }

/-- Whether a configured task should be enabled, given the flag that was requested for it. -/
def expectedEnabled (settings : Settings) (taskId : String) (d : TaskDefaults) (flag : Option Bool) : Bool :=
  let default := d.schedule taskId
  (settings.isComponentEnabled default.component || default.runIfComponentDisabled) &&
    !flag.getD default.disabled

/-- What a listing should say of a configured task, given the flag that was requested for it. -/
def expectedRow (settings : Settings) (z : Zone) (now : Instant) (taskId : String) (d : TaskDefaults)
    (flag : Option Bool) : TaskRow :=
  let default := d.schedule taskId
  let enabled := expectedEnabled settings taskId d flag
  let next := default.nextRun z now
  { taskId
    component := default.component
    line := default.line
    enabled
    customised := flag.getD default.disabled != default.disabled
    next := if enabled then if isNever next then "never" else describeInstant z next else "-" }

/-- What a listing should say at some instants, given the requests. The clock is asked for each task that
should be enabled. -/
def expectedRows (settings : Settings) (z : Zone) (requests : List Request) (clock : Clock) : List TaskRow :=
  let flag (p : String × TaskDefaults) := requested requests p.1
  (turns (fun p => expectedEnabled settings p.1 p.2 (flag p)) clock settings.tasks.entries).map
    fun q => expectedRow settings z q.1 q.2.1 q.2.2 (flag q.2)

variable {settings : Settings} {lookup : String → Option Zone} {z : Zone} {start t t' : Tree}
  {requests : List Request} {k k' : Tasks} {r : Request}

/-- The tasks are those of the settings, each override is the default of its task with the flag that
was requested, and the same tasks are opened from the file. -/
structure Consistent (settings : Settings) (z : Zone) (requests : List Request) (k : Tasks) (t : Tree) :
    Prop where
  tasks : k = ⟨settings.defaultSchedules, settings.registry, k.overrides, z⟩
  path : k.overrides.path = settings.overridesPath
  holds : ∀ taskId, k.overrides.get? taskId =
    (settings.defaultSchedules.get? taskId).bind fun default =>
      (requested requests taskId).map (overrideOf default)
  opens : (Overrides.openAt settings.overridesPath : StateM Tree (Except Error Overrides)) t =
    (.ok k.overrides, t)

/-- The default of a configured task. -/
theorem default_of_configured {taskId : String} {d : TaskDefaults}
    (configured : settings.tasks.get? taskId = some d) :
    settings.defaultSchedules.get? taskId = some (d.schedule taskId) := by
  rw [Settings.defaultSchedules, NameMap.get?_map, configured, Option.map_some]

/-- Every configured task has a default, and no other task. -/
theorem names_defaultSchedules (settings : Settings) :
    settings.defaultSchedules.names = settings.tasks.names := by
  simp only [Settings.defaultSchedules, NameMap.names, NameMap.map, List.map_map]
  rfl

/-- A default belongs to its task and is read back as it is. -/
theorem default_cases {taskId : String} {default : Schedule}
    (configured : settings.defaultSchedules.get? taskId = some default) :
    default.taskId = taskId ∧ default.reread = default ∧ default.Settled := by
  rw [Settings.defaultSchedules, NameMap.get?_map, Option.map_eq_some_iff] at configured
  obtain ⟨d, -, rfl⟩ := configured
  obtain ⟨draws, -, drawn⟩ := d.exists_schedule taskId
  rw [drawn]
  have texts := d.fields_withDraws taskId draws
  exact ⟨rfl, Schedule.reread_of_texts texts, Schedule.settled_of_texts texts⟩

/-- A schedule with the fields of a default differs from it in the flag at most. -/
theorem matchesDefault_of_fields {s default : Schedule} (fields : s.fields = default.fields) :
    s.matchesDefault default = (s.disabled == default.disabled) := by
  have texts : (Field.Kind.all.all fun kind => (s.field kind).sameText (default.field kind)) = true :=
    List.all_eq_true.2 fun kind _ => by
      rw [Schedule.field, fields]
      exact beq_self_eq_true _
  rw [Schedule.matchesDefault, texts, Bool.true_and]

/-- The schedule in force for a task: its default, with the requested flag if there is one. -/
def inForce (default : Schedule) (flag : Option Bool) : Schedule :=
  (flag.map (overrideOf default)).getD default

theorem fields_inForce (default : Schedule) (flag : Option Bool) :
    (inForce default flag).fields = default.fields := by
  cases flag <;> rfl

theorem disabled_inForce (default : Schedule) (flag : Option Bool) :
    (inForce default flag).disabled = flag.getD default.disabled := by
  cases flag <;> rfl

theorem Consistent.effective (consistent : Consistent settings z requests k t) {taskId : String}
    {default : Schedule} (configured : settings.defaultSchedules.get? taskId = some default) :
    k.effective taskId = .ok (inForce default (requested requests taskId)) := by
  have held := consistent.holds taskId
  rw [configured, Option.bind_some] at held
  have registered : k.registry.default? taskId = some default := by
    rw [consistent.tasks]
    exact configured
  rw [Tasks.effective, effective?, Overrides.effective?, held, registered]
  cases requested requests taskId <;> rfl

theorem Consistent.effective_none (consistent : Consistent settings z requests k t) {taskId : String}
    (unknown : settings.defaultSchedules.get? taskId = none) :
    k.effective taskId = .error (.unknownTask taskId) := by
  have held := consistent.holds taskId
  rw [unknown, Option.bind_none] at held
  have registered : k.registry.default? taskId = none := by
    rw [consistent.tasks]
    exact unknown
  rw [Tasks.effective, effective?, Overrides.effective?, held, registered]
  rfl

/-- An override is read back as it is. -/
theorem reread_overrideOf {default : Schedule} (same : default.reread = default) (disabled : Bool) :
    (overrideOf default disabled).reread = overrideOf default disabled :=
  congrArg (overrideOf · disabled) same

/-- Overrides that are defaults with flags are orderly, and are read back as they are. -/
theorem orderly_of_holds {o : Overrides} (holds : ∀ taskId, o.get? taskId =
      (settings.defaultSchedules.get? taskId).bind fun default =>
        (requested requests taskId).map (overrideOf default)) :
    o.Orderly ∧ o.reread = o := by
  have origin {taskId : String} {s : Schedule} (held : o.get? taskId = some s) :
      s.taskId = taskId ∧ s.overridden = true ∧ s.Settled ∧ s.reread = s := by
    rw [holds, Option.bind_eq_some_iff] at held
    obtain ⟨default, configured, held⟩ := held
    obtain ⟨flag, -, rfl⟩ := Option.map_eq_some_iff.1 held
    obtain ⟨named, same, settled⟩ := default_cases configured
    exact ⟨named, rfl, settled, reread_overrideOf same flag⟩
  refine ⟨⟨⟨fun held => (origin held).1⟩, fun held => (origin held).2.1,
    fun held => (origin held).2.2.1⟩, congrArg (Overrides.mk o.path) (NameMap.ext_get? ?_)⟩
  intro taskId
  change o.reread.get? taskId = o.get? taskId
  rw [Overrides.get?_reread]
  cases held : o.get? taskId with
  | none => rfl
  | some s => exact congrArg some (origin held).2.2.2

/-- A schedule in force that is enabled or disabled is the override with that flag. -/
theorem withDisabled_inForce (default : Schedule) (flag : Option Bool) (disabled : Bool) :
    Registry.withDisabled (inForce default flag) default disabled =
      { overrideOf default disabled with overridden := (inForce default flag).overridden } := by
  have kept : { inForce default flag with disabled, customised := disabled != default.disabled } =
      { overrideOf default disabled with overridden := (inForce default flag).overridden } := by
    cases flag <;> rfl
  rw [← kept, Registry.withDisabled,
    matchesDefault_of_fields (by exact fields_inForce default flag)]
  rfl

/-- Enabling or disabling a schedule keeps it as an override and writes the overrides. -/
theorem setDisabled_run {σ : Type} [Files (StateM σ)] {t : σ} {s default : Schedule}
    (registered : k.registry.default? s.taskId = some default) (disabled : Bool) :
    (setDisabled s disabled k : StateM σ (Except Error Schedule × Tasks)) t =
      let s' := Registry.withDisabled s default disabled
      (((k.overrides.keeping s').persist : StateM σ (Except Error Unit)) t).map
        (fun written => (written.map fun _ => s', { k with overrides := k.overrides.keeping s' })) id := by
  simp only [setDisabled, Registry.setDisabled_of_known registered, bind, StateT.bind]
  rw [Overrides.save_run]
  generalize (Overrides.persist _ : StateM σ (Except Error Unit)) t = r
  rfl

/-- Overrides that were written are opened again from their file. -/
theorem Consistent.of_persist {o : Overrides}
    (tasks : k = ⟨settings.defaultSchedules, settings.registry, o, z⟩)
    (path : o.path = settings.overridesPath)
    (holds : ∀ taskId, o.get? taskId =
      (settings.defaultSchedules.get? taskId).bind fun default =>
        (requested requests taskId).map (overrideOf default))
    (written : (o.persist : StateM Tree (Except Error Unit)) t = (.ok (), t')) :
    Consistent settings z requests k t' := by
  obtain ⟨orderly, same⟩ := orderly_of_holds holds
  subst tasks
  have listed := Overrides.listed_of_persist orderly written
  refine ⟨rfl, path, holds, Overrides.openAt_eq_ok_iff.2 ⟨rfl, _, path ▸ listed, ?_⟩⟩
  rw [← path, Overrides.ofSchedules_list_reread orderly, same]

theorem ok_of_written {α : Type} {answer : Except Error Unit} {o : Overrides} {a : α}
    (ran : (o.persist : StateM Tree (Except Error Unit)) t = (answer, t'))
    (written : Written (answer.map fun _ => a)) : answer = .ok () := by
  cases answer with
  | ok _ => rfl
  | error e =>
    obtain ⟨why, rfl⟩ := Overrides.notSaved_of_persist ran
    exact absurd rfl (written why)

/-- Enabling or disabling a configured task records the flag. -/
theorem Consistent.of_setEnabled (consistent : Consistent settings z requests k t) {taskId : String}
    {enabled : Bool} {answer : Except Error Schedule}
    (ran : (setEnabled taskId enabled k : StateM Tree (Except Error Schedule × Tasks)) t =
      ((answer, k'), t'))
    (written : Written answer) :
    Consistent settings z (.setEnabled taskId enabled :: requests) k' t' ∧
      match settings.defaultSchedules.get? taskId with
      | none => answer = .error (.unknownTask taskId) ∧ k' = k ∧ t' = t
      | some default => ∃ s, answer = .ok s ∧
          { s with overridden := true } = overrideOf default (!enabled) := by
  rw [Tasks.setEnabled] at ran
  cases configured : settings.defaultSchedules.get? taskId with
  | none =>
    rw [consistent.effective_none configured] at ran
    cases ran
    refine ⟨{ consistent with holds := fun other => ?_ }, rfl, rfl, rfl⟩
    rw [consistent.holds other, requested]
    split
    · rename_i eq
      rw [eq, configured]
      rfl
    · rfl
  | some default =>
    rw [consistent.effective configured] at ran
    dsimp only at ran
    generalize requested requests taskId = flag at ran
    have named : (inForce default flag).taskId = taskId := by
      cases flag <;> exact (default_cases configured).1
    have registered : k.registry.default? (inForce default flag).taskId = some default := by
      rw [named, consistent.tasks]
      exact configured
    have kept := withDisabled_inForce default flag (!enabled)
    rw [setDisabled_run registered] at ran
    dsimp only at ran
    generalize Registry.withDisabled (inForce default flag) default (!enabled) = s at kept ran
    rcases run : ((k.overrides.keeping s).persist : StateM Tree (Except Error Unit)) t with ⟨saved, made⟩
    rw [run] at ran
    cases ran
    obtain rfl := ok_of_written run written
    have marked : { s with overridden := true } = overrideOf default (!enabled) := by
      rw [kept]
      rfl
    refine ⟨.of_persist (o := k.overrides.keeping s) ?_ consistent.path (fun other => ?_) run, s, rfl,
      marked⟩
    · rw [consistent.tasks]
    · rw [Overrides.get?_keeping, marked, requested]
      have about : s.taskId = taskId := by
        rw [kept]
        exact (default_cases configured).1
      rw [about]
      split
      · rename_i eq
        rw [eq, configured]
        rfl
      · exact consistent.holds other

theorem contains_defaults (settings : Settings) (taskId : String) :
    settings.defaultSchedules.contains taskId = settings.tasks.contains taskId := by
  rw [NameMap.contains, NameMap.contains, Settings.defaultSchedules, NameMap.get?_map,
    Option.isSome_map]

/-- Resetting a configured task drops its override. -/
theorem reset_run {σ : Type} [Files (StateM σ)] {t : σ} {taskId : String}
    (configured : k.defaults.contains taskId = true) :
    (reset taskId k : StateM σ (Except Error Bool × Tasks)) t =
      ((Overrides.remove taskId k.overrides : StateM σ (Except Error Bool × Overrides)) t).map
        (fun p => (p.1, { k with overrides := p.2 })) id := by
  rw [reset, if_pos configured]
  simp only [bind, StateT.bind]
  generalize (Overrides.remove taskId k.overrides : StateM σ (Except Error Bool × Overrides)) t = r
  rfl

/-- Without the override of a task, the overrides are those that the requests before the reset make. -/
theorem Consistent.holds_dropping (consistent : Consistent settings z requests k t) (taskId other : String) :
    (k.overrides.dropping taskId).get? other =
      (settings.defaultSchedules.get? other).bind fun default =>
        (requested (.reset taskId :: requests) other).map (overrideOf default) := by
  rw [Overrides.get?_dropping, requested]
  split
  · cases settings.defaultSchedules.get? other <;> rfl
  · exact consistent.holds other

/-- Resetting a configured task drops the flag and answers whether there was one. -/
theorem Consistent.of_reset (consistent : Consistent settings z requests k t) {taskId : String}
    {answer : Except Error Bool}
    (ran : (reset taskId k : StateM Tree (Except Error Bool × Tasks)) t = ((answer, k'), t'))
    (written : Written answer) :
    Consistent settings z (.reset taskId :: requests) k' t' ∧
      if settings.tasks.contains taskId then answer = .ok (requested requests taskId).isSome
      else answer = .error (.unknownTask taskId) ∧ k' = k ∧ t' = t := by
  have defaults : k.defaults.contains taskId = settings.tasks.contains taskId := by
    rw [consistent.tasks]
    exact contains_defaults settings taskId
  have held := consistent.holds taskId
  -- Where nothing is held, dropping it changes nothing.
  have unchanged (missing : k.overrides.get? taskId = none) (other : String) :
      k.overrides.get? other = (k.overrides.dropping taskId).get? other := by
    rw [Overrides.get?_dropping]
    split
    · rename_i eq
      rw [eq, missing]
    · rfl
  cases configured : settings.tasks.contains taskId with
  | false =>
    rw [Tasks.reset, if_neg (by rw [defaults, configured]; exact Bool.false_ne_true)] at ran
    cases ran
    rw [← contains_defaults, NameMap.contains, Option.isSome_eq_false_iff, Option.isNone_iff_eq_none]
      at configured
    rw [configured] at held
    refine ⟨{ consistent with holds := fun other => ?_ }, rfl, rfl, rfl⟩
    rw [unchanged held, consistent.holds_dropping]
  | true =>
    rw [reset_run (defaults.trans configured), Overrides.remove_run] at ran
    rw [← contains_defaults, NameMap.contains, Option.isSome_iff_exists] at configured
    obtain ⟨default, configured⟩ := configured
    rw [configured, Option.bind_some] at held
    have recorded : (k.overrides.get? taskId).isSome = (requested requests taskId).isSome := by
      rw [held, Option.isSome_map]
    rw [if_pos rfl, ← recorded]
    split at ran
    · rename_i some
      rcases run : ((k.overrides.dropping taskId).persist : StateM Tree (Except Error Unit)) t
        with ⟨saved, made⟩
      rw [run] at ran
      cases ran
      obtain rfl := ok_of_written run written
      refine ⟨.of_persist (o := k.overrides.dropping taskId) ?_ consistent.path
        (consistent.holds_dropping taskId) run, congrArg Except.ok some.symm⟩
      rw [consistent.tasks]
    · rename_i missing
      cases ran
      have none : k.overrides.get? taskId = none :=
        Option.isNone_iff_eq_none.1 (Option.isSome_eq_false_iff.1 (eq_false_of_ne_true missing))
      refine ⟨{ consistent with holds := fun other => ?_ }, congrArg Except.ok (by rw [none]; rfl)⟩
      rw [unchanged none, consistent.holds_dropping]

/-- Tasks are opened with the overrides that are opened for them. -/
theorem openFor_run {o : Overrides} (named : lookup settings.timezone = some z)
    (opened : (Overrides.openAt settings.overridesPath : StateM Tree (Except Error Overrides)) t =
      (.ok o, t')) :
    (openFor settings lookup : StateM Tree (Except Error Tasks)) t =
      (.ok ⟨settings.defaultSchedules, settings.registry, o, z⟩, t') := by
  simp only [openFor, bind, StateT.bind, opened, zoneNamed, named]
  rfl

theorem Consistent.opens_again (consistent : Consistent settings z requests k t)
    (named : lookup settings.timezone = some z) :
    (openFor settings lookup : StateM Tree (Except Error Tasks)) t = (.ok k, t) := by
  rw [openFor_run named consistent.opens, ← consistent.tasks]

/-- Without a file there are no overrides. -/
theorem Consistent.of_opened (named : lookup settings.timezone = some z)
    (absent : start.present settings.overridesPath = false)
    (ran : (openFor settings lookup : StateM Tree (Except Error Tasks)) start = (.ok k, t)) :
    Consistent settings z [] k t := by
  have listed : start.listed? settings.overridesPath = some [] := by
    rw [Tree.listed?, absent, if_neg Bool.false_ne_true]
  have opened := Overrides.openAt_eq_ok_iff.2 ⟨rfl, _, listed, rfl⟩
  rw [openFor_run named opened] at ran
  cases ran
  refine ⟨rfl, rfl, fun taskId => ?_, opened⟩
  cases settings.defaultSchedules.get? taskId <;> rfl

/-- Each request keeps the tasks and their file consistent. -/
theorem Consistent.answered (named : lookup settings.timezone = some z)
    (consistent : Consistent settings z requests k t) (answered : Answered settings lookup r k t k' t') :
    Consistent settings z (r :: requests) k' t' := by
  cases answered with
  | setEnabled ran written => exact (consistent.of_setEnabled ran written).1
  | reset ran written => exact (consistent.of_reset ran written).1
  | reopen ran =>
    rw [consistent.opens_again named] at ran
    cases ran
    exact { consistent with holds := consistent.holds }

theorem Reached.consistent (named : lookup settings.timezone = some z)
    (absent : start.present settings.overridesPath = false)
    (reached : Reached settings lookup start requests k t) : Consistent settings z requests k t := by
  induction reached with
  | opened ran => exact .of_opened named absent ran
  | answered _ answered ih => exact ih.answered named answered

/-- A listing shows the default of a configured task with its flag. -/
theorem Consistent.row (consistent : Consistent settings z requests k t) {taskId : String}
    {d : TaskDefaults} (configured : settings.tasks.get? taskId = some d) (now : Instant) :
    k.row now taskId = .ok (expectedRow settings z now taskId d (requested requests taskId)) := by
  have isDefault := default_of_configured configured
  rw [Tasks.row, consistent.effective isDefault, expectedRow, expectedEnabled, consistent.tasks]
  generalize d.schedule taskId = default at isDefault
  generalize requested requests taskId = flag
  have known : settings.registry.default? (inForce default flag).taskId = some default := by
    have about : (inForce default flag).taskId = taskId := by
      cases flag <;> exact (default_cases isDefault).1
    rw [about]
    exact isDefault
  have same : settings.registry.hasDefaultConfiguration (inForce default flag) =
      .ok (flag.getD default.disabled == default.disabled) := by
    rw [Registry.hasDefaultConfiguration_of_known known,
      matchesDefault_of_fields (fields_inForce default flag), disabled_inForce]
  simp only [bind, Except.bind, same]
  cases flag <;> rfl

/-- A listing has a row for each configured task, in the order of their ids. -/
theorem Consistent.rows (consistent : Consistent settings z requests k t) (clock : Clock) :
    k.rows clock = .ok (expectedRows settings z requests clock) := by
  have names : k.defaults.names = settings.tasks.entries.map Prod.fst := by
    rw [consistent.tasks]
    exact names_defaultSchedules settings
  have row {p : String × TaskDefaults} (mem : p ∈ settings.tasks.entries) (now : Instant) :=
    consistent.row (NameMap.get?_eq_some_iff.2 mem) now
  have flags (p : String × TaskDefaults) (mem : p ∈ settings.tasks.entries) (now : Instant) (r : TaskRow)
      (made : k.row now p.1 = .ok r) :
      r.enabled = expectedEnabled settings p.1 p.2 (requested requests p.1) := by
    rw [row mem] at made
    cases made
    rfl
  rw [Tasks.rows, names, rowsBy_eq_mapM flags]
  exact mapM_ok fun q mem => row (mem_of_turns mem) q.1

theorem requested_of_other {taskId : String} (other : r.task? ≠ some taskId) :
    requested (r :: requests) taskId = requested requests taskId := by
  cases r with
  | setEnabled asked enabled =>
    rw [requested, if_neg fun eq => other (congrArg some eq.symm)]
  | reset asked => rw [requested, if_neg fun eq => other (congrArg some eq.symm)]
  | reopen => rfl

theorem Consistent.recorded (consistent : Consistent settings z requests k t) (taskId : String) :
    (k.overrides.get? taskId).isSome =
      (settings.tasks.contains taskId && (requested requests taskId).isSome) := by
  rw [consistent.holds, ← contains_defaults, NameMap.contains]
  cases settings.defaultSchedules.get? taskId with
  | none => rfl
  | some default => rw [Option.bind_some, Option.isSome_map, Option.isSome_some, Bool.true_and]

theorem Consistent.stored (consistent : Consistent settings z requests k t) {taskId : String}
    {s : Schedule} (held : k.overrides.get? taskId = some s) :
    s.taskId = taskId ∧ s.overridden = true ∧
      ∀ clock, ∃ rows, k.rows clock = .ok rows ∧
        ∃ row ∈ rows, row.taskId = taskId ∧ s.customised = row.customised := by
  obtain ⟨orderly, -⟩ := orderly_of_holds consistent.holds
  refine ⟨orderly.keyed held, orderly.marked held, fun clock => ⟨_, consistent.rows clock, ?_⟩⟩
  rw [consistent.holds, Option.bind_eq_some_iff] at held
  obtain ⟨default, configured, held⟩ := held
  obtain ⟨flag, recorded, rfl⟩ := Option.map_eq_some_iff.1 held
  rw [Settings.defaultSchedules, NameMap.get?_map, Option.map_eq_some_iff] at configured
  obtain ⟨d, configured, rfl⟩ := configured
  obtain ⟨now, turn⟩ := exists_turn (NameMap.get?_eq_some_iff.1 configured)
  refine ⟨_, List.mem_map_of_mem turn, rfl, ?_⟩
  dsimp only
  rw [recorded]
  rfl

/-- Tasks that are not configured cannot be enabled, disabled or reset. -/
theorem Consistent.unknown (consistent : Consistent settings z requests k t) {taskId : String}
    (missing : settings.tasks.contains taskId = false) :
    (∀ enabled, (setEnabled taskId enabled k : StateM Tree (Except Error Schedule × Tasks)) t =
        ((.error (.unknownTask taskId), k), t)) ∧
      (reset taskId k : StateM Tree (Except Error Bool × Tasks)) t =
        ((.error (.unknownTask taskId), k), t) := by
  have absent := (contains_defaults settings taskId).trans missing
  have undefined : settings.defaultSchedules.get? taskId = none :=
    Option.isNone_iff_eq_none.1 (Option.isSome_eq_false_iff.1 absent)
  have defaults : ¬ k.defaults.contains taskId = true := by
    rw [consistent.tasks]
    exact ne_true_of_eq_false absent
  refine ⟨fun enabled => ?_, ?_⟩
  · rw [Tasks.setEnabled, consistent.effective_none undefined]
    rfl
  · rw [Tasks.reset, if_neg defaults]
    rfl

theorem Consistent.enables (consistent : Consistent settings z requests k t) {taskId : String}
    {default : Schedule} (configured : settings.defaultSchedules.get? taskId = some default)
    {enabled : Bool} {answer : Except Error Schedule}
    (ran : (setEnabled taskId enabled k : StateM Tree (Except Error Schedule × Tasks)) t =
      ((answer, k'), t'))
    (written : Written answer) :
    ∃ s, answer = .ok s ∧ s.disabled = !enabled ∧ s.customised = ((!enabled) != default.disabled) := by
  have answered := (consistent.of_setEnabled ran written).2
  rw [configured] at answered
  obtain ⟨s, ok, marked⟩ := answered
  exact ⟨s, ok, congrArg Schedule.disabled marked, congrArg Schedule.customised marked⟩

/-- The row of a task is up to its own flag. -/
theorem Consistent.row_of_other (consistent : Consistent settings z requests k t)
    (consistent' : Consistent settings z (r :: requests) k' t') {taskId : String}
    (other : r.task? ≠ some taskId) (now : Instant) : k'.row now taskId = k.row now taskId := by
  cases configured : settings.tasks.get? taskId with
  | some d => rw [consistent.row configured, consistent'.row configured, requested_of_other other]
  | none =>
    have undefined : settings.defaultSchedules.get? taskId = none := by
      rw [Settings.defaultSchedules, NameMap.get?_map, configured, Option.map_none]
    rw [Tasks.row, Tasks.row, consistent.effective_none undefined, consistent'.effective_none undefined]
    rfl

/-- The tasks behave as a map from configured tasks to the flags that some requests leave. -/
structure Behaves (settings : Settings) (lookup : String → Option Zone) (z : Zone)
    (requests : List Request) (k : Tasks) (t : Tree) : Prop where
  /-- The rows show the default of each configured task with its flag. -/
  rows : ∀ clock, k.rows clock = .ok (expectedRows settings z requests clock)
  /-- A listing consists of them, unless the search for a next run breaks it off. -/
  lists : ∀ clock, k.list clock = k.rows clock ∨ ∃ e, k.list clock = .error e ∧ e.isBreak = true
  /-- None does while the clock keeps away from the ends of the supported years. -/
  away : z.RarelyChanged → ∀ clock, clock.KeepsAway z → k.list clock = k.rows clock
  /-- Overrides are stored for the configured tasks that have a flag, and for no others. -/
  recorded : ∀ taskId, (k.overrides.get? taskId).isSome =
    (settings.tasks.contains taskId && (requested requests taskId).isSome)
  /-- A stored override is kept under the id of its own task, is marked as one and is customised just
  if a listing says so. -/
  stored : ∀ taskId s, k.overrides.get? taskId = some s → s.taskId = taskId ∧ s.overridden = true ∧
    ∀ clock, ∃ rows, k.rows clock = .ok rows ∧
      ∃ row ∈ rows, row.taskId = taskId ∧ s.customised = row.customised
  /-- Tasks that are not configured cannot be enabled, disabled or reset. -/
  unknown : ∀ taskId, settings.tasks.contains taskId = false →
    (∀ enabled, (setEnabled taskId enabled k : StateM Tree (Except Error Schedule × Tasks)) t =
      ((.error (.unknownTask taskId), k), t)) ∧
    (reset taskId k : StateM Tree (Except Error Bool × Tasks)) t =
      ((.error (.unknownTask taskId), k), t)
  /-- Enabling or disabling a configured task answers the schedule with the flag. -/
  enables : ∀ taskId default, settings.defaultSchedules.get? taskId = some default →
    ∀ enabled answer k' t',
      (setEnabled taskId enabled k : StateM Tree (Except Error Schedule × Tasks)) t =
        ((answer, k'), t') → Written answer →
      ∃ s, answer = .ok s ∧ s.disabled = !enabled ∧ s.customised = ((!enabled) != default.disabled)
  /-- Resetting a configured task answers whether it had a flag. -/
  resets : ∀ taskId, settings.tasks.contains taskId = true → ∀ answer k' t',
    (reset taskId k : StateM Tree (Except Error Bool × Tasks)) t = ((answer, k'), t') →
      Written answer → answer = .ok (requested requests taskId).isSome
  /-- Opened again, the tasks are the same. -/
  opens : (openFor settings lookup : StateM Tree (Except Error Tasks)) t = (.ok k, t)
  /-- A request about one task changes the rows of no others. -/
  apart : ∀ r k' t', Answered settings lookup r k t k' t' → ∀ taskId, r.task? ≠ some taskId →
    ∀ now, k'.row now taskId = k.row now taskId

/-- However tasks come about without a file of overrides at first, they behave as the map of flags
that the requests leave. -/
theorem behaves_of_reached (named : lookup settings.timezone = some z)
    (absent : start.present settings.overridesPath = false)
    (reached : Reached settings lookup start requests k t) : Behaves settings lookup z requests k t := by
  have consistent := reached.consistent named absent
  exact
    { rows := consistent.rows
      lists := list_cases k
      away := fun rare clock away => by
        obtain rfl : k.zone = z := by rw [consistent.tasks]
        exact list_of_keepsAway rare away
      recorded := consistent.recorded
      stored := fun taskId s held => consistent.stored held
      unknown := fun taskId missing => consistent.unknown missing
      enables := fun taskId default configured enabled answer k' t' ran written =>
        consistent.enables configured ran written
      resets := fun taskId configured answer k' t' ran written => by
        have answered := (consistent.of_reset ran written).2
        rwa [if_pos configured] at answered
      opens := consistent.opens_again named
      apart := fun r k' t' answered taskId other now =>
        consistent.row_of_other (consistent.answered named answered) other now }

/-- Two tasks, one of which is disabled by default. -/
def twoTasks : Settings :=
  { tasks := .ofList [("sync", { minute := "*/5" }), ("backup", { hour := "2", disabled := true })] }

/-- What opening them without any files leaves. -/
def opening : Tasks :=
  ⟨twoTasks.defaultSchedules, twoTasks.registry, .ofSchedules twoTasks.overridesPath [], .utc⟩

/-- What disabling one of them answers and leaves. -/
def syncDisabled : (Except Error Schedule × Tasks) × Tree :=
  (setEnabled "sync" false opening : StateM Tree _) .empty

/-- What enabling the other one then answers and leaves. -/
def backupEnabled : (Except Error Schedule × Tasks) × Tree :=
  (setEnabled "backup" true syncDisabled.1.2 : StateM Tree _) syncDisabled.2

/-- What resetting the first one then answers and leaves. -/
def syncReset : (Except Error Bool × Tasks) × Tree :=
  (reset "sync" backupEnabled.1.2 : StateM Tree _) backupEnabled.2

/-- One task is disabled, the other one enabled, the first one reset, and the tasks are opened again. -/
theorem twoTasks_behave :
    ∃ k t, Zone.named? twoTasks.timezone = some .utc ∧
      Tree.empty.present twoTasks.overridesPath = false ∧
      Reached twoTasks Zone.named? .empty
        [.reopen, .reset "sync", .setEnabled "backup" true, .setEnabled "sync" false] k t ∧
      Behaves twoTasks Zone.named? .utc
        [.reopen, .reset "sync", .setEnabled "backup" true, .setEnabled "sync" false] k t := by
  have named : Zone.named? twoTasks.timezone = some .utc := rfl
  have absent : Tree.empty.present twoTasks.overridesPath = false := by decide +kernel
  have wrote {α : Type} (a : α) : Written (.ok a) := fun why eq => nomatch eq
  have opened : Reached twoTasks Zone.named? .empty [] opening .empty :=
    .opened (openFor_run named (Overrides.openAt_eq_ok_iff.2 ⟨rfl, _, by decide +kernel, rfl⟩))
  obtain ⟨_, disabling⟩ := run_eq_of_isOk (by decide +kernel : syncDisabled.1.1.isOk = true)
  have disabled := opened.answered (.setEnabled disabling (wrote _))
  obtain ⟨_, enabling⟩ := run_eq_of_isOk (by decide +kernel : backupEnabled.1.1.isOk = true)
  have enabled := disabled.answered (.setEnabled enabling (wrote _))
  obtain ⟨_, resetting⟩ := run_eq_of_isOk (by decide +kernel : syncReset.1.1.isOk = true)
  have undone := enabled.answered (.reset resetting (wrote _))
  have again := (undone.consistent named absent).opens_again named
  have reached := undone.answered (.reopen again)
  exact ⟨_, _, named, absent, reached, behaves_of_reached named absent reached⟩

end CronCalendar.Tasks
