import CronCalendar.Proofs.Tasks.Listings
import CronCalendar.Proofs.Tasks.OverrideHistories

/-!
# Updates that could not be written

Saving and removing change the overrides in memory, and then write them to their file. If they cannot be
written, the change stays, whatever keeps the files: the overrides answer as before, and as their file
does, only if the change made no difference. So do the rows of tasks, one of which was enabled, disabled or
reset (`failedUpdatesShow_of_opened`). A schedule that could not be saved can be saved again, but a removal
that failed is not made up for (`remove_again_of_failed`).
-/

namespace CronCalendar
set_option autoImplicit false

open Field (Kind)

namespace Overrides

/-- Overrides answer every question as others do. -/
structure SameAnswers (o' o : Overrides) : Prop where
  get : ∀ taskId, o'.get? taskId = o.get? taskId
  list : o'.list = o.list
  effective : ∀ (r : Registry) taskId, o'.effective? r taskId = o.effective? r taskId

/-- What opening a path gives. -/
def openedFrom {σ : Type} [Files (StateM σ)] (path : String) (t : σ) : Except Error Overrides :=
  ((openAt path : StateM σ (Except Error Overrides)) t).1

/-- Opening the file of some overrides gives their answers, up to the form of the fields. -/
def AgreesWithFile {σ : Type} [Files (StateM σ)] (o : Overrides) (t : σ) : Prop :=
  ∃ u, openedFrom o.path t = .ok u ∧
    ∀ taskId, Option.Rel Schedule.Alike (u.get? taskId) (o.get? taskId)

/-- The overrides that come about by opening a path, and then saving and removing, whatever is answered
and whatever becomes of the files in between. -/
inductive Opened (σ : Type) [Files (StateM σ)] (path : String) : Overrides → Prop
  | opened {o : Overrides} {t : σ} (opens : openedFrom path t = .ok o) : Opened σ path o
  | saved {s : Schedule} {answer : Except Error Unit} {o o' : Overrides} {t t' : σ}
      (before : Opened σ path o)
      (ran : (save s o : StateM σ (Except Error Unit × Overrides)) t = ((answer, o'), t')) :
      Opened σ path o'
  | removed {taskId : String} {answer : Except Error Bool} {o o' : Overrides} {t t' : σ}
      (before : Opened σ path o)
      (ran : (remove taskId o : StateM σ (Except Error Bool × Overrides)) t = ((answer, o'), t')) :
      Opened σ path o'

section
variable {σ : Type} [Files (StateM σ)] {o o' : Overrides} {t t' : σ} {path taskId : String}
  {s : Schedule} {e : Error}

/-- Opening a path gives the overrides that some schedules make up. -/
theorem exists_of_openedFrom (opens : openedFrom path t = .ok o) : ∃ ss, o = ofSchedules path ss := by
  simp only [openedFrom, openAt, bind, StateT.bind] at opens
  rcases found : (Files.present path : StateM σ Bool) t with ⟨_ | _, t₁⟩
  · rw [found] at opens
    exact ⟨[], (Except.ok.inj opens).symm⟩
  · rw [found] at opens
    rcases read : (Files.read path : StateM σ (Except FileError String)) t₁ with ⟨_ | text, t₂⟩
    all_goals
      simp only [if_pos, StateT.bind, bind, read] at opens
    · cases opens
    · cases listed : Schedule.parseList? text with
      | none =>
        rw [listed] at opens
        cases opens
      | some ss =>
        rw [listed] at opens
        exact ⟨ss, (Except.ok.inj opens).symm⟩

/-- A schedule that could not be saved is held all the same. -/
theorem save_result {answer : Except Error Unit}
    (ran : (save s o : StateM σ (Except Error Unit × Overrides)) t = ((answer, o'), t')) :
    o' = o.keeping s := by
  rw [save_run] at ran
  exact (congrArg (fun p => p.1.2) ran).symm

/-- An override that could not be removed was there, and is gone all the same. -/
theorem remove_failed
    (failed : (remove taskId o : StateM σ (Except Error Bool × Overrides)) t = ((.error e, o'), t')) :
    (∃ s, o.get? taskId = some s) ∧ o' = o.dropping taskId := by
  rw [remove_run] at failed
  split at failed
  · rename_i held
    exact ⟨Option.isSome_iff_exists.1 held, (congrArg (fun p => p.1.2) failed).symm⟩
  · cases failed

/-- Asked once more, there is nothing to remove, and nothing is written. -/
theorem remove_again_of_failed
    (failed : (remove taskId o : StateM σ (Except Error Bool × Overrides)) t = ((.error e, o'), t'))
    (later : σ) :
    (remove taskId o' : StateM σ (Except Error Bool × Overrides)) later = ((.ok false, o'), later) := by
  obtain ⟨-, rfl⟩ := remove_failed failed
  have gone : (o.dropping taskId).schedules.contains taskId = false := by
    rw [NameMap.contains, ← get?, get?_dropping, if_pos rfl, Option.isSome_none]
  rw [remove_run, gone, if_neg Bool.false_ne_true]

/-- Whatever is answered, removing drops the override or changes nothing. -/
theorem remove_result {answer : Except Error Bool}
    (ran : (remove taskId o : StateM σ (Except Error Bool × Overrides)) t = ((answer, o'), t')) :
    o' = o.dropping taskId ∨ o' = o := by
  rw [remove_run] at ran
  split at ran
  · exact .inl (congrArg (fun p => p.1.2) ran).symm
  · exact .inr (congrArg (fun p => p.1.2) ran).symm

theorem Opened.keyed (opened : Opened σ path o) : o.Keyed := by
  induction opened with
  | opened opens =>
    obtain ⟨ss, rfl⟩ := exists_of_openedFrom opens
    exact keyed_ofSchedules
  | saved _ ran ih =>
    obtain rfl := save_result ran
    exact ih.keeping _
  | removed _ ran ih =>
    obtain rfl | rfl := remove_result ran
    · exact ih.dropping _
    · exact ih

theorem sameAnswers_iff : SameAnswers o' o ↔ ∀ taskId, o'.get? taskId = o.get? taskId := by
  refine ⟨SameAnswers.get, fun same => ?_⟩
  have schedules : o'.schedules = o.schedules := NameMap.ext_get? same
  exact ⟨same, congrArg NameMap.values schedules, fun r taskId => by rw [effective?, effective?, same]⟩

/-- A schedule that is kept makes no difference if it is held already. -/
theorem sameAnswers_keeping_iff :
    SameAnswers (o.keeping s) o ↔ o.get? s.taskId = some { s with overridden := true } := by
  rw [sameAnswers_iff]
  constructor
  · intro same
    rw [← same, get?_keeping, if_pos rfl]
  · intro held taskId
    rw [get?_keeping]
    split
    · rename_i eq
      rw [eq, held]
    · rfl

/-- Overrides whose file is kept agree with it, as others did, if the two hold the same. -/
theorem agreesWithFile_iff_of_kept (agreed : o.AgreesWithFile t) (path : o'.path = o.path)
    (kept : openedFrom o.path t' = openedFrom o.path t) :
    o'.AgreesWithFile t' ↔ ∀ taskId, Option.Rel Schedule.Alike (o.get? taskId) (o'.get? taskId) := by
  obtain ⟨u, opens, alike⟩ := agreed
  rw [AgreesWithFile, path, kept, opens]
  constructor
  · rintro ⟨_, ⟨⟩, alike'⟩ taskId
    exact alike_trans (alike_symm (alike taskId)) (alike' taskId)
  · intro same
    exact ⟨u, rfl, fun taskId => alike_trans (alike taskId) (same taskId)⟩

theorem alike_keeping_iff :
    (∀ taskId, Option.Rel Schedule.Alike (o.get? taskId) ((o.keeping s).get? taskId)) ↔
      Option.Rel Schedule.Alike (o.get? s.taskId) (some { s with overridden := true }) := by
  constructor
  · intro alike
    have kept := alike s.taskId
    rwa [get?_keeping, if_pos rfl] at kept
  · intro alike taskId
    rw [get?_keeping]
    split
    · rename_i eq
      exact eq ▸ alike
    · exact alike_refl _

theorem not_alike_dropping (held : o.get? taskId = some s) :
    ¬ Option.Rel Schedule.Alike (o.get? taskId) ((o.dropping taskId).get? taskId) := by
  rw [held, get?_dropping, if_pos rfl]
  rintro ⟨⟩

end

end Overrides

namespace Tasks

variable {σ : Type} [Files (StateM σ)] {settings : Settings} {z : Zone} {o o' : Overrides} {t t' : σ}
  {path taskId : String} {d : TaskDefaults} {s : Schedule} {k k' : Tasks} {e : Error}

/-- Without a default, a schedule is neither enabled nor disabled. -/
theorem setDisabled_unknown (unknown : k.registry.default? s.taskId = none) (disabled : Bool) :
    (setDisabled s disabled k : StateM σ (Except Error Schedule × Tasks)) t =
      ((.error (.noDefault s.taskId), k), t) := by
  simp only [setDisabled, Registry.setDisabled_of_unknown unknown]
  rfl

/-- Enabling or disabling a task leaves the tasks alone if it is not configured. Otherwise its schedule is
held as an override, whatever is answered. -/
theorem setEnabled_result (keyed : o.Keyed) {enabled : Bool} {answer : Except Error Schedule}
    (ran : (setEnabled taskId enabled (withOverrides settings z o) :
      StateM σ (Except Error Schedule × Tasks)) t = ((answer, k'), t')) :
    settings.tasks.get? taskId = none ∧ k' = withOverrides settings z o ∨
      ∃ d, settings.tasks.get? taskId = some d ∧ k' = withOverrides settings z
        (o.keeping (Registry.withDisabled (inForceOf o taskId d) (d.schedule taskId) (!enabled))) := by
  rw [setEnabled] at ran
  cases configured : settings.tasks.get? taskId with
  | none =>
    have unknown : settings.registry.default? taskId = none := by
      change settings.defaultSchedules.get? taskId = none
      rw [Settings.defaultSchedules, NameMap.get?_map, configured, Option.map_none]
    refine .inl ⟨rfl, ?_⟩
    cases found : (withOverrides settings z o).effective taskId with
    | error e =>
      rw [found] at ran
      exact (congrArg (fun p => p.1.2) ran).symm
    | ok s =>
      have held : o.get? taskId = some s := by
        simp only [Tasks.effective, effective?, Overrides.effective?, withOverrides, unknown,
          Option.or_none] at found
        split at found
        · cases found
          assumption
        · cases found
      rw [found] at ran
      dsimp only at ran
      rw [setDisabled_unknown (by rw [keyed.keyed held]; exact unknown)] at ran
      exact (congrArg (fun p => p.1.2) ran).symm
  | some d =>
    have registered : settings.registry.default? (inForceOf o taskId d).taskId =
        some (d.schedule taskId) := by
      rw [taskId_of_inForceOf keyed configured]
      exact default_of_configured configured
    rw [effective_of_configured configured] at ran
    dsimp only at ran
    rw [setDisabled_run registered] at ran
    exact .inr ⟨d, rfl, (congrArg (fun p => p.1.2) ran).symm⟩

/-- Resetting a task leaves the tasks alone, or drops the override of a configured one. -/
theorem reset_failed
    (failed : (reset taskId (withOverrides settings z o) : StateM σ (Except Error Bool × Tasks)) t =
      ((.error e, k'), t')) :
    settings.tasks.get? taskId = none ∧ k' = withOverrides settings z o ∨
      (∃ d, settings.tasks.get? taskId = some d) ∧ (∃ u, o.get? taskId = some u) ∧
        k' = withOverrides settings z (o.dropping taskId) := by
  have configured : (withOverrides settings z o).defaults.contains taskId =
      (settings.tasks.get? taskId).isSome := contains_defaults settings taskId
  cases found : settings.tasks.get? taskId with
  | none =>
    rw [found, Option.isSome_none] at configured
    rw [reset, configured, if_neg Bool.false_ne_true] at failed
    exact .inl ⟨rfl, (congrArg (fun p => p.1.2) failed).symm⟩
  | some d =>
    rw [found] at configured
    rw [reset_run configured] at failed
    rcases removed : (Overrides.remove taskId o : StateM σ (Except Error Bool × Overrides)) t
      with ⟨⟨answer, o'⟩, made⟩
    rw [withOverrides, removed] at failed
    cases failed
    obtain ⟨held, rfl⟩ := Overrides.remove_failed removed
    exact .inr ⟨⟨d, rfl⟩, held, rfl⟩

/-- Whether a task is enabled can be told by its row. -/
theorem shownEnabled_of_shownRow {now : Instant} {s s' : Schedule}
    (same : shownRow settings z now taskId d s' = shownRow settings z now taskId d s) :
    shownEnabled settings s' = shownEnabled settings s :=
  congrArg TaskRow.enabled same

/-- Rows that differ in the override of one task at most are the same if the row of the task is, where it has
one. -/
theorem rows_eq_iff (taskId : String) (keyed : o.Keyed) (keyed' : o'.Keyed)
    (others : ∀ other, other ≠ taskId → o'.get? other = o.get? other) :
    (∀ clock, (withOverrides settings z o').rows clock = (withOverrides settings z o).rows clock) ↔
      ∀ d, settings.tasks.get? taskId = some d → ∀ now,
        shownRow settings z now taskId d (inForceOf o' taskId d) =
          shownRow settings z now taskId d (inForceOf o taskId d) := by
  simp only [rows_of_keyed keyed', rows_of_keyed keyed, Except.ok.injEq]
  constructor
  · intro same d configured now
    have stopped := same (.fixed now)
    rw [shownRows, shownTurns, turns_fixed, shownRows, shownTurns, turns_fixed, List.map_map, List.map_map]
      at stopped
    exact List.map_inj_left.1 stopped (taskId, d) (NameMap.get?_eq_some_iff.1 configured)
  · intro same clock
    have shown {p : String × TaskDefaults} (mem : p ∈ settings.tasks.entries) (now : Instant) :
        shownRow settings z now p.1 p.2 (inForceOf o' p.1 p.2) =
          shownRow settings z now p.1 p.2 (inForceOf o p.1 p.2) := by
      obtain ⟨other, d⟩ := p
      by_cases eq : other = taskId
      · subst eq
        exact same d (NameMap.get?_eq_some_iff.2 mem) now
      · dsimp only
        rw [inForceOf, inForceOf, others other eq]
    have turns : shownTurns settings (inForceOf o') clock = shownTurns settings (inForceOf o) clock :=
      turns_congr fun p mem => shownEnabled_of_shownRow (shown mem never)
    rw [shownRows, turns, shownRows]
    exact List.map_congr_left fun q mem => shown (mem_of_turns mem) q.1

/-- The flags of a row tell two `disabled` flags apart, unless the task may not run and its fields differ
from the default. -/
theorem unseen_of_flags {runs differs usual before after : Bool}
    (enabled : (runs && !after) = (runs && !before))
    (customised : (differs || after != usual) = (differs || before != usual)) :
    before = after ∨ runs = false ∧ differs = true := by
  revert runs differs usual before after
  decide

/-- A row does not tell whether a schedule is disabled if its task may not run, since its component is
disabled, and the schedule is customised in any case. -/
theorem shownRow_disabled_iff (disabled : Bool) :
    (∀ now, shownRow settings z now taskId d { s with disabled } =
        shownRow settings z now taskId d s) ↔
      s.disabled = disabled ∨ settings.registry.canRun s = false ∧
        ∃ kind, s.expression kind ≠ (d.schedule taskId).expression kind := by
  simp only [shownRow, TaskRow.mk.injEq]
  generalize d.schedule taskId = default
  have differs_iff : (Kind.all.any fun kind => s.expression kind != default.expression kind) = true ↔
      ∃ kind, s.expression kind ≠ default.expression kind := by
    rw [List.any_eq_true]
    exact exists_congr fun kind => by simp [Kind.mem_all]
  rw [← differs_iff]
  constructor
  · intro same
    obtain ⟨-, -, -, enabled, customised, -⟩ := same never
    exact unseen_of_flags enabled customised
  · rintro (rfl | ⟨stopped, differs⟩) now
    · exact ⟨trivial, trivial, rfl, rfl, rfl, rfl⟩
    · have hidden (disabled : Bool) : shownEnabled settings { s with disabled } = false := by
        have runs : (settings.isComponentEnabled s.component || s.runIfComponentDisabled) = false := stopped
        simp only [shownEnabled, runs, Bool.false_and]
      have differs' : (Kind.all.any fun kind =>
          ({ s with disabled } : Schedule).expression kind != default.expression kind) = true := differs
      rw [hidden disabled, hidden s.disabled, differs, differs']
      exact ⟨trivial, trivial, rfl, rfl, rfl, rfl⟩

/-- Enabling or disabling shows the schedule with the flag, whatever became of its other flags. -/
theorem shownRow_keeping (about : s.taskId = taskId) (default : Schedule) (disabled : Bool) (now : Instant) :
    shownRow settings z now taskId d
        (inForceOf (o.keeping (Registry.withDisabled s default disabled)) taskId d) =
      shownRow settings z now taskId d { s with disabled } := by
  have kept : (Registry.withDisabled s default disabled).taskId = taskId := about
  rw [inForceOf, Overrides.get?_keeping, if_pos kept.symm, Option.getD_some]
  rfl

/-- What is answered after updates of some overrides that failed, whatever keeps the files: exactly when it
is what was answered before, and what the file says. -/
structure FailedUpdatesShow (σ : Type) [Files (StateM σ)] (o : Overrides) : Prop where
  /-- After a save that failed, the answers are the same if the very schedule was held already. -/
  saves : ∀ s e o' t t',
    (Overrides.save s o : StateM σ (Except Error Unit × Overrides)) t = ((.error e, o'), t') →
      (o'.SameAnswers o ↔ o.get? s.taskId = some { s with overridden := true })
  /-- They are those of the file, if they were before and the file was left alone, if a schedule with the
  same texts and flags was held already. -/
  saves_in_file : ∀ s e o' t t',
    (Overrides.save s o : StateM σ (Except Error Unit × Overrides)) t = ((.error e, o'), t') →
      o.AgreesWithFile t → Overrides.openedFrom o.path t' = Overrides.openedFrom o.path t →
      (o'.AgreesWithFile t' ↔
        Option.Rel Schedule.Alike (o.get? s.taskId) (some { s with overridden := true }))
  /-- After a removal that failed, they are never the same. -/
  removals : ∀ taskId e o' t t',
    (Overrides.remove taskId o : StateM σ (Except Error Bool × Overrides)) t = ((.error e, o'), t') →
      ¬ o'.SameAnswers o
  /-- Nor are they those of the file. -/
  removals_in_file : ∀ taskId e o' t t',
    (Overrides.remove taskId o : StateM σ (Except Error Bool × Overrides)) t = ((.error e, o'), t') →
      o.AgreesWithFile t → Overrides.openedFrom o.path t' = Overrides.openedFrom o.path t →
      ¬ o'.AgreesWithFile t'
  /-- After a task could not be enabled or disabled, the rows are the same if it is not configured, its
  schedule had the flag already, or its row does not tell: it may not run and is customised anyway. -/
  enables : ∀ settings z taskId enabled e k' t t',
    (setEnabled taskId enabled (withOverrides settings z o) :
        StateM σ (Except Error Schedule × Tasks)) t = ((.error e, k'), t') →
      ((∀ clock, k'.rows clock = (withOverrides settings z o).rows clock) ↔
        ∀ d, settings.tasks.get? taskId = some d →
          let s := inForceOf o taskId d
          s.disabled = !enabled ∨ settings.registry.canRun s = false ∧
            ∃ kind, s.expression kind ≠ (d.schedule taskId).expression kind)
  /-- After a task could not be reset, they are the same if it is not configured, or its override looks like
  its default. -/
  resets : ∀ settings z taskId e k' t t',
    (reset taskId (withOverrides settings z o) : StateM σ (Except Error Bool × Tasks)) t =
        ((.error e, k'), t') →
      ((∀ clock, k'.rows clock = (withOverrides settings z o).rows clock) ↔
        ∀ d u, settings.tasks.get? taskId = some d → o.get? taskId = some u → ∀ now,
          shownRow settings z now taskId d u = shownRow settings z now taskId d (d.schedule taskId))

/-- However overrides came about, updates of them that fail change them all the same. -/
theorem failedUpdatesShow_of_opened (opened : Overrides.Opened σ path o) : FailedUpdatesShow σ o := by
  have keyed := opened.keyed
  constructor
  case saves =>
    intro s e o' t t' failed
    obtain rfl := Overrides.save_result failed
    exact Overrides.sameAnswers_keeping_iff
  case saves_in_file =>
    intro s e o' t t' failed agreed kept
    obtain rfl := Overrides.save_result failed
    have path : (o.keeping s).path = o.path := rfl
    rw [Overrides.agreesWithFile_iff_of_kept agreed path kept]
    exact Overrides.alike_keeping_iff
  case removals =>
    intro taskId e o' t t' failed same
    obtain ⟨⟨s, held⟩, rfl⟩ := Overrides.remove_failed failed
    have gone := same.get taskId
    rw [Overrides.get?_dropping, if_pos rfl, held] at gone
    cases gone
  case removals_in_file =>
    intro taskId e o' t t' failed agreed kept agrees
    obtain ⟨⟨s, held⟩, rfl⟩ := Overrides.remove_failed failed
    have path : (o.dropping taskId).path = o.path := rfl
    rw [Overrides.agreesWithFile_iff_of_kept agreed path kept] at agrees
    exact Overrides.not_alike_dropping held (agrees taskId)
  case enables =>
    intro settings z taskId enabled e k' t t' failed
    obtain ⟨unknown, rfl⟩ | ⟨d, configured, rfl⟩ := setEnabled_result keyed failed
    · exact iff_of_true (fun _ => rfl) fun d known => nomatch unknown.symm.trans known
    · have about := taskId_of_inForceOf keyed configured
      rw [rows_eq_iff taskId keyed (keyed.keeping _) fun other ne => by
        rw [Overrides.get?_keeping]
        exact if_neg fun eq => ne (eq.trans about)]
      refine forall_congr' fun d' => imp_congr_right fun found => ?_
      obtain rfl := Option.some.inj (configured.symm.trans found)
      simp only [shownRow_keeping about]
      exact shownRow_disabled_iff (!enabled)
  case resets =>
    intro settings z taskId e k' t t' failed
    obtain ⟨unknown, rfl⟩ | ⟨-, ⟨u, held⟩, rfl⟩ := reset_failed failed
    · exact iff_of_true (fun _ => rfl) fun d u known => nomatch unknown.symm.trans known
    · rw [rows_eq_iff taskId keyed (keyed.dropping taskId) fun other ne => by
        rw [Overrides.get?_dropping, if_neg ne]]
      refine forall_congr' fun d => ?_
      simp only [inForceOf, Overrides.get?_dropping, if_pos, held, Option.getD_none, Option.getD_some]
      constructor
      · rintro same _ configured ⟨⟩ now
        exact (same configured now).symm
      · intro same configured now
        exact (same u configured rfl now).symm

/-- A directory in the place of the file of some overrides. -/
def blocked : Tree := ⟨[(["o.json"], .directory)]⟩

/-- No overrides. -/
def noneHeld : Overrides := ⟨"o.json", .empty⟩

/-- What saving a schedule then answers and leaves. -/
theorem save_blocked (o : Overrides) (path : o.path = "o.json") (s : Schedule) :
    (Overrides.save s o : StateM Tree (Except Error Unit × Overrides)) blocked =
      ((.error (.notSaved "o.json: Is a directory (os error 21)"), o.keeping s), blocked) := by
  have made : Tree.makeParents "o.json" blocked = (.ok (), blocked) := rfl
  have refused (text : String) : blocked.write "o.json" text = .error .isDirectory := rfl
  have same : (o.keeping s).path = "o.json" := path
  rw [Overrides.save_run, Overrides.persist_run, same, made]
  simp only [refused]
  rfl

/-- The overrides of a file that is not there, after a schedule could not be saved in it. A second attempt
changes nothing, though it fails as well. -/
theorem blocked_show :
    ∃ o o' : Overrides, Overrides.Opened Tree "o.json" o ∧ FailedUpdatesShow Tree o ∧
      (Overrides.save { taskId := "a" } o : StateM Tree (Except Error Unit × Overrides)) blocked =
        ((.error (.notSaved "o.json: Is a directory (os error 21)"), o'), blocked) ∧
      o'.SameAnswers o := by
  have opened : Overrides.Opened Tree "o.json" noneHeld := .opened (t := .empty) rfl
  have first := save_blocked noneHeld rfl { taskId := "a" }
  have again := save_blocked (noneHeld.keeping { taskId := "a" }) rfl { taskId := "a" }
  have shown := failedUpdatesShow_of_opened (opened.saved first)
  exact ⟨_, _, opened.saved first, shown, again, (shown.saves _ _ _ _ _ again).2 rfl⟩

/-- A schedule that could not be saved is held, though nothing was held before and its file was left as it
was. -/
theorem blocked_held :
    ∃ o' : Overrides, Overrides.Opened Tree "o.json" noneHeld ∧
      (Overrides.save { taskId := "a" } noneHeld : StateM Tree (Except Error Unit × Overrides)) blocked =
        ((.error (.notSaved "o.json: Is a directory (os error 21)"), o'), blocked) ∧
      noneHeld.get? "a" = none ∧ (o'.get? "a").isSome = true :=
  ⟨_, .opened (t := .empty) rfl, save_blocked noneHeld rfl { taskId := "a" }, rfl, rfl⟩

end Tasks

end CronCalendar
