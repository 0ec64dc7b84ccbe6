import CronCalendar.Proofs.Tasks.TaskHistories
import CronCalendar.Proofs.Text.ByteOrder

/-!
# Listings of tasks from any file

A listing looks up defaults twice: under the id of a row, where there is no override, and under the id
that the schedule in force carries, to tell whether it is customised. The two ids are one, since an
override is kept under the id of its own task whatever its file says (`taskId_of_inForceOf`). So there
is a row for each configured task, and it is a function of its override or its default
(`rows_of_keyed`). Of a file, only the last entry for the task is seen. A listing is broken off just if
the search for the next run of an enabled task is (`goesBy_of_opened`), as in the last second that is
supported (`lastSecond_breaks_listing`).
-/

namespace CronCalendar.Tasks
set_option autoImplicit false

open Field (Kind)

/-- The schedule that is in force for a configured task when a file lists some schedules: the last of
them that is one of the task, else the default. -/
def inForceFrom (listed : List Schedule) (taskId : String) (d : TaskDefaults) : Schedule :=
  (Schedule.lastOf listed taskId).getD (d.schedule taskId)

/-- Whether a task with a schedule in force is enabled. -/
def shownEnabled (settings : Settings) (s : Schedule) : Bool :=
  (settings.isComponentEnabled s.component || s.runIfComponentDisabled) && !s.disabled

/-- What a listing should say of a configured task that has a schedule in force. Whether it is
customised goes by the texts of its fields and by whether it is disabled. -/
def shownRow (settings : Settings) (z : Zone) (now : Instant) (taskId : String) (d : TaskDefaults)
    (s : Schedule) : TaskRow :=
  let default := d.schedule taskId
  let enabled := shownEnabled settings s
  let next := s.nextRun z now
  { taskId
    component := s.component
    line := s.line
    enabled
    customised := (Kind.all.any fun kind => s.expression kind != default.expression kind) ||
      s.disabled != default.disabled
    next := if enabled then if isNever next then "never" else describeInstant z next else "-" }

/-- The row of a configured task in a listing, which is broken off if the task is enabled and the search for
its next run is. -/
def listedRow (settings : Settings) (z : Zone) (now : Instant) (taskId : String) (d : TaskDefaults)
    (s : Schedule) : Except Error TaskRow :=
  (if shownEnabled settings s then s.answer z now else .ok never).map fun _ =>
    shownRow settings z now taskId d s

/-- The configured tasks with the instants that a clock shows for their rows, given what is in force for
each. -/
def shownTurns (settings : Settings) (inForce : String → TaskDefaults → Schedule) (clock : Clock) :
    List (Instant × String × TaskDefaults) :=
  turns (fun p => shownEnabled settings (inForce p.1 p.2)) clock settings.tasks.entries

/-- The rows of the configured tasks, given what is in force for each. -/
def shownRows (settings : Settings) (z : Zone) (inForce : String → TaskDefaults → Schedule)
    (clock : Clock) : List TaskRow :=
  (shownTurns settings inForce clock).map fun q =>
    shownRow settings z q.1 q.2.1 q.2.2 (inForce q.2.1 q.2.2)

/-- The listing of the configured tasks, given what is in force for each. -/
def listing (settings : Settings) (z : Zone) (inForce : String → TaskDefaults → Schedule)
    (clock : Clock) : Except Error (List TaskRow) :=
  (shownTurns settings inForce clock).mapM fun q =>
    listedRow settings z q.1 q.2.1 q.2.2 (inForce q.2.1 q.2.2)

/-- A schedule without what is recorded of it: whether it was customised, whether it is an override,
and when it last ran. -/
def unrecorded (s : Schedule) : Schedule :=
  { s with customised := false, overridden := false, lastRun := none }

variable {settings : Settings} {lookup : String → Option Zone} {z : Zone} {start t : Tree} {o : Overrides}
  {listed : List Schedule} {taskId : String} {d : TaskDefaults}

theorem shownRow_unrecorded (now : Instant) (s : Schedule) :
    shownRow settings z now taskId d (unrecorded s) = shownRow settings z now taskId d s := rfl

theorem listedRow_unrecorded (now : Instant) (s : Schedule) :
    listedRow settings z now taskId d (unrecorded s) = listedRow settings z now taskId d s := rfl

theorem shownEnabled_unrecorded (s : Schedule) :
    shownEnabled settings (unrecorded s) = shownEnabled settings s := rfl

/-- Listings do not see what is recorded of a schedule. -/
theorem listing_congr {inForce inForce' : String → TaskDefaults → Schedule}
    (alike : ∀ p ∈ settings.tasks.entries, unrecorded (inForce' p.1 p.2) = unrecorded (inForce p.1 p.2))
    (clock : Clock) :
    shownTurns settings inForce' clock = shownTurns settings inForce clock ∧
      shownRows settings z inForce' clock = shownRows settings z inForce clock ∧
      listing settings z inForce' clock = listing settings z inForce clock := by
  have turns : shownTurns settings inForce' clock = shownTurns settings inForce clock :=
    turns_congr fun p mem => by
      rw [← shownEnabled_unrecorded, alike p mem, shownEnabled_unrecorded]
  have entry {q} (mem : q ∈ shownTurns settings inForce clock) := alike q.2 (mem_of_turns mem)
  refine ⟨turns, ?_, ?_⟩
  · rw [shownRows, turns, shownRows]
    refine List.map_congr_left fun q mem => ?_
    rw [← shownRow_unrecorded, entry mem, shownRow_unrecorded]
  · rw [listing, turns, listing]
    refine mapM_congr fun q mem => ?_
    rw [← listedRow_unrecorded, entry mem, listedRow_unrecorded]

/-- The tasks of some settings with some overrides. -/
def withOverrides (settings : Settings) (z : Zone) (o : Overrides) : Tasks :=
  ⟨settings.defaultSchedules, settings.registry, o, z⟩

/-- The tasks that are opened for some settings when a file lists some schedules. -/
def openedWith (settings : Settings) (z : Zone) (listed : List Schedule) : Tasks :=
  withOverrides settings z (.ofSchedules settings.overridesPath listed)

theorem openFor_of_listed (named : lookup settings.timezone = some z)
    (lists : start.listed? settings.overridesPath = some listed) :
    (openFor settings lookup : StateM Tree (Except Error Tasks)) start =
      (.ok (openedWith settings z listed), start) :=
  openFor_run named (Overrides.openAt_eq_ok_iff.2 ⟨rfl, listed, lists, rfl⟩)

/-- The schedule in force for a configured task: its override, or else its default. -/
def inForceOf (o : Overrides) (taskId : String) (d : TaskDefaults) : Schedule :=
  (o.get? taskId).getD (d.schedule taskId)

theorem effective_of_configured (configured : settings.tasks.get? taskId = some d) :
    (withOverrides settings z o).effective taskId = .ok (inForceOf o taskId d) := by
  have registered : settings.registry.default? taskId = some (d.schedule taskId) :=
    default_of_configured configured
  simp only [Tasks.effective, effective?, Overrides.effective?, withOverrides, registered, inForceOf]
  cases o.get? taskId <;> rfl

/-- The schedule in force is one of the task, since overrides are kept under the ids of their tasks. -/
theorem taskId_of_inForceOf (keyed : o.Keyed) (configured : settings.tasks.get? taskId = some d) :
    (inForceOf o taskId d).taskId = taskId := by
  have default := (default_cases (default_of_configured configured)).1
  rw [inForceOf]
  generalize d.schedule taskId = s at default
  cases held : o.get? taskId with
  | some s => exact keyed.keyed held
  | none => exact default

/-- A schedule matches a default if none of its texts differs and it is disabled just if the default
is. -/
theorem not_matchesDefault (s default : Schedule) :
    (!s.matchesDefault default) =
      ((Kind.all.any fun kind => s.expression kind != default.expression kind) ||
        s.disabled != default.disabled) := by
  rw [Schedule.matchesDefault, Bool.not_and, List.not_all_eq_any_not]
  rfl

/-- The row of a configured task shows the schedule that is in force for it. -/
theorem row_of_configured (keyed : o.Keyed) (configured : settings.tasks.get? taskId = some d)
    (now : Instant) :
    (withOverrides settings z o).row now taskId =
      .ok (shownRow settings z now taskId d (inForceOf o taskId d)) := by
  have about := taskId_of_inForceOf keyed configured
  rw [Tasks.row, effective_of_configured configured, shownRow, ← not_matchesDefault]
  generalize inForceOf o taskId d = s at about
  have known : settings.registry.default? s.taskId = some (d.schedule taskId) := by
    rw [about]
    exact default_of_configured configured
  have same := Registry.hasDefaultConfiguration_of_known known
  simp only [bind, Except.bind, withOverrides, same]
  rfl

/-- In a listing, it does so if the search for the next run is answered. -/
theorem answeredRow_of_configured (keyed : o.Keyed) (configured : settings.tasks.get? taskId = some d)
    (now : Instant) :
    (withOverrides settings z o).answeredRow now taskId =
      listedRow settings z now taskId d (inForceOf o taskId d) := by
  rw [answeredRow, effective_of_configured configured, row_of_configured keyed configured, listedRow]
  generalize inForceOf o taskId d = s
  have enabled : (withOverrides settings z o).registry.isEnabled s = shownEnabled settings s := rfl
  simp only [bind, Except.bind, enabled]
  cases shownEnabled settings s <;> rfl

/-- The row of an entry tells whether the task is enabled. -/
theorem enabled_of_row (keyed : o.Keyed) {p : String × TaskDefaults} (mem : p ∈ settings.tasks.entries)
    {now : Instant} {r : TaskRow} (made : (withOverrides settings z o).row now p.1 = .ok r) :
    r.enabled = shownEnabled settings (inForceOf o p.1 p.2) := by
  rw [row_of_configured keyed (NameMap.get?_eq_some_iff.2 mem)] at made
  cases made
  rfl

theorem names_withOverrides :
    (withOverrides settings z o).defaults.names = settings.tasks.entries.map Prod.fst :=
  names_defaultSchedules settings

/-- There is a row for each configured task, in the order of their ids. -/
theorem rows_of_keyed (keyed : o.Keyed) (clock : Clock) :
    (withOverrides settings z o).rows clock = .ok (shownRows settings z (inForceOf o) clock) := by
  rw [Tasks.rows, names_withOverrides, rowsBy_eq_mapM fun p mem now r => enabled_of_row keyed mem]
  exact mapM_ok fun q mem => row_of_configured keyed (NameMap.get?_eq_some_iff.2 (mem_of_turns mem)) q.1

theorem list_of_keyed (keyed : o.Keyed) (clock : Clock) :
    (withOverrides settings z o).list clock = listing settings z (inForceOf o) clock := by
  rw [Tasks.list, names_withOverrides,
    rowsBy_eq_mapM fun p mem now r made => enabled_of_row keyed mem (row_of_answeredRow made)]
  exact mapM_congr fun q mem =>
    answeredRow_of_configured keyed (NameMap.get?_eq_some_iff.2 (mem_of_turns mem)) q.1

/-- A listing comes about just if the search for the next run of each enabled task is answered. -/
theorem exists_listing_iff {inForce : String → TaskDefaults → Schedule} {clock : Clock} :
    (∃ rows, listing settings z inForce clock = .ok rows) ↔
      ∀ q ∈ shownTurns settings inForce clock,
        shownEnabled settings (inForce q.2.1 q.2.2) = true →
          ∃ next, (inForce q.2.1 q.2.2).answer z q.1 = .ok next := by
  rw [listing, exists_mapM_ok_iff]
  refine forall₂_congr fun q _ => ?_
  rw [listedRow]
  generalize inForce q.2.1 q.2.2 = s
  cases shownEnabled settings s with
  | false => simp [Except.map]
  | true => cases s.answer z q.1 <;> simp [Except.map]

/-- What a file lists is in force, but for the mark of an override. -/
theorem unrecorded_of_listed (taskId : String) (d : TaskDefaults) :
    unrecorded (inForceOf (.ofSchedules settings.overridesPath listed) taskId d) =
      unrecorded (inForceFrom listed taskId d) := by
  rw [inForceOf, Overrides.get?_ofSchedules, inForceFrom]
  cases Schedule.lastOf listed taskId <;> rfl

theorem rows_of_openedWith (clock : Clock) :
    (openedWith settings z listed).rows clock = .ok (shownRows settings z (inForceFrom listed) clock) := by
  rw [openedWith, rows_of_keyed Overrides.keyed_ofSchedules,
    (listing_congr (fun p _ => unrecorded_of_listed p.1 p.2) clock).2.1]

theorem list_of_openedWith (clock : Clock) :
    (openedWith settings z listed).list clock = listing settings z (inForceFrom listed) clock := by
  rw [openedWith, list_of_keyed Overrides.keyed_ofSchedules,
    (listing_congr (fun p _ => unrecorded_of_listed p.1 p.2) clock).2.2]

/-- What is in force is the same but for what is recorded of it, if the last schedules of the configured
tasks are. -/
theorem unrecorded_inForceFrom {listed' : List Schedule}
    (alike : ∀ taskId, settings.tasks.contains taskId = true →
      (Schedule.lastOf listed' taskId).map unrecorded = (Schedule.lastOf listed taskId).map unrecorded)
    (p : String × TaskDefaults) (mem : p ∈ settings.tasks.entries) :
    unrecorded (inForceFrom listed' p.1 p.2) = unrecorded (inForceFrom listed p.1 p.2) := by
  have configured : settings.tasks.contains p.1 = true := by
    rw [NameMap.contains, NameMap.get?_eq_some_iff.2 mem, Option.isSome_some]
  rw [inForceFrom, inForceFrom, ← Option.getD_map unrecorded, ← Option.getD_map unrecorded,
    alike p.1 configured]

/-- Tasks go by what a file lists. -/
structure GoesBy (settings : Settings) (lookup : String → Option Zone) (z : Zone) (start : Tree)
    (listed : List Schedule) (k : Tasks) : Prop where
  lists : start.listed? settings.overridesPath = some listed
  opens : (openFor settings lookup : StateM Tree (Except Error Tasks)) start = (.ok k, start)
  /-- There is one row for each configured task, which shows the last schedule of the file for the task, or
  else the default, at the instant that the clock shows for it. -/
  rows : ∀ clock, k.rows clock = .ok (shownRows settings z (inForceFrom listed) clock)
  /-- They come in the order of the bytes of their ids. -/
  ordered : ∀ clock rows, k.rows clock = .ok rows → rows.map TaskRow.taskId = settings.tasks.names ∧
    (rows.map fun row => Text.bytes row.taskId).Pairwise (· < ·)
  /-- A listing consists of them, or is broken off. -/
  listing : ∀ clock, k.list clock = k.rows clock ∨ ∃ e, k.list clock = .error e ∧ e.isBreak = true
  /-- It is not broken off just if the search for the next run of each enabled task is answered. -/
  answered : ∀ clock, (∃ rows, k.list clock = .ok rows) ↔
    ∀ q ∈ shownTurns settings (inForceFrom listed) clock,
      shownEnabled settings (inForceFrom listed q.2.1 q.2.2) = true →
        ∃ next, (inForceFrom listed q.2.1 q.2.2).answer z q.1 = .ok next
  /-- Nor is it while the clock keeps away from the ends of the supported years. -/
  away : z.RarelyChanged → ∀ clock, clock.KeepsAway z → k.list clock = k.rows clock
  /-- Another file gives the same listings if its last schedules for the configured tasks are the
  same but for what is recorded of them. -/
  apart : ∀ start' listed', start'.listed? settings.overridesPath = some listed' →
    (∀ taskId, settings.tasks.contains taskId = true →
      (Schedule.lastOf listed' taskId).map unrecorded =
        (Schedule.lastOf listed taskId).map unrecorded) →
    ∃ k', (openFor settings lookup : StateM Tree (Except Error Tasks)) start' = (.ok k', start') ∧
      ∀ clock, k'.rows clock = k.rows clock ∧ k'.list clock = k.list clock

/-- Whatever an overrides file contains, if it opens, then the tasks open and go by what it lists. -/
theorem goesBy_of_opened (named : lookup settings.timezone = some z)
    (opened : (Overrides.openAt settings.overridesPath : StateM Tree (Except Error Overrides)) start =
      (.ok o, t)) :
    ∃ listed k, GoesBy settings lookup z start listed k := by
  obtain ⟨-, listed, lists, -⟩ := Overrides.openAt_eq_ok_iff.1 opened
  refine ⟨listed, openedWith settings z listed, ?_⟩
  constructor
  case lists => exact lists
  case opens => exact openFor_of_listed named lists
  case rows => exact rows_of_openedWith
  case ordered =>
    intro clock rows ran
    rw [rows_of_openedWith] at ran
    cases ran
    rw [shownRows, shownTurns, List.map_map, List.map_map, map_turns (h := Prod.fst) fun _ _ => rfl,
      map_turns (h := fun p => Text.bytes p.1) fun _ _ => rfl, List.pairwise_map]
    exact ⟨rfl, settings.tasks.ascending.imp Text.bytes_lt_iff.2⟩
  case listing => exact list_cases _
  case answered =>
    intro clock
    rw [list_of_openedWith]
    exact exists_listing_iff
  case away => exact fun rare clock away => list_of_keepsAway rare away
  case apart =>
    intro start' listed' lists' alike
    refine ⟨_, openFor_of_listed named lists', fun clock => ?_⟩
    obtain ⟨-, rows, list⟩ := listing_congr (z := z) (unrecorded_inForceFrom alike) clock
    rw [rows_of_openedWith, rows_of_openedWith, list_of_openedWith, list_of_openedWith, rows, list]
    exact ⟨rfl, rfl⟩

/-- A file that lists one task twice, the second time with its default but marked as customised, and
another task that is not configured. -/
def edited : Tree :=
  ⟨[(["data"], .directory), (["data", "overrides.json"], .file
    ("[\x7b\"task_id\": \"sync\", \"minute\": \"7\"\x7d, [\"ghost\"], " ++
      "\x7b\"task_id\": \"sync\", \"minute\": \"*/5\", \"customised\": true\x7d]"))]⟩

/-- The schedules that it lists. -/
def editedListed : List Schedule := (edited.listed? twoTasks.overridesPath).getD []

/-- Two tasks are listed, the first one with its second entry, and neither as customised. -/
theorem edited_listed :
    ∃ o k, Zone.named? twoTasks.timezone = some .utc ∧
      (Overrides.openAt twoTasks.overridesPath : StateM Tree (Except Error Overrides)) edited =
        (.ok o, edited) ∧
      GoesBy twoTasks Zone.named? .utc edited editedListed k ∧
      ∀ clock, (k.rows clock).map (List.map fun row => (row.taskId, row.line, row.customised)) =
        .ok [("backup", "* 2 * * *", false), ("sync", "*/5 * * * *", false)] := by
  have named : Zone.named? twoTasks.timezone = some .utc := rfl
  have lists : (edited.listed? twoTasks.overridesPath).isSome = true := by decide +kernel
  obtain ⟨listed, lists⟩ := Option.isSome_iff_exists.1 lists
  have opened := Overrides.openAt_eq_ok_iff.2 ⟨rfl, listed, lists, rfl⟩
  obtain ⟨listed, k, goesBy⟩ := goesBy_of_opened named opened
  obtain rfl : editedListed = listed := by rw [editedListed, goesBy.lists, Option.getD_some]
  have columns : (twoTasks.tasks.entries.map fun p =>
      let s := inForceFrom editedListed p.1 p.2
      (p.1, s.line, !s.matchesDefault (p.2.schedule p.1))) =
        [("backup", "* 2 * * *", false), ("sync", "*/5 * * * *", false)] := by decide +kernel
  refine ⟨_, k, named, opened, goesBy, fun clock => ?_⟩
  rw [goesBy.rows clock, Except.map, shownRows, List.map_map, ← columns]
  refine congrArg Except.ok (map_turns fun now p => ?_)
  dsimp only [Function.comp_apply]
  generalize inForceFrom editedListed p.1 p.2 = s
  rw [shownRow, ← not_matchesDefault]

/-- A task that runs in the night of Tokyo. -/
def nightlyInTokyo : Settings :=
  { timezone := "Asia/Tokyo", tasks := .ofList [("report", { hour := "2" })] }

/-- In the last second that is supported, the day has long begun in Tokyo. Its date is out of range, and the
search for the next night breaks the listing off. -/
theorem lastSecond_breaks_listing :
    ∃ now k, now.seconds = lastSecond ∧ Zone.named? nightlyInTokyo.timezone = some .tokyo ∧
      (openFor nightlyInTokyo Zone.named? : StateM Tree (Except Error Tasks)) .empty = (.ok k, .empty) ∧
      k.list (.fixed now) = .error .dateOutOfRange := by
  have lists : Tree.empty.listed? nightlyInTokyo.overridesPath = some [] := by decide +kernel
  have named : Zone.named? nightlyInTokyo.timezone = some .tokyo := by decide +kernel
  refine ⟨⟨lastSecond, 0, by decide, by decide, by decide⟩, _, rfl, named, openFor_of_listed named lists, ?_⟩
  rw [list_of_openedWith]
  decide +kernel

end CronCalendar.Tasks
