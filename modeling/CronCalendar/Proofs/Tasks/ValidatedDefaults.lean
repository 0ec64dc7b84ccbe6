import CronCalendar.Proofs.Schedule.SameTexts
import CronCalendar.Proofs.Search.Arrivals
import CronCalendar.Proofs.Search.Termination
import CronCalendar.Proofs.Tasks.Findings

/-!
# Validated defaults

The validation of a task tries its fields with the least value of the calendar in place of each random one,
while the registry draws the values. The fields are valid in either case (`isSatisfiable_withDraws`), so
whether a default fires is a matter of its days and months (`Timetable.Coincides`); in every zone that is
clear at first the search from the epoch finds a run if they coincide, and only then
(`approved_fires_iff`). For a fixed day and a fixed month the trial decides that, for a random one it decides
nothing: the 31st of a random month is approved for the sake of January, and is drawn for February
(`thirtyFirst_never_fires`).
-/

namespace CronCalendar
set_option autoImplicit false

open Field (Kind Expr)

/-- Whether days and months coincide is up to their values and to whether the weekday is restricted. -/
theorem Schedule.coincides_of_alike {s s' : Schedule} (days : s.values .day = s'.values .day)
    (months : s.values .month = s'.values .month)
    (weekday : (s.field .dayOfWeek).isAny = (s'.field .dayOfWeek).isAny)
    (coincides : s'.timetable.Coincides) : s.timetable.Coincides := by
  simp only [Timetable.Coincides, timetable, days, months, weekday] at *
  exact coincides

/-- The search from the epoch is answered. -/
theorem Schedule.answer_epoch (s : Schedule) {z : Zone} (rare : z.RarelyChanged) :
    s.answer z Instant.epoch = .ok (s.nextRun z Instant.epoch) := by
  have epoch : (z.wallAt Instant.epoch).count = 0 + z.offsetAt 0 := rfl
  have bounds := Zone.offsetAt_bounds rare 0
  have number : (z.wallAt Instant.epoch).dayNumber = (z.wallAt Instant.epoch).count / 86400 := rfl
  have begun : Date.firstDay (12 * 1971) = 365 := by decide
  have year : ¬ 1971 ≤ (z.wallAt Instant.epoch).date.year := fun le => by
    have := Date.firstDay_le_iff_year.2 le
    omega
  refine answer_eq_nextRun s rare (by decide) ?_
  have last : Date.lastYear = 262142 := rfl
  unfold Search.yearLimit
  omega

namespace TaskDefaults

variable {t : TaskDefaults} {id : String} {kind : Kind} {draws other : Kind → Nat}

theorem field_withDraws (kind : Kind) :
    (t.withDraws id draws).field kind = .ofText (drawnText draws kind (t.field kind)) :=
  Schedule.field_of_texts (fields_withDraws t id draws) kind

/-- Each field is random or matches something. -/
def IsValid (t : TaskDefaults) : Prop :=
  ∀ kind : Kind, Field.isRandom (t.field kind) = true ∨
    (kind.evaluate (.ofText (t.field kind))).isEmpty = false

theorem isValid_iff : t.IsValid ↔ t.emptyKinds = [] := by
  simp only [List.eq_nil_iff_forall_not_mem, mem_emptyKinds, Classical.not_not]
  rfl

/-- Where each field is valid, the schedule can run, whatever is drawn. -/
theorem isSatisfiable_withDraws (valid : t.IsValid)
    (within : ∀ kind : Kind, kind.calendarBounds.Contains (draws kind)) :
    (t.withDraws id draws).isSatisfiable = true := by
  rw [Schedule.isSatisfiable_iff]
  intro kind
  rw [Schedule.values, field_withDraws, evaluate_drawnText (within kind)]
  exact valid kind

/-- A field that is not random is the same whatever is drawn, -/
theorem values_withDraws (fixed : Field.isRandom (t.field kind) = false) :
    (t.withDraws id draws).values kind = kind.evaluate (.ofText (t.field kind)) := by
  rw [Schedule.values, field_withDraws, drawnText, if_neg (by simp [fixed])]

/-- and every field is restricted or not whatever is drawn. -/
theorem isAny_withDraws (kind : Kind) :
    ((t.withDraws id draws).field kind).isAny = ((t.withDraws id other).field kind).isAny := by
  rw [field_withDraws, field_withDraws, drawnText, drawnText]
  split
  · rw [Expr.ofText_numeral, Expr.ofText_numeral]
    rfl
  · rfl

/-- Where neither the day nor the month is random, it does not matter what is drawn. -/
theorem coincides_withDraws (day : Field.isRandom (t.field .day) = false)
    (month : Field.isRandom (t.field .month) = false)
    (coincides : (t.withDraws id other).timetable.Coincides) :
    (t.withDraws id draws).timetable.Coincides := by
  have days : (t.withDraws id draws).values .day = (t.withDraws id other).values .day := by
    rw [values_withDraws day, values_withDraws day]
  have months : (t.withDraws id draws).values .month = (t.withDraws id other).values .month := by
    rw [values_withDraws month, values_withDraws month]
  exact Schedule.coincides_of_alike days months (isAny_withDraws .dayOfWeek) coincides

end TaskDefaults

namespace Settings

variable {s : Settings} {lookup : String → Option Zone} {z : Zone} {id : String} {t : TaskDefaults}

/-- Nothing is wrong with valid fields, -/
theorem fieldIssues_eq_nil_iff : fieldIssues id t = [] ↔ t.IsValid := by
  rw [fieldIssues_eq, List.map_eq_nil_iff, TaskDefaults.isValid_iff]

/-- and with an entry whose trial fires as well. -/
theorem taskIssues_eq_nil_iff : taskIssues z id t = [] ↔
    t.IsValid ∧ (concreteSchedule id t).nextRun z Instant.epoch ≠ never := by
  rw [← fieldIssues_eq_nil_iff, taskIssues]
  cases fieldIssues id t with
  | nil =>
    simp only [neverIssues, isNever, beq_iff_eq]
    split
    · rename_i stops
      simp [stops]
    · rename_i real
      simp [real]
  | cons first rest => simp

/-- The trial runs like the default schedule with the least values drawn. -/
theorem nextRun_concreteSchedule (z : Zone) (now : Instant) : (concreteSchedule id t).nextRun z now =
    (t.withDraws id fun kind => kind.calendarBounds.least).nextRun z now := by
  have trial : concreteSchedule id t = (Kind.all.map fun kind =>
      (kind, concreteText kind (t.field kind))).foldl (fun s p => s.setField p.1 p.2) { taskId := id } := by
    rw [concreteSchedule, TaskDefaults.fields, List.foldl_map, List.foldl_map]
  have field (kind : Kind) : (concreteSchedule id t).field kind =
      (t.withDraws id fun kind => kind.calendarBounds.least).field kind := by
    rw [trial, Schedule.foldl_setField, TaskDefaults.field_withDraws, Schedule.field, Fields.get_ofTexts]
    rfl
  refine (Schedule.runsAlike_of_fields (fun kind => ?_) fun kind => ?_).nextRun z now
  · rw [Schedule.values, field, Schedule.values]
  · rw [field]

/-- The default of an entry without issues is one with some drawn values. With any drawn values its search is
answered, and it fires exactly if its days and months coincide, which they do whatever is drawn if neither of
them is random. -/
theorem approved_fires_iff (named : lookup s.timezone = some z) (clear : z.ClearAtFirst)
    (entry : s.tasks.get? id = some t)
    (approved : taskIssues ((lookup s.timezone).getD Zone.utc) id t = []) :
    (∃ draws : Kind → Nat, (∀ kind : Kind, kind.calendarBounds.Contains (draws kind)) ∧
        s.registry.default? id = some (t.withDraws id draws)) ∧
      (∀ draws : Kind → Nat, (∀ kind : Kind, kind.calendarBounds.Contains (draws kind)) →
        (t.withDraws id draws).answer z Instant.epoch = .ok ((t.withDraws id draws).nextRun z Instant.epoch) ∧
          ((t.withDraws id draws).nextRun z Instant.epoch ≠ never ↔
            (t.withDraws id draws).timetable.Coincides)) ∧
      (Field.isRandom t.day = false → Field.isRandom t.month = false → ∀ draws : Kind → Nat,
        (t.withDraws id draws).timetable.Coincides) := by
  rw [named, Option.getD_some] at approved
  obtain ⟨valid, trial⟩ := taskIssues_eq_nil_iff.1 approved
  have fires (draws : Kind → Nat) (within : ∀ kind : Kind, kind.calendarBounds.Contains (draws kind)) :
      (t.withDraws id draws).nextRun z Instant.epoch ≠ never ↔
        (t.withDraws id draws).timetable.Coincides := by
    have satisfiable : (t.withDraws id draws).isSatisfiable = true :=
      TaskDefaults.isSatisfiable_withDraws valid within
    rw [Timetable.coincides_iff (Schedule.timetable_proper satisfiable)]
    exact Schedule.nextRun_epoch_ne_never_iff_of_clear clear satisfiable
  refine ⟨?_, fun draws within => ⟨Schedule.answer_epoch _ clear.rare, fires draws within⟩, ?_⟩
  · obtain ⟨draws, within, drawn⟩ := t.exists_schedule id
    have registered : s.defaultSchedules.get? id = some (t.schedule id) := by
      rw [defaultSchedules, NameMap.get?_map, entry, Option.map_some]
    rw [drawn] at registered
    exact ⟨draws, within, registered⟩
  · intro day month draws
    have least (kind : Kind) : kind.calendarBounds.Contains kind.calendarBounds.least :=
      ⟨Nat.le_refl _, kind.calendarBounds_ordered⟩
    rw [nextRun_concreteSchedule] at trial
    exact TaskDefaults.coincides_withDraws day month ((fires _ least).1 trial)

/-- A task at a random minute of the night, and one on the 31st of a random month. -/
def nightlyAndThirtyFirst : Settings :=
  { tasks := .ofList [("backup", { minute := "R", hour := "2" }),
      ("leap", { minute := "0", hour := "0", day := "31", month := "R" })] }

/-- The task of the night is approved, and fires whatever is drawn. -/
theorem nightly_fires :
    ∃ t, Zone.named? nightlyAndThirtyFirst.timezone = some .utc ∧ Zone.utc.ClearAtFirst ∧
      nightlyAndThirtyFirst.tasks.get? "backup" = some t ∧ taskIssues .utc "backup" t = [] ∧
      ∀ draws : Kind → Nat, (∀ kind : Kind, kind.calendarBounds.Contains (draws kind)) →
        (t.withDraws "backup" draws).nextRun .utc Instant.epoch ≠ never := by
  have named : Zone.named? nightlyAndThirtyFirst.timezone = some .utc := by decide +kernel
  have entry : nightlyAndThirtyFirst.tasks.get? "backup" = some { minute := "R", hour := "2" } := by
    decide +kernel
  have approved : taskIssues .utc "backup" { minute := "R", hour := "2" } = [] := by decide +kernel
  have clear : Zone.utc.ClearAtFirst := Zone.clearAtFirst_of_named named
  obtain ⟨-, fires, fixed⟩ := approved_fires_iff named clear entry (named ▸ approved)
  refine ⟨_, named, clear, entry, approved, fun draws within => (fires draws within).2.2 ?_⟩
  exact fixed (by decide +kernel) (by decide +kernel) draws

/-- The task of the 31st is approved, but its default never fires: it is one in February. -/
theorem thirtyFirst_never_fires :
    ∃ t, Zone.named? nightlyAndThirtyFirst.timezone = some .utc ∧
      nightlyAndThirtyFirst.tasks.get? "leap" = some t ∧ taskIssues .utc "leap" t = [] ∧
      ∃ default, nightlyAndThirtyFirst.registry.default? "leap" = some default ∧
        default.line = "0 0 31 2 *" ∧ default.nextRun .utc Instant.epoch = never := by
  refine ⟨{ minute := "0", hour := "0", day := "31", month := "R" }, by decide +kernel, by decide +kernel,
    by decide +kernel, _, rfl, by decide +kernel, by decide +kernel⟩

end Settings

end CronCalendar
