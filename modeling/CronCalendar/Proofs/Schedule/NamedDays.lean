import CronCalendar.Schedule.Timetable
import CronCalendar.Proofs.Calendar.Readings
import CronCalendar.Proofs.Field.Bounds

/-!
# Proper timetables and the days they name

The timetable of a schedule that can run has members in every field, and only values of the
calendar (`Schedule.timetable_proper`); the search is only ever asked about such timetables. Whether
a minute is named falls apart into its date, its hour and its minute (`Timetable.names_iff`).
-/

namespace CronCalendar
set_option autoImplicit false

/-- A timetable whose fields all match something, and match only values of the calendar. -/
structure Timetable.Proper (t : Timetable) : Prop where
  minutes : t.minutes.isEmpty = false
  hours : t.hours.isEmpty = false
  days : t.days.isEmpty = false
  months : t.months.isEmpty = false
  weekdays : t.weekdays.isEmpty = false
  minute_lt : ∀ m ∈ t.minutes, m < 60
  hour_lt : ∀ h ∈ t.hours, h < 24
  day_bounds : ∀ d ∈ t.days, 1 ≤ d ∧ d ≤ 31
  month_bounds : ∀ m ∈ t.months, 1 ≤ m ∧ m ≤ 12
  weekday_lt : ∀ d ∈ t.weekdays, d < 7

theorem Schedule.isSatisfiable_iff {s : Schedule} :
    s.isSatisfiable = true ↔ ∀ kind, (s.values kind).isEmpty = false := by
  simp only [isSatisfiable, isFieldValid, List.all_eq_true, Bool.not_eq_true']
  exact ⟨fun h kind => h kind (by cases kind <;> decide), fun h kind _ => h kind⟩

theorem Schedule.timetable_proper {s : Schedule} (satisfiable : s.isSatisfiable = true) :
    s.timetable.Proper where
  minutes := isSatisfiable_iff.1 satisfiable .minute
  hours := isSatisfiable_iff.1 satisfiable .hour
  days := isSatisfiable_iff.1 satisfiable .day
  months := isSatisfiable_iff.1 satisfiable .month
  weekdays := isSatisfiable_iff.1 satisfiable .dayOfWeek
  minute_lt _ h := Nat.lt_succ_of_le (Field.Kind.evaluate_within h).2
  hour_lt _ h := Nat.lt_succ_of_le (Field.Kind.evaluate_within h).2
  day_bounds _ h := Field.Kind.evaluate_within h
  month_bounds _ h := Field.Kind.evaluate_within h
  weekday_lt _ h := Nat.lt_succ_of_le (Field.Kind.evaluate_within h).2

namespace Timetable

/-- Whether a day, given by its number, is named by the month and the days. -/
def namesDate (t : Timetable) (n : Int) : Bool :=
  t.months.contains (Date.ofDayNumber n).month &&
    t.namesDay (Date.ofDayNumber n).day (Date.weekdayOf n)

theorem namesDate_iff {t : Timetable} {n : Int} :
    t.namesDate n = true ↔ (Date.ofDayNumber n).month ∈ t.months ∧
      t.namesDay (Date.ofDayNumber n).day (Date.weekdayOf n) = true := by
  rw [namesDate, Bool.and_eq_true, Values.contains_iff]

/-- A wall time is named when its date, its hour and its minute are. -/
theorem names_iff {t : Timetable} {w : WallTime} :
    t.names w = true ↔ t.namesDate w.dayNumber = true ∧ w.hour ∈ t.hours ∧ w.minute ∈ t.minutes := by
  rw [namesDate_iff]
  simp only [names, WallTime.date, WallTime.weekday, Bool.and_eq_true, Values.contains_iff]
  constructor
  · rintro ⟨⟨⟨day, minute⟩, hour⟩, month⟩
    exact ⟨⟨month, day⟩, hour, minute⟩
  · rintro ⟨⟨month, day⟩, hour, minute⟩
    exact ⟨⟨⟨day, minute⟩, hour⟩, month⟩

/-- The rule for days in three cases, as memberships. -/
theorem namesDay_iff {t : Timetable} {day weekday : Nat} :
    t.namesDay day weekday = true ↔
      (t.anyWeekday = true ∧ day ∈ t.days) ∨
      (t.anyWeekday = false ∧ t.anyDay = true ∧ weekday ∈ t.weekdays) ∨
      (t.anyWeekday = false ∧ t.anyDay = false ∧ (day ∈ t.days ∨ weekday ∈ t.weekdays)) := by
  unfold namesDay
  cases t.anyWeekday <;> cases t.anyDay <;> simp [Values.contains_iff]

/-- Some minute of a named day is named. -/
theorem exists_names {t : Timetable} (proper : t.Proper) {n : Int} (named : t.namesDate n = true) :
    ∃ w : WallTime, w.dayNumber = n ∧ t.names w = true := by
  have hour := Values.nextFrom_mem proper.hours 0
  have minute := Values.nextFrom_mem proper.minutes 0
  obtain ⟨day, hour_eq, minute_eq, -⟩ := @WallTime.parts_eq
    ⟨86400 * n + 3600 * (t.hours.nextFrom 0 : Int) + 60 * (t.minutes.nextFrom 0 : Int) + (0 : Nat)⟩
    n (t.hours.nextFrom 0) (t.minutes.nextFrom 0) 0 rfl (proper.hour_lt _ hour)
    (proper.minute_lt _ minute) (by decide)
  refine ⟨_, day, ?_⟩
  rw [names_iff, day, hour_eq, minute_eq]
  exact ⟨named, hour, minute⟩

end Timetable

end CronCalendar
