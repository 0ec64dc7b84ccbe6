import CronCalendar.Proofs.Calendar.Readings
import CronCalendar.Proofs.Search.DayCounting

/-!
# Where a step sends the clock

What the clock shows decides which part of a step does the moving, and to which wall time: `aim?`
is that part of the search, apart from any zone. It answers nothing exactly where the date and the
hour are named (`aim_eq_none_iff`), every aim is a full hour ahead of the clock (`aim_ahead`), and the
minutes between the clock and its aim are not named, apart from those of the days that the search
leaps over (`aim_passes`).
-/

namespace CronCalendar.Search
set_option autoImplicit false

/-- A wall time to which the search moves on: the start of a day, or a full hour. -/
inductive Aim where
  | day (n : Int)
  | hour (n : Int) (h : Nat)

/-- The wall time of an aim. -/
def Aim.wall : Aim → WallTime
  | .day n => WallTime.ofDay n 0
  | .hour n h => WallTime.atHour n h

/-- The month that the search moves on to, by its number. -/
def nextMonth (t : Timetable) (d : Date) : Int :=
  let next := t.months.nextFrom d.month
  12 * (if next < d.month then d.year + 1 else d.year) + next - 1

/-- The day of the hour that the search moves on to. -/
def hourDay (t : Timetable) (w : WallTime) : Int :=
  if t.hours.nextFrom w.hour < w.hour then w.dayNumber + 1 else w.dayNumber

/-- Where the search moves on to from a clock that shows `w`, unless the date and the hour fit. -/
def aim? (t : Timetable) (w : WallTime) : Option Aim :=
  if t.months.nextFrom w.date.month ≠ w.date.month then
    some (.day (Date.firstDay (nextMonth t w.date)))
  else if dayOffset t w.date w.weekday ≠ 0 then
    some (.day (w.dayNumber + (dayOffset t w.date w.weekday : Nat)))
  else if t.hours.nextFrom w.hour ≠ w.hour then
    some (.hour (hourDay t w) (t.hours.nextFrom w.hour))
  else none

variable {t : Timetable} {w : WallTime}

/-- The four ways in which a step can go on. -/
theorem aim_cases (proper : t.Proper) (w : WallTime) :
    (w.date.month ∉ t.months ∧ aim? t w = some (.day (Date.firstDay (nextMonth t w.date)))) ∨
    (w.date.month ∈ t.months ∧ 0 < dayOffset t w.date w.weekday ∧
      aim? t w = some (.day (w.dayNumber + (dayOffset t w.date w.weekday : Nat)))) ∨
    (t.namesDate w.dayNumber = true ∧ w.hour ∉ t.hours ∧
      aim? t w = some (.hour (hourDay t w) (t.hours.nextFrom w.hour))) ∨
    (t.namesDate w.dayNumber = true ∧ w.hour ∈ t.hours ∧ aim? t w = none) := by
  have month := Values.nextFrom_eq_self_iff proper.months (n := w.date.month)
  have hour := Values.nextFrom_eq_self_iff proper.hours (n := w.hour)
  have day := dayOffset_eq_zero_iff proper (Date.isValid_ofDayNumber w.dayNumber)
    (weekdayOf_lt w.dayNumber)
  have names := Timetable.namesDate_iff (t := t) (n := w.dayNumber)
  unfold aim?
  simp only [WallTime.date, WallTime.weekday] at *
  by_cases month' : (Date.ofDayNumber w.dayNumber).month ∈ t.months
  · by_cases day' : dayOffset t (Date.ofDayNumber w.dayNumber) (Date.weekdayOf w.dayNumber) = 0
    · have names' := names.2 ⟨month', day.1 day'⟩
      by_cases hour' : w.hour ∈ t.hours
      · simp [names', month.2 month', day', hour.2 hour', hour']
      · simp [names', month.2 month', day', mt hour.1 hour', hour']
    · refine Or.inr (Or.inl ⟨month', Nat.pos_of_ne_zero day', ?_⟩)
      simp [month.2 month', day']
  · simp [mt month.1 month', month']

/-- On a named day, only the hour can be missing. -/
theorem aim_of_namesDate (proper : t.Proper) (named : t.namesDate w.dayNumber = true) :
    (w.hour ∉ t.hours ∧ aim? t w = some (.hour (hourDay t w) (t.hours.nextFrom w.hour))) ∨
      (w.hour ∈ t.hours ∧ aim? t w = none) := by
  obtain ⟨month, day⟩ := Timetable.namesDate_iff.1 named
  have offset : dayOffset t w.date w.weekday = 0 :=
    (dayOffset_eq_zero_iff proper (Date.isValid_ofDayNumber w.dayNumber)
      (weekdayOf_lt w.dayNumber)).2 day
  rcases aim_cases proper w with ⟨other, -⟩ | ⟨-, some, -⟩ | ⟨-, hour, aim⟩ | ⟨-, hour, aim⟩
  · exact absurd month other
  · omega
  · exact Or.inl ⟨hour, aim⟩
  · exact Or.inr ⟨hour, aim⟩

/-- The search stands still exactly where the date and the hour are named. -/
theorem aim_eq_none_iff (proper : t.Proper) :
    aim? t w = none ↔ t.namesDate w.dayNumber = true ∧ w.hour ∈ t.hours := by
  constructor
  · intro h
    rcases aim_cases proper w with ⟨-, h'⟩ | ⟨-, -, h'⟩ | ⟨-, -, h'⟩ | ⟨named, hour, -⟩
    · exact nomatch h.symm.trans h'
    · exact nomatch h.symm.trans h'
    · exact nomatch h.symm.trans h'
    · exact ⟨named, hour⟩
  · rintro ⟨named, hour⟩
    rcases aim_of_namesDate proper named with ⟨other, -⟩ | ⟨-, aim⟩
    · exact absurd hour other
    · exact aim

/-- The three parts of a step that move the clock on. -/
theorem eq_of_aim (proper : t.Proper) {a : Aim} (h : aim? t w = some a) :
    (w.date.month ∉ t.months ∧ a = .day (Date.firstDay (nextMonth t w.date))) ∨
    (w.date.month ∈ t.months ∧ a = .day (w.dayNumber + (dayOffset t w.date w.weekday : Nat)) ∧
      0 < dayOffset t w.date w.weekday) ∨
    (t.namesDate w.dayNumber = true ∧ w.hour ∉ t.hours ∧
      a = .hour (hourDay t w) (t.hours.nextFrom w.hour)) := by
  rcases aim_cases proper w with ⟨month, h'⟩ | ⟨month, some, h'⟩ | ⟨date, hour, h'⟩ | ⟨-, -, h'⟩
  · exact Or.inl ⟨month, Option.some.inj (h.symm.trans h')⟩
  · exact Or.inr (Or.inl ⟨month, Option.some.inj (h.symm.trans h'), some⟩)
  · exact Or.inr (Or.inr ⟨date, hour, Option.some.inj (h.symm.trans h')⟩)
  · exact nomatch h.symm.trans h'

theorem nextMonth_lt (proper : t.Proper) {d : Date} (valid : d.isValid = true)
    (h : d.month ∉ t.months) : d.monthNumber < nextMonth t d := by
  have bounds := Date.isValid_iff.1 valid
  have found := proper.month_bounds _ (Values.nextFrom_mem proper.months d.month)
  have moved := mt (Values.nextFrom_eq_self_iff proper.months).1 h
  unfold nextMonth Date.monthNumber
  simp only
  split <;> omega

/-- No month is named from one that is not to the next that the search moves on to. -/
theorem month_not_mem (proper : t.Proper) {d e : Date} (valid : d.isValid = true)
    (valid' : e.isValid = true) (from_le : d.monthNumber ≤ e.monthNumber)
    (lt : e.monthNumber < nextMonth t d) : e.month ∉ t.months := by
  have bounds := Date.isValid_iff.1 valid
  have bounds' := Date.isValid_iff.1 valid'
  have found := proper.month_bounds _ (Values.nextFrom_mem proper.months d.month)
  unfold nextMonth at lt
  unfold Date.monthNumber at from_le lt
  simp only at lt
  split at lt
  · exact Values.not_mem_of_nextFrom_lt proper.months (n := d.month) (by omega) (by omega)
  · exact Values.not_mem_of_lt_nextFrom proper.months (n := d.month) (by omega) (by omega)

/-- Every aim is a full hour ahead of the clock. -/
theorem aim_ahead (proper : t.Proper) {a : Aim} (h : aim? t w = some a) :
    w.count < a.wall.count ∧ a.wall.count % 3600 = 0 := by
  have shown := w.count_eq
  have hour_lt := w.hour_lt
  have minute_lt := w.minute_lt
  have second_lt := w.second_lt
  rcases eq_of_aim proper h with ⟨month, rfl⟩ | ⟨-, rfl, some⟩ | ⟨-, hour, rfl⟩
  · have later := nextMonth_lt proper (Date.isValid_ofDayNumber w.dayNumber) month
    have : w.dayNumber < Date.firstDay (nextMonth t w.date) :=
      Int.not_le.1 fun le => absurd (Date.firstDay_le_iff.1 le) (Int.not_le.2 later)
    rw [Aim.wall, WallTime.count_ofDay]
    omega
  · rw [Aim.wall, WallTime.count_ofDay]
    omega
  · have moved := mt (Values.nextFrom_eq_self_iff proper.hours).1 hour
    rw [Aim.wall, WallTime.count_atHour, hourDay]
    split <;> omega

/-- Every aim is less than a year ahead of the clock. -/
theorem aim_near (proper : t.Proper) {a : Aim} (h : aim? t w = some a) :
    a.wall.count < w.count + 86400 * 342 := by
  have shown := w.count_eq
  have bounds := Date.isValid_iff.1 (Date.isValid_ofDayNumber w.dayNumber)
  have month_bounds := proper.month_bounds _ (Values.nextFrom_mem proper.months w.date.month)
  have day_bounds := proper.day_bounds _ (Values.nextFrom_mem proper.days w.date.day)
  have week := proper.weekday_lt _ (Values.nextFrom_mem proper.weekdays w.weekday)
  have hour := proper.hour_lt _ (Values.nextFrom_mem proper.hours w.hour)
  rcases eq_of_aim proper h with ⟨-, rfl⟩ | ⟨-, rfl, -⟩ | ⟨-, -, rfl⟩
  · have start := (@Date.firstDay_le_iff w.date.monthNumber w.dayNumber).2 (Int.le_refl _)
    have far := Date.firstDay_le_add w.date.monthNumber (nextMonth t w.date - w.date.monthNumber).toNat
    have later : w.date.monthNumber ≤ nextMonth t w.date ∧
        nextMonth t w.date ≤ w.date.monthNumber + 11 := by
      unfold nextMonth Date.monthNumber WallTime.date at *
      simp only
      split <;> omega
    rw [show w.date.monthNumber + ((nextMonth t w.date - w.date.monthNumber).toNat : Int) =
      nextMonth t w.date by omega] at far
    rw [Aim.wall, WallTime.count_ofDay]
    omega
  · have length := Date.daysInMonth_bounds w.date.year w.date.month
    have counted : dayOffset t w.date w.weekday ≤ 62 := by
      unfold dayOffset daysToNamedDay daysToNamedWeekday
      simp only
      split
      · split <;> omega
      · split
        · split <;> omega
        · exact Nat.le_trans (Nat.min_le_left _ _) (by split <;> omega)
    rw [Aim.wall, WallTime.count_ofDay]
    omega
  · rw [Aim.wall, WallTime.count_atHour, hourDay]
    split <;> omega

/-- No minute is named between the clock and its aim, unless its day is one that the search leaps
over. -/
theorem aim_passes (proper : t.Proper) {a : Aim} {v : WallTime} (h : aim? t w = some a)
    (from_le : w.count / 60 ≤ v.count / 60) (lt : v.count < a.wall.count)
    (named : t.names v = true) : LeaptOver t v.date := by
  obtain ⟨date, hour, -⟩ := Timetable.names_iff.1 named
  have shown := w.count_eq
  have shown' := v.count_eq
  have := w.hour_lt
  have := w.minute_lt
  have := w.second_lt
  have := v.hour_lt
  have := v.minute_lt
  have := v.second_lt
  rcases eq_of_aim proper h with ⟨month, rfl⟩ | ⟨month, rfl, -⟩ | ⟨-, -, rfl⟩
  · rw [Aim.wall, WallTime.count_ofDay] at lt
    have place := @Date.firstDay_le_iff (nextMonth t w.date) v.dayNumber
    have here := @Date.firstDay_le_iff w.date.monthNumber v.dayNumber
    have start := (@Date.firstDay_le_iff w.date.monthNumber w.dayNumber).2 (Int.le_refl _)
    have := month_not_mem proper (Date.isValid_ofDayNumber w.dayNumber)
      (Date.isValid_ofDayNumber v.dayNumber) (here.1 (by omega))
      (Int.not_le.1 fun le => absurd (place.2 le) (by omega))
    exact absurd (Timetable.namesDate_iff.1 date).1 this
  · rw [Aim.wall, WallTime.count_ofDay] at lt
    obtain ⟨j, hj⟩ : ∃ j : Nat, v.dayNumber = w.dayNumber + j :=
      ⟨(v.dayNumber - w.dayNumber).toNat, by omega⟩
    rw [WallTime.date, hj]
    rw [hj] at date
    exact leaptOver_of_passed proper month (by unfold WallTime.date WallTime.weekday at lt; omega) date
  · rw [Aim.wall, WallTime.count_atHour, hourDay] at lt
    have found := proper.hour_lt _ (Values.nextFrom_mem proper.hours w.hour)
    exfalso
    split at lt
    · exact Values.not_mem_of_nextFrom_lt proper.hours (n := w.hour) (by omega) (by omega) hour
    · exact Values.not_mem_of_lt_nextFrom proper.hours (n := w.hour) (by omega) (by omega) hour

/-- Within an hour, the search for the minute finds the first that is named. -/
theorem minute_first (proper : t.Proper) {v : WallTime} (same : v.count / 3600 = w.count / 3600)
    (from_le : w.count / 60 ≤ v.count / 60) (named : v.minute ∈ t.minutes) :
    w.minute ≤ t.minutes.nextFrom w.minute ∧ t.minutes.nextFrom w.minute ≤ v.minute := by
  have minute := w.minute_eq
  have minute' := v.minute_eq
  have later : w.minute ≤ v.minute := by omega
  obtain ⟨-, ⟨ahead, least⟩ | ⟨-, behind⟩⟩ := Values.nextFrom_cases proper.minutes w.minute
  · exact ⟨ahead, least v.minute named later⟩
  · exact absurd (behind v.minute named).2 (Nat.not_lt.2 later)

end CronCalendar.Search
