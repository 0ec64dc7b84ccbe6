import CronCalendar.Schedule.Search
import CronCalendar.Proofs.Calendar.Months
import CronCalendar.Proofs.Schedule.NamedDays

/-!
# Counting to the next named day

The search counts the days to the next day that may be named. It stands still exactly at the named
days (`dayOffset_eq_zero_iff`). Counting by weekdays passes no named day; counting by days of the
month can, since the numbers behind the end of a month are counted as if the month went on. That
only happens in a February that is left for a number it does not have (`named_day_before`), and
`LeaptOver` says which days are lost.
-/

namespace CronCalendar.Search
set_option autoImplicit false

variable {t : Timetable}

theorem weekdayOf_lt (n : Int) : Date.weekdayOf n < 7 := by
  unfold Date.weekdayOf
  omega

/-- No weekday is named before the one that the search counts to. -/
theorem weekday_not_mem_of_lt (proper : t.Proper) {n : Int} {j : Nat}
    (h : j < daysToNamedWeekday t (Date.weekdayOf n)) : Date.weekdayOf (n + j) ∉ t.weekdays := by
  have lt := weekdayOf_lt n
  have found := proper.weekday_lt _ (Values.nextFrom_mem proper.weekdays (Date.weekdayOf n))
  have here : Date.weekdayOf (n + j) = (Date.weekdayOf n + j) % 7 := by
    unfold Date.weekdayOf
    omega
  rw [here]
  unfold daysToNamedWeekday at h
  generalize Date.weekdayOf n = weekday at *
  simp only at h
  split at h
  · exact Values.not_mem_of_lt_nextFrom proper.weekdays (n := weekday) (by omega) (by omega)
  · exact Values.not_mem_of_nextFrom_lt proper.weekdays (n := weekday) (by omega) (by omega)

theorem daysToNamedWeekday_eq_zero_iff (proper : t.Proper) {weekday : Nat} (lt : weekday < 7) :
    daysToNamedWeekday t weekday = 0 ↔ weekday ∈ t.weekdays := by
  rw [← Values.nextFrom_eq_self_iff proper.weekdays]
  simp only [daysToNamedWeekday]
  split <;> omega

theorem daysToNamedDay_eq_zero_iff (proper : t.Proper) {d : Date} (valid : d.isValid = true) :
    daysToNamedDay t d = 0 ↔ d.day ∈ t.days := by
  have found := proper.day_bounds _ (Values.nextFrom_mem proper.days d.day)
  have := Date.isValid_iff.1 valid
  rw [← Values.nextFrom_eq_self_iff proper.days]
  simp only [daysToNamedDay]
  split <;> omega

/-- The search stands still at the days that are named. -/
theorem dayOffset_eq_zero_iff (proper : t.Proper) {d : Date} (valid : d.isValid = true) {weekday : Nat}
    (lt : weekday < 7) : dayOffset t d weekday = 0 ↔ t.namesDay d.day weekday = true := by
  have day := daysToNamedDay_eq_zero_iff proper valid
  have week := daysToNamedWeekday_eq_zero_iff proper lt
  rw [Timetable.namesDay_iff]
  unfold dayOffset
  cases t.anyWeekday <;> cases t.anyDay <;> simp <;> grind

/-- A day that the search passes over, although it is named: one of the first days of March, when
none of the last days of February is named, but a later number that February does not have. The
search counts to that number as if February went on. -/
structure LeaptOver (t : Timetable) (e : Date) : Prop where
  march : e.month = 3
  months : 2 ∈ t.months ∧ 3 ∈ t.months
  named : e.day ∈ t.days
  /-- The days of the month are looked at. -/
  looked : t.anyDay = true → t.anyWeekday = true
  /-- Were February so long, none of its days from the last real one on would be named, -/
  unreached : ∀ n, Date.daysInMonth e.year 2 ≤ n → n ≤ Date.daysInMonth e.year 2 + e.day → n ∉ t.days
  /-- but a later one would. -/
  counted : ∃ n ∈ t.days, Date.daysInMonth e.year 2 + e.day < n
  /-- No day since the last of February is named by its weekday. -/
  weekdays : t.anyWeekday = false → ∀ k, k ≤ e.day → Date.weekdayOf (e.dayNumber - (k : Nat)) ∉ t.weekdays

/-- As numbers in the month of its start, the search counts past no named ones. -/
theorem day_not_mem_of_lt (proper : t.Proper) {d : Date} {j : Nat} (before : j < daysToNamedDay t d) :
    d.day + j ∉ t.days := by
  unfold daysToNamedDay at before
  simp only at before
  split at before
  · exact Values.not_mem_of_lt_nextFrom proper.days (n := d.day) (by omega) (by omega)
  · exact Values.not_mem_of_nextFrom_lt proper.days (n := d.day) (by omega) (by omega)

/-- The search counts on beyond its month either for a number that this February does not have, or
to the least number of the next month. -/
theorem beyond_month (proper : t.Proper) {d : Date} {j : Nat} (valid : d.isValid = true)
    (before : j < daysToNamedDay t d) (beyond : Date.daysInMonth d.year d.month < d.day + j) :
    (d.month = 2 ∧ d.day + j < t.days.nextFrom d.day) ∨
      (t.days.nextFrom d.day < d.day ∧
        d.day + j < Date.daysInMonth d.year d.month + t.days.nextFrom d.day) := by
  have bounds := Date.isValid_iff.1 valid
  have found := proper.day_bounds _ (Values.nextFrom_mem proper.days d.day)
  unfold daysToNamedDay at before
  simp only at before
  split at before
  · left
    refine ⟨?_, by omega⟩
    apply Decidable.byContradiction
    intro other
    have := @Date.thirty_le_daysInMonth d.year _ other
    omega
  · exact Or.inr ⟨by omega, by omega⟩

/-- Where the search counts past a named day of the month, it has left a February for a number that
this February does not have, and the named day is one of the first of March. -/
theorem named_day_before (proper : t.Proper) {n : Int} {j : Nat}
    (before : j < daysToNamedDay t (Date.ofDayNumber n))
    (named : (Date.ofDayNumber (n + j)).day ∈ t.days) :
    ∃ year day, Date.ofDayNumber n = ⟨year, 2, day⟩ ∧ day ≤ Date.daysInMonth year 2 ∧
      ∃ march, Date.ofDayNumber (n + j) = ⟨year, 3, march⟩ ∧
        day + j = Date.daysInMonth year 2 + march ∧
        Date.daysInMonth year 2 + march < t.days.nextFrom day := by
  have valid := Date.isValid_ofDayNumber n
  have place := Date.dayNumber_eq_firstDay valid
  have length := Date.monthLength_monthNumber valid
  rw [Date.dayNumber_ofDayNumber] at place
  generalize Date.ofDayNumber n = d at *
  obtain ⟨year, month, day⟩ := d
  obtain ⟨first, last, one, fits⟩ := Date.isValid_iff.1 valid
  have number : Date.monthNumber ⟨year, month, day⟩ = 12 * year + month - 1 := rfl
  simp only at place length first last one fits
  generalize Date.monthNumber ⟨year, month, day⟩ = k at *
  have found := proper.day_bounds _ (Values.nextFrom_mem proper.days day)
  have there : n + j = Date.firstDay k + ((day + j : Nat) : Int) - 1 := by omega
  have here := Date.monthLength_bounds k
  have next := Date.monthLength_bounds (k + 1)
  by_cases beyond : Date.monthLength k < day + j
  · rcases beyond_month proper valid before (length ▸ beyond) with ⟨short, far⟩ | ⟨wraps, near⟩
    · simp only at short far
      subst short
      have march := Date.ofDayNumber_next_month beyond (by omega)
      rw [show (k + 1) / 12 = year by omega, show ((k + 1) % 12).toNat + 1 = 3 by omega] at march
      rw [there]
      exact ⟨year, day, rfl, fits, day + j - Date.monthLength k, march, by omega, by omega⟩
    · exfalso
      simp only at wraps near
      have least : ∀ m, m < t.days.nextFrom day → m ∉ t.days := fun m lt =>
        Values.not_mem_of_nextFrom_lt proper.days (n := day) wraps (Or.inr lt)
      -- The next month may be so short that the count ends in the one after it.
      by_cases short : day + j ≤ Date.monthLength k + Date.monthLength (k + 1)
      · have early : day + j - Date.monthLength k ∈ t.days := by
          rwa [there, Date.ofDayNumber_next_month beyond short] at named
        exact least _ (by omega) early
      · have after := Date.monthLength_bounds (k + 1 + 1)
        have start := Date.firstDay_succ k
        have early : day + j - Date.monthLength k - Date.monthLength (k + 1) ∈ t.days := by
          rwa [show n + j =
              Date.firstDay (k + 1) + ((day + j - Date.monthLength k : Nat) : Int) - 1 by omega,
            Date.ofDayNumber_next_month (by omega) (by omega)] at named
        exact least _ (by omega) early
  · have inside : day + j ∈ t.days := by
      rwa [there, Date.ofDayNumber_firstDay (by omega) (by omega)] at named
    exact absurd inside (day_not_mem_of_lt proper before)

/-- The days counted are no more than those to either of the kinds of named days that are looked
at. -/
theorem lt_of_lt_dayOffset {d : Date} {weekday j : Nat} (h : j < dayOffset t d weekday) :
    ((t.anyDay = true → t.anyWeekday = true) → j < daysToNamedDay t d) ∧
      (t.anyWeekday = false → j < daysToNamedWeekday t weekday) := by
  unfold dayOffset at h
  cases looks : t.anyWeekday <;> cases looks' : t.anyDay <;> simp [looks, looks'] at h ⊢ <;> omega

/-- A named day that the search counts past is one that it leaps over. -/
theorem leaptOver_of_passed (proper : t.Proper) {n : Int} {j : Nat}
    (month : (Date.ofDayNumber n).month ∈ t.months)
    (before : j < dayOffset t (Date.ofDayNumber n) (Date.weekdayOf n))
    (named : t.namesDate (n + j) = true) : LeaptOver t (Date.ofDayNumber (n + j)) := by
  obtain ⟨month', named⟩ := Timetable.namesDate_iff.1 named
  rw [Timetable.namesDay_iff] at named
  obtain ⟨passes_days, passes_weekdays⟩ := lt_of_lt_dayOffset before
  have looked : t.anyDay = true → t.anyWeekday = true := by
    intro any
    apply Decidable.byContradiction
    intro some
    have := weekday_not_mem_of_lt proper (passes_weekdays (by simpa using some))
    simp_all
  have before : j < daysToNamedDay t (Date.ofDayNumber n) := passes_days looked
  have day : (Date.ofDayNumber (n + j)).day ∈ t.days := by
    rcases named with ⟨-, day⟩ | ⟨some, -, weekday⟩ | ⟨some, -, day | weekday⟩
    · exact day
    · exact absurd weekday (weekday_not_mem_of_lt proper (passes_weekdays some))
    · exact day
    · exact absurd weekday (weekday_not_mem_of_lt proper (passes_weekdays some))
  obtain ⟨year, start, here, fits, march, there, count, far⟩ := named_day_before proper before day
  have number := Date.dayNumber_ofDayNumber (n + j)
  rw [there] at day month' number ⊢
  rw [here] at month
  refine ⟨rfl, ⟨month, month'⟩, day, looked, ?_, ⟨_, Values.nextFrom_mem proper.days start, far⟩, ?_⟩
  · intro m le le'
    simp only at le le'
    exact Values.not_mem_of_lt_nextFrom proper.days (n := start) (Nat.le_trans fits le) (by omega)
  · intro some k le
    simp only at le
    have earlier : j - k < daysToNamedWeekday t (Date.weekdayOf n) := by
      have := passes_weekdays some
      omega
    rw [number, show n + (j : Int) - (k : Int) = n + ((j - k : Nat) : Int) by omega]
    exact weekday_not_mem_of_lt proper earlier

end CronCalendar.Search
