import CronCalendar.Proofs.Calendar.Months
import CronCalendar.Proofs.Schedule.NamedDays

/-!
# Named dates come back

Every weekday comes in every month (`exists_weekday`), and a month has a day again in the next leap
year at the latest, which across a century without a leap day is eight years off (`exists_sameDay`). So a
timetable that names a date at all names one in the eight years behind any given year
(`exists_namesDate`). It names one if its days and months coincide, and only then (`coincides_iff`).
-/

namespace CronCalendar
set_option autoImplicit false

namespace Date

theorem exists_leapYear (y : Int) : ∃ l, y < l ∧ l ≤ y + 8 ∧ isLeapYear l = true := by
  by_cases century : (4 * (y / 4) + 4) % 100 = 0
  · refine ⟨4 * (y / 4) + 8, by omega, by omega, ?_⟩
    rw [isLeapYear_iff]
    omega
  · refine ⟨4 * (y / 4) + 4, by omega, by omega, ?_⟩
    rw [isLeapYear_iff]
    omega

/-- No month is longer than in a leap year. -/
theorem daysInMonth_le_of_leap {l : Int} (leap : isLeapYear l = true) (y : Int) (month : Nat) :
    daysInMonth y month ≤ daysInMonth l month := by
  by_cases february : month = 2
  · subst february
    have long : daysInMonth l 2 = 29 := if_pos leap
    rw [long]
    rcases daysInMonth_february y with short | long' <;> omega
  · apply Nat.le_of_eq
    unfold daysInMonth
    split
    · contradiction
    all_goals rfl

/-- A day of a month exists again within eight years. -/
theorem exists_sameDay {d : Date} (valid : d.isValid = true) (y : Int) :
    ∃ l, y < l ∧ l ≤ y + 8 ∧ isValid ⟨l, d.month, d.day⟩ = true := by
  obtain ⟨l, later, near, leap⟩ := exists_leapYear y
  obtain ⟨first, last, one, fits⟩ := isValid_iff.1 valid
  refine ⟨l, later, near, isValid_iff.2 ⟨first, last, one, ?_⟩⟩
  exact Nat.le_trans fits (daysInMonth_le_of_leap leap d.year d.month)

/-- The first four weeks from the start of a month on are in that month. -/
theorem monthNumber_firstDay_add (k : Int) {j : Nat} (lt : j < 28) :
    (ofDayNumber (firstDay k + j)).monthNumber = k := by
  have length := monthLength_bounds k
  have next := firstDay_succ k
  have begun := (@firstDay_le_iff k (firstDay k + j)).1 (by omega)
  have not_over := mt (@firstDay_le_iff (k + 1) (firstDay k + j)).2 (by omega)
  omega

/-- Every weekday comes in the first week of a month. -/
theorem exists_weekday_firstDay {weekday : Nat} (lt : weekday < 7) (k : Int) :
    ∃ j : Nat, j < 7 ∧ weekdayOf (firstDay k + j) = weekday := by
  refine ⟨(weekday + 7 - weekdayOf (firstDay k)) % 7, Nat.mod_lt _ (by decide), ?_⟩
  unfold weekdayOf
  omega

/-- Every weekday comes in every month. -/
theorem exists_weekday {weekday : Nat} (lt : weekday < 7) (k : Int) :
    ∃ n, (ofDayNumber n).monthNumber = k ∧ weekdayOf n = weekday := by
  obtain ⟨j, near, hits⟩ := exists_weekday_firstDay lt k
  exact ⟨firstDay k + j, monthNumber_firstDay_add k (by omega), hits⟩

end Date

namespace Timetable

variable {t : Timetable}

/-- A day is named by its number in the month, whatever its weekday, or the other way round. -/
theorem namesDay_cases {day weekday : Nat} (named : t.namesDay day weekday = true) :
    (∀ other, t.namesDay day other = true) ∨ ∀ other, t.namesDay other weekday = true := by
  simp only [namesDay_iff] at *
  rcases named with ⟨looked, member⟩ | ⟨looked, looked', member⟩ | ⟨looked, looked', member | member⟩
  · exact Or.inl fun _ => Or.inl ⟨looked, member⟩
  · exact Or.inr fun _ => Or.inr (Or.inl ⟨looked, looked', member⟩)
  · exact Or.inl fun _ => Or.inr (Or.inr ⟨looked, looked', Or.inl member⟩)
  · exact Or.inr fun _ => Or.inr (Or.inr ⟨looked, looked', Or.inr member⟩)

/-- A timetable that names a date names one in the eight years behind any year. -/
theorem exists_namesDate {n : Int} (named : t.namesDate n = true) (y : Int) :
    ∃ n', t.namesDate n' = true ∧ y < (Date.ofDayNumber n').year ∧
      (Date.ofDayNumber n').year ≤ y + 8 := by
  obtain ⟨month, day⟩ := namesDate_iff.1 named
  have valid := Date.isValid_ofDayNumber n
  rcases namesDay_cases day with any_weekday | any_day
  · obtain ⟨l, later, near, valid'⟩ := Date.exists_sameDay valid y
    have date := Date.ofDayNumber_dayNumber valid'
    refine ⟨_, ?_, by rw [date]; exact later, by rw [date]; exact near⟩
    rw [namesDate_iff, date]
    exact ⟨month, any_weekday _⟩
  · obtain ⟨first, last, -⟩ := Date.isValid_iff.1 valid
    have lt : Date.weekdayOf n < 7 := by
      unfold Date.weekdayOf
      omega
    obtain ⟨n', number, weekday⟩ :=
      Date.exists_weekday lt (12 * (y + 1) + (Date.ofDayNumber n).month - 1)
    obtain ⟨first', last', -⟩ := Date.isValid_iff.1 (Date.isValid_ofDayNumber n')
    have year : (Date.ofDayNumber n').year = y + 1 := by
      unfold Date.monthNumber at number
      omega
    have month' : (Date.ofDayNumber n').month = (Date.ofDayNumber n).month := by
      unfold Date.monthNumber at number
      omega
    refine ⟨n', ?_, by omega, by omega⟩
    rw [namesDate_iff, month', weekday]
    exact ⟨month, any_day _⟩

/-- A timetable that names a date names a minute in the eight years behind any year. -/
theorem exists_names_behind (proper : t.Proper) {n : Int} (named : t.namesDate n = true) (y : Int) :
    ∃ w : WallTime, t.names w = true ∧ y < w.date.year ∧ w.date.year ≤ y + 8 := by
  obtain ⟨n', date, later, near⟩ := exists_namesDate named y
  obtain ⟨w, rfl, names⟩ := exists_names proper date
  exact ⟨w, names, later, near⟩

/-- A date of one of the months is named: by its weekday, which every month has, or by its number. -/
def Coincides (t : Timetable) : Prop :=
  t.anyWeekday = false ∨ ∃ d : Date, d.isValid = true ∧ d.month ∈ t.months ∧ d.day ∈ t.days

theorem coincides_iff (proper : t.Proper) : t.Coincides ↔ ∃ n, t.namesDate n = true := by
  constructor
  · intro coincides
    cases any : t.anyWeekday with
    | false =>
      have month := Values.nextFrom_mem proper.months 0
      have weekday := Values.nextFrom_mem proper.weekdays 0
      obtain ⟨first, last⟩ := proper.month_bounds _ month
      obtain ⟨n, number, hits⟩ := Date.exists_weekday (proper.weekday_lt _ weekday)
        (12 * 2000 + t.months.nextFrom 0 - 1)
      have bounds := Date.isValid_iff.1 (Date.isValid_ofDayNumber n)
      have same : (Date.ofDayNumber n).month = t.months.nextFrom 0 := by
        unfold Date.monthNumber at number
        omega
      refine ⟨n, ?_⟩
      rw [namesDate_iff, same, hits, namesDay_iff]
      refine ⟨month, Or.inr ?_⟩
      cases day : t.anyDay with
      | true => exact Or.inl ⟨any, rfl, weekday⟩
      | false => exact Or.inr ⟨any, rfl, Or.inr weekday⟩
    | true =>
      rcases coincides with restricted | ⟨d, valid, month, day⟩
      · exact nomatch any.symm.trans restricted
      · refine ⟨d.dayNumber, ?_⟩
        rw [namesDate_iff, Date.ofDayNumber_dayNumber valid, namesDay_iff]
        exact ⟨month, Or.inl ⟨any, day⟩⟩
  · rintro ⟨n, named⟩
    obtain ⟨month, day⟩ := namesDate_iff.1 named
    rcases namesDay_iff.1 day with ⟨-, day⟩ | ⟨restricted, -⟩ | ⟨restricted, -⟩
    · exact Or.inr ⟨_, Date.isValid_ofDayNumber n, month, day⟩
    · exact Or.inl restricted
    · exact Or.inl restricted

end Timetable

end CronCalendar
