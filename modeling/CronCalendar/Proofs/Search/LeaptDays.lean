import CronCalendar.Proofs.Search.Progress

/-!
# The days that the search leaps over

In coordinated universal time a search passes a named minute only on a day that it leaps over. Every
such day is passed by some search: the one that starts with the last day of that February counts to
the number behind its end, although there is a run in the same March for it to find
(`LeaptOver.exists_missed`). So a schedule loses no run exactly if no date of the supported years is
leapt over (`misses_nothing_iff`).
-/

namespace CronCalendar.Search
set_option autoImplicit false

open Zone (utc)

variable {t : Timetable} {e : Date}

/-- Counting by weekdays stops at a named one. -/
theorem weekday_mem_of_counted (proper : t.Proper) (n : Int) :
    Date.weekdayOf (n + (daysToNamedWeekday t (Date.weekdayOf n) : Nat)) ∈ t.weekdays := by
  have lt := weekdayOf_lt n
  have member := Values.nextFrom_mem proper.weekdays (Date.weekdayOf n)
  have next_lt := proper.weekday_lt _ member
  have here : Date.weekdayOf (n + (daysToNamedWeekday t (Date.weekdayOf n) : Nat)) =
      t.weekdays.nextFrom (Date.weekdayOf n) := by
    unfold daysToNamedWeekday
    simp only
    generalize t.weekdays.nextFrom (Date.weekdayOf n) = next at *
    unfold Date.weekdayOf at *
    split <;> omega
  rw [here]
  exact member

namespace LeaptOver

/-- The last day of the February before. -/
def eve (e : Date) : Date := ⟨e.year, 2, Date.daysInMonth e.year 2⟩

theorem number_ge (leapt : LeaptOver t e) (proper : t.Proper) : ∃ n ∈ t.days,
    Date.daysInMonth e.year 2 + e.day < n ∧ n ≤ 31 := by
  obtain ⟨n, member, counted⟩ := leapt.counted
  exact ⟨n, member, counted, (proper.day_bounds n member).2⟩

theorem isValid (leapt : LeaptOver t e) (proper : t.Proper) : e.isValid = true := by
  have bounds := proper.day_bounds _ leapt.named
  have march : Date.daysInMonth e.year 3 = 31 := rfl
  rw [Date.isValid_iff, leapt.march, march]
  omega

theorem isValid_eve : (eve e).isValid = true := by
  have bounds := Date.daysInMonth_bounds e.year 2
  rw [Date.isValid_iff]
  simp only [eve]
  omega

theorem dayNumber_eve (leapt : LeaptOver t e) (proper : t.Proper) :
    (eve e).dayNumber = e.dayNumber - e.day := by
  have here := Date.dayNumber_eq_firstDay (leapt.isValid proper)
  have there := Date.dayNumber_eq_firstDay (isValid_eve (e := e))
  have next := Date.firstDay_succ (eve e).monthNumber
  have length := Date.monthLength_monthNumber (isValid_eve (e := e))
  have number : e.monthNumber = (eve e).monthNumber + 1 := by
    simp only [Date.monthNumber, eve, leapt.march]
    omega
  rw [number] at here
  simp only [eve] at *
  omega

/-- A day of March, by its number. -/
theorem dayNumber_march (leapt : LeaptOver t e) (proper : t.Proper) {day : Nat} (first : 1 ≤ day)
    (last : day ≤ 31) : Date.dayNumber ⟨e.year, 3, day⟩ = e.dayNumber - e.day + day := by
  have valid : Date.isValid ⟨e.year, 3, day⟩ = true := by
    have march : Date.daysInMonth e.year 3 = 31 := rfl
    rw [Date.isValid_iff]
    simp only [march]
    omega
  have here := Date.dayNumber_eq_firstDay (leapt.isValid proper)
  have there := Date.dayNumber_eq_firstDay valid
  have number : Date.monthNumber ⟨e.year, 3, day⟩ = e.monthNumber := by
    simp only [Date.monthNumber, leapt.march]
  rw [number] at there
  simp only at there
  omega

/-- The days of the month are looked at. -/
theorem namesDay (leapt : LeaptOver t e) {day : Nat} (member : day ∈ t.days) (weekday : Nat) :
    t.namesDay day weekday = true := by
  rw [Timetable.namesDay_iff]
  have looked := leapt.looked
  cases weekday : t.anyWeekday <;> cases day' : t.anyDay <;> simp_all

theorem namesDate (leapt : LeaptOver t e) {n : Int} {day : Nat} (member : day ∈ t.days)
    (date : Date.ofDayNumber n = ⟨e.year, 3, day⟩) : t.namesDate n = true := by
  rw [Timetable.namesDate_iff, date]
  exact ⟨leapt.months.2, leapt.namesDay member _⟩

/-- From the last of February, the search counts past the day. -/
theorem lt_dayOffset (leapt : LeaptOver t e) (proper : t.Proper) :
    e.day < dayOffset t (eve e) (Date.weekdayOf (eve e).dayNumber) := by
  have days : e.day < daysToNamedDay t (eve e) := by
    obtain ⟨n, member, counted⟩ := leapt.counted
    obtain ⟨next, ⟨ahead, -⟩ | ⟨-, behind⟩⟩ :=
      Values.nextFrom_cases proper.days (Date.daysInMonth e.year 2)
    · have unreached := leapt.unreached _ ahead
      have counting : daysToNamedDay t (eve e) =
          t.days.nextFrom (Date.daysInMonth e.year 2) - Date.daysInMonth e.year 2 := if_pos ahead
      rw [counting]
      apply Nat.lt_of_not_le
      intro le
      exact unreached (by omega) next
    · have := (behind n member).2
      omega
  have weekdays : t.anyWeekday = false →
      e.day < daysToNamedWeekday t (Date.weekdayOf (eve e).dayNumber) := by
    intro looked
    apply Nat.lt_of_not_le
    intro le
    have unnamed := leapt.weekdays looked
      (e.day - daysToNamedWeekday t (Date.weekdayOf (eve e).dayNumber)) (by omega)
    have counted := weekday_mem_of_counted proper (eve e).dayNumber
    rw [show e.dayNumber -
        ((e.day - daysToNamedWeekday t (Date.weekdayOf (eve e).dayNumber) : Nat) : Int) =
        (eve e).dayNumber + (daysToNamedWeekday t (Date.weekdayOf (eve e).dayNumber) : Nat) by
      have := leapt.dayNumber_eve proper
      omega] at unnamed
    exact unnamed counted
  unfold dayOffset
  split
  · exact days
  rename_i some
  have weekdays := weekdays (Bool.eq_false_iff.2 some)
  split
  · exact weekdays
  · exact Nat.lt_min.2 ⟨days, weekdays⟩

/-- The days from the first to the last of the March are those of one month. -/
theorem monthNumber_march (leapt : LeaptOver t e) (proper : t.Proper) {n : Int}
    (after : (eve e).dayNumber < n) (last : n ≤ (eve e).dayNumber + 31) :
    (Date.ofDayNumber n).monthNumber = 12 * e.year + 2 := by
  have here := Date.dayNumber_eq_firstDay (leapt.isValid proper)
  have there := leapt.dayNumber_eve proper
  have number : e.monthNumber = 12 * e.year + 2 := by
    simp only [Date.monthNumber, leapt.march]
    omega
  have next := Date.firstDay_succ e.monthNumber
  have length := Date.monthLength_monthNumber (leapt.isValid proper)
  rw [leapt.march] at length
  have march : Date.daysInMonth e.year 3 = 31 := rfl
  have begun := Date.firstDay_le_iff.1 (show Date.firstDay e.monthNumber ≤ n by omega)
  have not_over := mt Date.firstDay_le_iff.2 (show ¬ Date.firstDay (e.monthNumber + 1) ≤ n by omega)
  omega

/-- A day of the same year as a supported one has an instant for each of its wall times. -/
theorem exists_instant (supported : e.isSupported = true) {w : WallTime} (same : w.date.year = e.year) :
    ∃ v : Instant, v.seconds = w.count := by
  have supported : w.date.isSupported = true := by
    unfold Date.isSupported at supported ⊢
    rw [same]
    exact supported
  rw [WallTime.isSupported_date, WallTime.isSupported_iff] at supported
  obtain ⟨v, found⟩ := Instant.exists_ofSeconds supported.1 supported.2
  exact ⟨v, (Instant.ofSeconds_eq_some_iff.1 found).1⟩

/-- The search that stands on the last day of February aims at the day that it counts to. -/
theorem aim_eve (leapt : LeaptOver t e) (proper : t.Proper) :
    aim? t ⟨86400 * (eve e).dayNumber⟩ = some (.day ((eve e).dayNumber +
      (dayOffset t (eve e) (Date.weekdayOf (eve e).dayNumber) : Nat))) := by
  have counted := leapt.lt_dayOffset proper
  have day : WallTime.dayNumber ⟨86400 * (eve e).dayNumber⟩ = (eve e).dayNumber := by
    unfold WallTime.dayNumber secondsPerDay
    simp only
    omega
  have date : WallTime.date ⟨86400 * (eve e).dayNumber⟩ = eve e := by
    rw [WallTime.date, day, Date.ofDayNumber_dayNumber isValid_eve]
  have unnamed : t.namesDate (WallTime.dayNumber ⟨86400 * (eve e).dayNumber⟩) ≠ true := by
    rw [day, Ne, Timetable.namesDate_iff, Date.ofDayNumber_dayNumber isValid_eve]
    intro named
    have := (dayOffset_eq_zero_iff proper isValid_eve (weekdayOf_lt (eve e).dayNumber)).2 named.2
    omega
  rcases aim_cases proper ⟨86400 * (eve e).dayNumber⟩ with
    ⟨other, -⟩ | ⟨-, -, aim⟩ | ⟨named, -⟩ | ⟨named, -⟩
  · rw [date] at other
    exact absurd leapt.months.1 other
  · rw [aim, date, WallTime.weekday, day]
  · exact absurd named unnamed
  · exact absurd named unnamed

/-- The run found from the last day of February comes behind the leapt day. -/
theorem run_behind (leapt : LeaptOver t e) (proper : t.Proper) {now u : Instant}
    (start : now.seconds = 86400 * (eve e).dayNumber) (found : run? t utc now = some u) :
    86400 * (e.dayNumber + 1) ≤ u.seconds := by
  have counted := leapt.lt_dayOffset proper
  have eve_eq := leapt.dayNumber_eve proper
  have aim := leapt.aim_eve proper
  rw [← start] at aim
  have no_look : ∀ b, ¬ Looks t utc ⟨now, true⟩ b :=
    fun b looks => nomatch aim.symm.trans (looks_utc looks).2
  rcases iterate_runs_cases (run_eq_some.1 found) with first | ⟨c, n, moved, rest⟩
  · obtain ⟨b, looks, -⟩ := step_runs proper first
    exact absurd looks (no_look b)
  · rcases step_goOn proper moved with ⟨a, aim', -, resolved, touched⟩ | ⟨b, looks, -⟩
    · rw [Zone.wallAt_utc, aim] at aim'
      obtain rfl := Option.some.inj aim'
      rw [Zone.resolve_utc, Instant.ofSeconds_eq_some_iff, Aim.wall, WallTime.count_ofDay] at resolved
      have ahead := Int.le_trans c.le_earliest (iterate_utc proper rest).1.ahead
      omega
    · exact absurd looks (no_look b)

/-- The March has a named minute, on the day with the number counted to, that the search does not leap
over. -/
theorem exists_target (leapt : LeaptOver t e) (proper : t.Proper) :
    ∃ w : WallTime, t.names w = true ∧ ¬ LeaptOver t w.date ∧ w.date.year = e.year ∧
      e.dayNumber < w.dayNumber ∧ w.dayNumber ≤ (eve e).dayNumber + 31 := by
  obtain ⟨number, member, counted, last⟩ := leapt.number_ge proper
  have eve_eq := leapt.dayNumber_eve proper
  have there := leapt.dayNumber_march proper (show 1 ≤ number by omega) last
  have valid : Date.isValid ⟨e.year, 3, number⟩ = true := by
    have march : Date.daysInMonth e.year 3 = 31 := rfl
    rw [Date.isValid_iff]
    simp only [march]
    omega
  have date := Date.ofDayNumber_dayNumber valid
  obtain ⟨w, day, named⟩ := Timetable.exists_names proper (leapt.namesDate member date)
  have w_date : w.date = ⟨e.year, 3, number⟩ := by rw [WallTime.date, day, date]
  refine ⟨w, named, ?_, by rw [w_date], by omega, by omega⟩
  -- No number is large enough to be counted to past this day.
  rw [w_date]
  intro again
  obtain ⟨n, -, far, le⟩ := again.number_ge proper
  have := Date.daysInMonth_bounds e.year 2
  simp only at far
  omega

/-- A run in the March is not the sentinel, which is a first of January. -/
theorem ne_never (leapt : LeaptOver t e) (proper : t.Proper) {u : Instant}
    (after : (eve e).dayNumber < u.seconds / 86400)
    (last : u.seconds / 86400 ≤ (eve e).dayNumber + 31) : u ≠ never := by
  rintro rfl
  have march := leapt.monthNumber_march proper after last
  have january : (Date.ofDayNumber (never.seconds / 86400)).monthNumber = 12 * 2222 := by decide
  omega

/-- Each leapt day has a named minute that some search passes, to end with a run in the March of that
day. -/
theorem exists_missed (leapt : LeaptOver t e) (proper : t.Proper) (supported : e.isSupported = true) :
    ∃ now m u : Instant, run? t utc now = some u ∧ u ≠ never ∧ now.seconds / 60 < m.seconds / 60 ∧
      m < u ∧ t.names ⟨m.seconds⟩ = true := by
  have valid := leapt.isValid proper
  have eve_eq := leapt.dayNumber_eve proper
  have first := (proper.day_bounds _ leapt.named).1
  obtain ⟨w, day, named⟩ := Timetable.exists_names proper
    (leapt.namesDate leapt.named (by rw [Date.ofDayNumber_dayNumber valid, ← leapt.march]))
  obtain ⟨m, at_m⟩ := exists_instant supported (w := w) (by
    rw [WallTime.date, day, Date.ofDayNumber_dayNumber valid])
  obtain ⟨w', named', kept, year, after, last⟩ := leapt.exists_target proper
  obtain ⟨v, at_v⟩ := exists_instant supported (w := w') year
  have eve_date : WallTime.date ⟨86400 * (eve e).dayNumber⟩ = eve e := by
    have midnight : WallTime.dayNumber ⟨86400 * (eve e).dayNumber⟩ = (eve e).dayNumber := by
      unfold WallTime.dayNumber secondsPerDay
      simp only
      omega
    rw [WallTime.date, midnight, Date.ofDayNumber_dayNumber isValid_eve]
  obtain ⟨now, start⟩ := exists_instant supported (w := ⟨86400 * (eve e).dayNumber⟩)
    (by rw [eve_date]; rfl)
  have start : now.seconds = 86400 * (eve e).dayNumber := start
  have now_year : (utc.wallAt now).date.year = e.year := by
    rw [Zone.wallAt_utc, start, eve_date]
    rfl
  have day_eq : w.dayNumber = w.count / 86400 := rfl
  have day_eq' : w'.dayNumber = w'.count / 86400 := rfl
  obtain ⟨u, found, reached⟩ := @exists_run_utc t w' proper now (at_v ▸ v.le_lastSecond) named' kept
    (by omega) (by unfold yearLimit; omega)
  have behind := leapt.run_behind proper start found
  refine ⟨now, m, u, found, leapt.ne_never proper (by omega) (by omega), by omega, ?_, ?_⟩
  · rw [Instant.lt_iff]
    omega
  · rw [at_m]
    exact named

end LeaptOver

end CronCalendar.Search

namespace CronCalendar.Schedule
set_option autoImplicit false

open Zone (utc)

/-- A named minute that lies between an instant and the next run is on a day that is leapt over. -/
theorem leaptOver_of_missed {s : Schedule} {now m : Instant} (h : s.nextRun utc now ≠ never)
    (behind : now.seconds / 60 < m.seconds / 60) (before : m < s.nextRun utc now)
    (named : s.matchesAt utc m = true) : Search.LeaptOver s.timetable (utc.wallAt m).date := by
  obtain ⟨proper, found⟩ := run_of_nextRun h
  obtain ⟨follows, -⟩ := Search.run_utc proper found
  have nanos := follows.nanos
  rw [Instant.lt_iff] at before
  apply follows.passes _ named
  · rw [Search.Candidate.earliest_first, Zone.wallAt_utc]
    simp only
    omega
  · rw [Zone.wallAt_utc]
    simp only
    omega

/-- In coordinated universal time, the runs of a schedule miss no minute that it names exactly if the
search leaps over none of the supported dates. -/
theorem misses_nothing_iff {s : Schedule} (satisfiable : s.isSatisfiable = true) :
    (∀ now m : Instant, s.nextRun utc now ≠ never → now.seconds / 60 < m.seconds / 60 →
        m < s.nextRun utc now → s.matchesAt utc m = false) ↔
      ∀ e : Date, e.isSupported = true → ¬ Search.LeaptOver s.timetable e := by
  constructor
  · intro misses e supported leapt
    have proper := timetable_proper satisfiable
    obtain ⟨now, m, u, found, real, behind, before, named⟩ := leapt.exists_missed proper supported
    have next := nextRun_of_run satisfiable found
    have missed := misses now m (next ▸ real) behind (next ▸ before)
    rw [matchesAt, Zone.wallAt_utc, named] at missed
    cases missed
  · intro kept now m h behind before
    apply Bool.eq_false_iff.2
    intro named
    apply kept (utc.wallAt m).date _ (leaptOver_of_missed h behind before named)
    rw [WallTime.isSupported_date, Zone.wallAt_utc, WallTime.isSupported_iff]
    exact ⟨m.firstSecond_le, m.le_lastSecond⟩

/-- At midnight on the 15th of each month. -/
def everyFifteenth : Schedule where
  taskId := "report"
  fields := { minute := .ofText "0", hour := .ofText "0", day := .ofText "15" }

theorem everyFifteenth_misses_nothing :
    everyFifteenth.isSatisfiable = true ∧
      ∀ now m : Instant, everyFifteenth.nextRun utc now ≠ never →
        now.seconds / 60 < m.seconds / 60 → m < everyFifteenth.nextRun utc now →
        everyFifteenth.matchesAt utc m = false := by
  have satisfiable : everyFifteenth.isSatisfiable = true := by decide +kernel
  have days : everyFifteenth.timetable.days = Values.singleton 15 := by decide +kernel
  refine ⟨satisfiable, (misses_nothing_iff satisfiable).2 ?_⟩
  intro e _ leapt
  obtain ⟨n, member, counted⟩ := leapt.counted
  rw [days, Values.mem_singleton] at member
  have := Date.daysInMonth_bounds e.year 2
  omega

/-- At midnight on the 1st and the 30th of each month. -/
def firstAndThirtieth : Schedule where
  taskId := "report"
  fields := { minute := .ofText "0", hour := .ofText "0", day := .ofText "1,30" }

/-- From 2023-02-06 on, the next run comes on 2023-03-30, past the named 2023-03-01. -/
theorem firstAndThirtieth_misses_march :
    firstAndThirtieth.isSatisfiable = true ∧ (firstAndThirtieth.field .day).isAny = false ∧
      ∃ now m : Instant, now.seconds = 1675641600 ∧ m.seconds = 1677628800 ∧
        firstAndThirtieth.nextRun utc now ≠ never ∧ now.seconds / 60 < m.seconds / 60 ∧
        m < firstAndThirtieth.nextRun utc now ∧ firstAndThirtieth.matchesAt utc m = true := by
  refine ⟨by decide +kernel, by decide +kernel, ?_⟩
  refine ⟨⟨1675641600, 0, by decide, by decide, by decide⟩,
    ⟨1677628800, 0, by decide, by decide, by decide⟩, rfl, rfl, ?_, by decide, ?_, ?_⟩
  · decide +kernel
  · decide +kernel
  · decide +kernel

end CronCalendar.Schedule
