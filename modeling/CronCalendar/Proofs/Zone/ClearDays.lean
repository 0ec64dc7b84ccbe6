import CronCalendar.Proofs.Schedule.Recurrence
import CronCalendar.Proofs.Search.LeaptDays
import CronCalendar.Proofs.Zone.HourGaps
import CronCalendar.Zone.Named

/-!
# Days that are clear of gaps

A search that jumps into a gap lands behind it, and a run can be lost when that is behind the hour or the
day that the search was after. `ClearOn` says that no gap of a zone does this to a day: each one comes behind
the day, or early enough before it, or takes an inner hour of the day, which the search then makes up
for. The days that are not clear can be listed from the table (`clearOn_of_not_mem`); in the zones that
have a name they are so few in 1971 and 1973 that every timetable that names a date names a clear one
(`exists_clear`).
-/

namespace CronCalendar
set_option autoImplicit false

namespace Zone

/-- The clock is put forward by an hour at a full hour, and shows the day before and behind that. -/
def TakesInnerHour (since old new day : Int) : Prop :=
  new = old + 3600 ∧ (since + old) % 3600 = 0 ∧ 86400 * day < since + old ∧
    since + new < 86400 * (day + 1)

/-- A gap that may carry a search past a day: it begins before the day is over, a search that jumps into it
can land less than two hours before the day, and it is not just an inner hour that is taken. -/
structure Spoils (since old new day : Int) : Prop where
  forward : old < new
  begun : since + old < 86400 * (day + 1)
  lands : 86400 * day < since + new + (new - old) + 7200
  awkward : ¬ TakesInnerHour since old new day

/-- No gap, of a day at most, may carry a search past the day. -/
structure ClearOn (z : Zone) (day : Int) : Prop where
  narrow : ∀ x ∈ z.transitions, z.offsetAt x.since ≤ z.offsetAt (x.since - 1) + 86400
  unspoilt : ∀ x ∈ z.transitions, ¬ Spoils x.since (z.offsetAt (x.since - 1)) (z.offsetAt x.since) day

instance (since old new day : Int) : Decidable (TakesInnerHour since old new day) :=
  inferInstanceAs (Decidable (new = old + 3600 ∧ (since + old) % 3600 = 0 ∧ 86400 * day < since + old ∧
    since + new < 86400 * (day + 1)))

/-- The days that a change may carry a search past. -/
def spoiltBy (since old new : Int) : List Int :=
  if old < new then
    let first := (since + old) / 86400
    let last := (since + new + (new - old) + 7199) / 86400
    ((List.range (last + 1 - first).toNat).map fun k : Nat => first + (k : Int)).filter fun day =>
      ¬ TakesInnerHour since old new day
  else []

/-- The days that a zone is not clear on. -/
def spoiltDays (z : Zone) : List Int :=
  (changesFrom z.initial z.transitions).flatMap fun c => spoiltBy c.1 c.2.1 c.2.2

theorem Spoils.mem {since old new day : Int} (spoils : Spoils since old new day) :
    day ∈ spoiltBy since old new := by
  have begun := spoils.begun
  have lands := spoils.lands
  rw [spoiltBy, if_pos spoils.forward, List.mem_filter, List.mem_map]
  refine ⟨⟨(day - (since + old) / 86400).toNat, List.mem_range.2 (by omega),
    show (since + old) / 86400 + ((day - (since + old) / 86400).toNat : Int) = day by omega⟩, ?_⟩
  simpa using spoils.awkward

theorem clearOn_of_not_mem {z : Zone} {day : Int}
    (narrow : ∀ x ∈ z.transitions, z.offsetAt x.since ≤ z.offsetAt (x.since - 1) + 86400)
    (unlisted : day ∉ z.spoiltDays) : z.ClearOn day where
  narrow := narrow
  unspoilt _ member spoils :=
    unlisted (List.mem_flatMap.2 ⟨_, mem_changesFrom (ascending_iff.1 z.ascending) member, spoils.mem⟩)

/-- Behind the epoch, a zone is changed rarely, and no date has to be missed: of those of 1971 each is clear
in that year or two years later, each weekday comes back clear after a week, and so is the leap day of 1972. -/
structure ClearAtFirst (z : Zone) : Prop where
  rare : z.RarelyChanged
  settled : z.Settled
  narrow : ∀ x ∈ z.transitions, z.offsetAt x.since ≤ z.offsetAt (x.since - 1) + 86400
  quiet : ∀ x ∈ z.transitions, x.since ≤ 0 ∨ 172800 < x.since
  sameDate : ∀ day ∈ z.spoiltDays, 365 ≤ day → day < 730 → day + 731 ∉ z.spoiltDays
  nextWeek : ∀ day ∈ z.spoiltDays, 365 ≤ day → day < 730 → day + 7 ∉ z.spoiltDays
  leapDay : 789 ∉ z.spoiltDays

/-- Every zone that has a name is clear at first. -/
theorem clearAtFirst_of_named {z : Zone} {name : String} (named : named? name = some z) :
    z.ClearAtFirst := by
  have rare : ∀ z ∈ all, (-86400 < z.initial.offset ∧ z.initial.offset < 86400) ∧
      (∀ a ∈ z.transitions, -86400 < a.type.offset ∧ a.type.offset < 86400) ∧ Spaced z.transitions := by
    decide +kernel
  have settled : ∀ z ∈ all, ∀ a ∈ z.transitions,
      firstSecond + 172800 ≤ a.since ∧ a.since + 172800 ≤ never.seconds := by decide +kernel
  have narrow : ∀ z ∈ all, ∀ c ∈ changesFrom z.initial z.transitions, c.2.2 ≤ c.2.1 + 86400 := by
    decide +kernel
  have quiet : ∀ z ∈ all, ∀ x ∈ z.transitions, x.since ≤ 0 ∨ 172800 < x.since := by decide +kernel
  have clear : ∀ z ∈ all, (∀ day ∈ z.spoiltDays, 365 ≤ day → day < 730 →
      day + 731 ∉ z.spoiltDays ∧ day + 7 ∉ z.spoiltDays) ∧ 789 ∉ z.spoiltDays := by decide +kernel
  have member := List.mem_of_find?_eq_some named
  obtain ⟨initial, offsets, spaced⟩ := rare z member
  obtain ⟨twice, leapDay⟩ := clear z member
  exact {
    rare := rarelyChanged_of_spaced initial offsets spaced
    settled := settled z member
    narrow := forall_of_changes (p := fun _ old new => new ≤ old + 86400) (narrow z member)
    quiet := quiet z member
    sameDate := fun day spoilt from_le lt => (twice day spoilt from_le lt).1
    nextWeek := fun day spoilt from_le lt => (twice day spoilt from_le lt).2
    leapDay }

/-- The clocks of these zones are not changed any more when the supported days come to an end. -/
theorem noLateSetback_of_named {z : Zone} {name : String} (named : named? name = some z) :
    z.NoLateSetback := by
  intro x member late _
  have early := ((clearAtFirst_of_named named).settled x member).2
  exact absurd (Int.lt_of_lt_of_le late early) (by decide)

end Zone

namespace Date

/-- Dates other than leap days come back 731 days later, two years on. -/
theorem dayNumber_1973 {month day : Nat} (valid : isValid ⟨1972, month, day⟩ = true)
    (ordinary : ¬ (month = 2 ∧ day = 29)) :
    isValid ⟨1971, month, day⟩ = true ∧ isValid ⟨1973, month, day⟩ = true ∧
      dayNumber ⟨1973, month, day⟩ = dayNumber ⟨1971, month, day⟩ + 731 := by
  obtain ⟨first, last, one, fits⟩ := isValid_iff.1 valid
  simp only at first last one fits
  have lengths : ∀ m ≤ 12, (m = 2 ∨ daysInMonth 1971 m = daysInMonth 1972 m) ∧
      daysInMonth 1973 m = daysInMonth 1971 m := by decide
  have starts : ∀ m : Nat, m < 13 → 1 ≤ m →
      firstDay (12 * 1973 + m - 1) = firstDay (12 * 1971 + m - 1) + 731 := by decide
  have short : daysInMonth 1971 2 = 28 := by decide
  have long : daysInMonth 1972 2 = 29 := by decide
  obtain ⟨length, same⟩ := lengths month last
  have fits' : day ≤ daysInMonth 1971 month := by
    rcases length with rfl | length <;> omega
  have valid' : isValid ⟨1971, month, day⟩ = true := isValid_iff.2 ⟨first, last, one, fits'⟩
  have valid'' : isValid ⟨1973, month, day⟩ = true := isValid_iff.2 ⟨first, last, one, same ▸ fits'⟩
  have start := starts month (by omega) first
  have number := dayNumber_eq_firstDay valid'
  have number' := dayNumber_eq_firstDay valid''
  simp only [monthNumber] at number number'
  exact ⟨valid', valid'', by omega⟩

end Date

namespace Zone.ClearAtFirst

variable {z : Zone} (clear : z.ClearAtFirst)
include clear

/-- One of two days is clear if not both can be spoilt. -/
theorem clearOn_or {day later : Int} (once : day ∈ z.spoiltDays → later ∉ z.spoiltDays) :
    z.ClearOn day ∨ z.ClearOn later := by
  by_cases spoilt : day ∈ z.spoiltDays
  · exact Or.inr (clearOn_of_not_mem clear.narrow (once spoilt))
  · exact Or.inl (clearOn_of_not_mem clear.narrow spoilt)

/-- A day of a month comes back on a clear day between 1971 and 1973. -/
theorem exists_sameDay {month day : Nat} (valid : Date.isValid ⟨1972, month, day⟩ = true) :
    ∃ year, 1971 ≤ year ∧ year ≤ 1973 ∧ Date.isValid ⟨year, month, day⟩ = true ∧
      z.ClearOn (Date.dayNumber ⟨year, month, day⟩) := by
  by_cases leap : month = 2 ∧ day = 29
  · obtain ⟨rfl, rfl⟩ := leap
    have number : Date.dayNumber ⟨1972, 2, 29⟩ = 789 := by decide
    refine ⟨1972, by decide, by decide, valid, ?_⟩
    rw [number]
    exact clearOn_of_not_mem clear.narrow clear.leapDay
  · obtain ⟨valid', valid'', number⟩ := Date.dayNumber_1973 valid leap
    have date := Date.ofDayNumber_dayNumber valid'
    have year : (Date.ofDayNumber (Date.dayNumber ⟨1971, month, day⟩)).year = 1971 := by rw [date]
    have begun := (@Date.firstDay_le_iff_year 1971 (Date.dayNumber ⟨1971, month, day⟩)).2 (by omega)
    have not_over := mt (@Date.firstDay_le_iff_year 1972 (Date.dayNumber ⟨1971, month, day⟩)).1 (by omega)
    have start : Date.firstDay (12 * 1971) = 365 := by decide
    have stop : Date.firstDay (12 * 1972) = 730 := by decide
    have once : Date.dayNumber ⟨1971, month, day⟩ ∈ z.spoiltDays →
        Date.dayNumber ⟨1971, month, day⟩ + 731 ∉ z.spoiltDays :=
      fun spoilt => clear.sameDate _ spoilt (by omega) (by omega)
    rcases clear.clearOn_or once with on | on
    · exact ⟨1971, by decide, by decide, valid', on⟩
    · rw [← number] at on
      exact ⟨1973, by decide, by decide, valid'', on⟩

/-- A weekday of a month comes on a clear day in 1971. -/
theorem exists_weekday {weekday month : Nat} (lt : weekday < 7) (first : 1 ≤ month) (last : month ≤ 12) :
    ∃ n, (Date.ofDayNumber n).year = 1971 ∧ (Date.ofDayNumber n).month = month ∧
      Date.weekdayOf n = weekday ∧ z.ClearOn n := by
  obtain ⟨j, near, hits⟩ := Date.exists_weekday_firstDay lt (12 * 1971 + month - 1)
  have starts : ∀ m : Nat, m < 13 → 1 ≤ m → 365 ≤ Date.firstDay (12 * 1971 + m - 1) ∧
      Date.firstDay (12 * 1971 + m - 1) < 720 := by decide
  have start := starts month (by omega) first
  have on_month : ∀ i : Nat, i < 28 →
      (Date.ofDayNumber (Date.firstDay (12 * 1971 + month - 1) + i)).year = 1971 ∧
        (Date.ofDayNumber (Date.firstDay (12 * 1971 + month - 1) + i)).month = month := by
    intro i lt
    have number := Date.monthNumber_firstDay_add (12 * 1971 + month - 1) lt
    have bounds := Date.isValid_iff.1
      (Date.isValid_ofDayNumber (Date.firstDay (12 * 1971 + month - 1) + i))
    unfold Date.monthNumber at number
    omega
  have once : Date.firstDay (12 * 1971 + month - 1) + j ∈ z.spoiltDays →
      Date.firstDay (12 * 1971 + month - 1) + j + 7 ∉ z.spoiltDays :=
    fun spoilt => clear.nextWeek _ spoilt (by omega) (by omega)
  rcases clear.clearOn_or once with on | on
  · exact ⟨_, (on_month j (by omega)).1, (on_month j (by omega)).2, hits, on⟩
  · rw [Int.add_assoc, show (j : Int) + 7 = ((j + 7 : Nat) : Int) from rfl] at on
    refine ⟨_, (on_month (j + 7) (by omega)).1, (on_month (j + 7) (by omega)).2, ?_, on⟩
    unfold Date.weekdayOf at hits ⊢
    omega

open Search (LeaptOver)

/-- A timetable that names a date names a clear one between 1971 and 1973 that the search does not leap
over. -/
theorem exists_clear {t : Timetable} (proper : t.Proper) {n : Int} (named : t.namesDate n = true) :
    ∃ n', t.namesDate n' = true ∧ ¬ LeaptOver t (Date.ofDayNumber n') ∧ z.ClearOn n' ∧
      1971 ≤ (Date.ofDayNumber n').year ∧ (Date.ofDayNumber n').year ≤ 1973 := by
  obtain ⟨month, day⟩ := Timetable.namesDate_iff.1 named
  obtain ⟨first, last, one, fits⟩ := Date.isValid_iff.1 (Date.isValid_ofDayNumber n)
  rcases Timetable.namesDay_cases day with any_weekday | any_day
  · -- A number that the search never counts past to a larger one.
    obtain ⟨m, d, valid, month, any_weekday, kept⟩ : ∃ m d, Date.isValid ⟨1972, m, d⟩ = true ∧
        m ∈ t.months ∧ (∀ weekday, t.namesDay d weekday = true) ∧ ∀ y, ¬ LeaptOver t ⟨y, m, d⟩ := by
      by_cases leapt : ∃ y, LeaptOver t ⟨y, (Date.ofDayNumber n).month, (Date.ofDayNumber n).day⟩
      · obtain ⟨y, leapt⟩ := leapt
        obtain ⟨number, member, counted, le⟩ := leapt.number_ge proper
        have short := Date.daysInMonth_bounds y 2
        have march : Date.daysInMonth 1972 3 = 31 := rfl
        refine ⟨3, number, Date.isValid_iff.2 ?_, leapt.months.2, leapt.namesDay member, ?_⟩
        · simp only [march] at *
          omega
        · intro y' again
          obtain ⟨larger, -, far, le'⟩ := again.number_ge proper
          have := Date.daysInMonth_bounds y' 2
          simp only at far counted
          omega
      · have longest := Date.daysInMonth_le_of_leap (l := 1972) (by decide) (Date.ofDayNumber n).year
          (Date.ofDayNumber n).month
        exact ⟨_, _, Date.isValid_iff.2 ⟨first, last, one, Nat.le_trans fits longest⟩, month, any_weekday,
          fun y again => leapt ⟨y, again⟩⟩
    obtain ⟨y, from_le, le, valid', on⟩ := clear.exists_sameDay valid
    have date := Date.ofDayNumber_dayNumber valid'
    refine ⟨_, ?_, by rw [date]; exact kept y, on, by rw [date]; exact from_le, by rw [date]; exact le⟩
    rw [Timetable.namesDate_iff, date]
    exact ⟨month, any_weekday _⟩
  · obtain ⟨n', year, month', weekday, on⟩ :=
      clear.exists_weekday (Search.weekdayOf_lt n) first last
    refine ⟨n', ?_, fun leapt => ?_, on, by omega, by omega⟩
    · rw [Timetable.namesDate_iff, month', weekday]
      exact ⟨month, any_day _⟩
    · -- A day that is named by its weekday is not leapt over.
      have unnamed := leapt.unreached _ (Nat.le_refl _) (Nat.le_add_right _ _)
      have weekdays := leapt.weekdays
      have today := any_day (Date.daysInMonth (Date.ofDayNumber n').year 2)
      rw [← weekday, Timetable.namesDay_iff] at today
      have none := fun looked => weekdays looked 0 (Nat.zero_le _)
      rw [Date.dayNumber_ofDayNumber] at none
      simp only [Int.ofNat_zero, Int.sub_zero] at none
      rcases today with ⟨-, day⟩ | ⟨looked, -, weekday⟩ | ⟨looked, -, day | weekday⟩
      · exact unnamed day
      · exact none looked weekday
      · exact unnamed day
      · exact none looked weekday

end Zone.ClearAtFirst
end CronCalendar
