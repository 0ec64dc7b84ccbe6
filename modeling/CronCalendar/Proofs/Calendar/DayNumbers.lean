import CronCalendar.Calendar.Date

/-!
# Dates and day numbers

`Date.dayNumber` and `Date.ofDayNumber` are inverse to each other on the dates that exist
(`dayNumber_ofDayNumber`, `ofDayNumber_dayNumber`), and each day number has a date that exists
(`isValid_ofDayNumber`). All three go through one description of a day: a year that starts in
March and the number of days since it began. `ofMarchDay` turns that into a date, and the
arithmetic of leap years only decides how long such a year is.
-/

namespace CronCalendar.Date
set_option autoImplicit false

theorem isLeapYear_iff {year : Int} :
    isLeapYear year = true ↔ year % 4 = 0 ∧ (year % 100 ≠ 0 ∨ year % 400 = 0) := by
  simp [isLeapYear]

theorem daysInMonth_february (year : Int) :
    daysInMonth year 2 = 28 ∨ daysInMonth year 2 = 29 := by
  have : daysInMonth year 2 = if isLeapYear year then 29 else 28 := rfl
  split at this <;> omega

theorem daysInMonth_bounds (year : Int) (month : Nat) :
    28 ≤ daysInMonth year month ∧ daysInMonth year month ≤ 31 := by
  unfold daysInMonth
  split
  · split <;> omega
  all_goals omega

theorem thirty_le_daysInMonth {year : Int} {month : Nat} (h : month ≠ 2) :
    30 ≤ daysInMonth year month := by
  unfold daysInMonth
  split
  · contradiction
  all_goals omega

/-- A year counted out in cycles of 400 years, centuries, spans of four years and single years. -/
structure YearParts (year cycles centuries fours singles : Int) : Prop where
  sum : year = 400 * cycles + 100 * centuries + 4 * fours + singles
  centuries : 0 ≤ centuries ∧ centuries ≤ 3
  fours : 0 ≤ fours ∧ fours ≤ 24
  singles : 0 ≤ singles ∧ singles ≤ 3

theorem exists_yearParts (y : Int) : ∃ q c f s, YearParts y q c f s :=
  ⟨y / 400, y % 400 / 100, y % 100 / 4, y % 4, by constructor <;> omega⟩

theorem marchYearStart_of_parts {y q c f s : Int} (parts : YearParts y q c f s) :
    marchYearStart y = 146097 * q + 36524 * c + 1461 * f + 365 * s := by
  obtain ⟨sum, _, _, _⟩ := parts
  unfold marchYearStart
  omega

/-- The number of days from one first of March to the next. -/
def marchYearLength (y : Int) : Nat := if isLeapYear (y + 1) then 366 else 365

theorem marchYearStart_succ (y : Int) :
    marchYearStart (y + 1) = marchYearStart y + (marchYearLength y : Nat) := by
  unfold marchYearLength
  by_cases leap : isLeapYear (y + 1) = true
  · have := isLeapYear_iff.1 leap
    rw [if_pos leap]
    unfold marchYearStart
    omega
  · have := mt isLeapYear_iff.2 leap
    rw [if_neg leap]
    unfold marchYearStart
    omega

/-- The last day of a long year comes at the end of four years, and not at the end of a century
unless it is the last of its cycle. -/
theorem lt_marchYearLength_of_parts {y q c f s : Int} (parts : YearParts y q c f s) {day : Nat}
    (h : day < marchYearLength y) : day ≤ 364 ∨ day = 365 ∧ s = 3 ∧ (f ≠ 24 ∨ c = 3) := by
  obtain ⟨sum, _, _, _⟩ := parts
  unfold marchYearLength at h
  split at h
  · have := isLeapYear_iff.1 ‹_›
    omega
  · omega

/-- The date that comes a number of days after the first of March of a year. -/
def ofMarchDay (y : Int) (day : Nat) : Date :=
  let m := (5 * day + 2) / 153
  if m < 10 then ⟨y, m + 3, day - marchMonthStart m + 1⟩ else ⟨y + 1, m - 9, day - marchMonthStart m + 1⟩

theorem ofDayNumber_marchYearStart {y : Int} {day : Nat} (h : day < marchYearLength y) :
    ofDayNumber (marchYearStart y + (day : Int) - epochShift) = ofMarchDay y day := by
  obtain ⟨q, c, f, s, parts⟩ := exists_yearParts y
  have last := lt_marchYearLength_of_parts parts h
  have start := marchYearStart_of_parts parts
  obtain ⟨sum, hc, hf, hs⟩ := parts
  have fromMarch : marchYearStart y + (day : Int) - epochShift + epochShift =
      146097 * q + (36524 * c + 1461 * f + 365 * s + day) := by omega
  have cycle : (146097 * q + (36524 * c + 1461 * f + 365 * s + day)) / 146097 = q := by omega
  have inCycle : (146097 * q + (36524 * c + 1461 * f + 365 * s + day)) % 146097 =
      36524 * c + 1461 * f + 365 * s + day := by omega
  have century : min ((36524 * c + 1461 * f + 365 * s + day) / 36524) 3 = c := by omega
  have inCentury : 36524 * c + 1461 * f + 365 * s + day - 36524 * c =
      1461 * f + 365 * s + day := by omega
  have quad : (1461 * f + 365 * s + day) / 1461 = f := by omega
  have inQuad : (1461 * f + 365 * s + day) % 1461 = 365 * s + day := by omega
  have single : min ((365 * s + day) / 365) 3 = s := by omega
  have dayOfYear : (365 * s + (day : Int) - 365 * s).toNat = day := by omega
  unfold ofDayNumber
  simp only [fromMarch, cycle, inCycle, century, inCentury, quad, inQuad, single, dayOfYear, ← sum]
  rfl

/-- Every day number is a day of some year. -/
theorem exists_marchDay (n : Int) :
    ∃ y day, day < marchYearLength y ∧ n = marchYearStart y + ((day : Nat) : Int) - epochShift := by
  obtain ⟨q, hq⟩ : ∃ q, q = (n + epochShift) / 146097 := ⟨_, rfl⟩
  obtain ⟨r, hr⟩ : ∃ r, r = (n + epochShift) % 146097 := ⟨_, rfl⟩
  obtain ⟨c, hc⟩ : ∃ c, c = min (r / 36524) 3 := ⟨_, rfl⟩
  obtain ⟨f, hf⟩ : ∃ f, f = (r - 36524 * c) / 1461 := ⟨_, rfl⟩
  obtain ⟨s, hs⟩ : ∃ s, s = min ((r - 36524 * c) % 1461 / 365) 3 := ⟨_, rfl⟩
  have parts : YearParts (400 * q + 100 * c + 4 * f + s) q c f s :=
    ⟨rfl, by omega, by omega, by omega⟩
  refine ⟨400 * q + 100 * c + 4 * f + s, ((r - 36524 * c) % 1461 - 365 * s).toNat, ?_, ?_⟩
  · unfold marchYearLength
    split
    · omega
    · have := mt isLeapYear_iff.2 ‹_›
      omega
  · rw [marchYearStart_of_parts parts]
    omega

theorem marchMonthStart_le_day (day : Nat) : marchMonthStart ((5 * day + 2) / 153) ≤ day := by
  unfold marchMonthStart
  omega

theorem dayNumber_ofMarchDay {y : Int} {day : Nat} (h : day < marchYearLength y) :
    (ofMarchDay y day).dayNumber = marchYearStart y + (day : Int) - epochShift := by
  have short : day ≤ 365 := by unfold marchYearLength at h; split at h <;> omega
  have start := marchMonthStart_le_day day
  unfold ofMarchDay
  generalize hm : (5 * day + 2) / 153 = m at start ⊢
  by_cases late : m < 10
  · have year : (⟨y, m + 3, day - marchMonthStart m + 1⟩ : Date).marchYear = y :=
      if_neg (by simp)
    have month : (⟨y, m + 3, day - marchMonthStart m + 1⟩ : Date).marchMonth = m :=
      if_neg (by simp)
    simp only [if_pos late, dayNumber, year, month]
    omega
  · have year : (⟨y + 1, m - 9, day - marchMonthStart m + 1⟩ : Date).marchYear = y := by
      simp only [marchYear, if_pos (show m - 9 ≤ 2 by omega)]
      omega
    have month : (⟨y + 1, m - 9, day - marchMonthStart m + 1⟩ : Date).marchMonth = m := by
      simp only [marchMonth, if_pos (show m - 9 ≤ 2 by omega)]
      omega
    simp only [if_neg late, dayNumber, year, month]
    omega

theorem isValid_iff {d : Date} :
    d.isValid = true ↔ 1 ≤ d.month ∧ d.month ≤ 12 ∧ 1 ≤ d.day ∧ d.day ≤ daysInMonth d.year d.month := by
  simp [isValid, and_assoc]

/-- The length of the month that comes `m` months after March. -/
theorem marchMonthStart_succ {y : Int} {m : Nat} (h : m < 11) :
    marchMonthStart (m + 1) = marchMonthStart m +
      if m < 10 then daysInMonth y (m + 3) else daysInMonth (y + 1) (m - 9) := by
  match m with
  | 0 | 1 | 2 | 3 | 4 | 5 | 6 | 7 | 8 | 9 | 10 => rfl
  | n + 11 => omega

theorem marchYearLength_eq (y : Int) :
    marchYearLength y = marchMonthStart 11 + daysInMonth (y + 1) 2 := by
  unfold marchYearLength daysInMonth marchMonthStart
  split <;> rfl

theorem isValid_ofMarchDay {y : Int} {day : Nat} (h : day < marchYearLength y) :
    (ofMarchDay y day).isValid = true := by
  have short : day ≤ 365 := by unfold marchYearLength at h; split at h <;> omega
  have start := marchMonthStart_le_day day
  have next : day < marchMonthStart ((5 * day + 2) / 153 + 1) := by unfold marchMonthStart; omega
  have most : (5 * day + 2) / 153 ≤ 11 := by omega
  unfold ofMarchDay
  generalize (5 * day + 2) / 153 = m at start next most ⊢
  by_cases last : m < 11
  · rw [marchMonthStart_succ (y := y) last] at next
    by_cases late : m < 10
    · rw [if_pos late] at next
      simp only [if_pos late, isValid_iff]
      omega
    · rw [if_neg late] at next
      simp only [if_neg late, isValid_iff]
      omega
  · obtain rfl : m = 11 := by omega
    have february : daysInMonth (y + 1) (11 - 9) = daysInMonth (y + 1) 2 := rfl
    rw [marchYearLength_eq] at h
    simp only [if_neg (show ¬ 11 < 10 by omega), isValid_iff]
    omega

/-- The days of a month, counted from the first of March, belong to that month. -/
theorem ofMarchDay_marchMonthStart {y : Int} {m day : Nat}
    (h : marchMonthStart m + day < marchMonthStart (m + 1)) :
    ofMarchDay y (marchMonthStart m + day) =
      if m < 10 then ⟨y, m + 3, day + 1⟩ else ⟨y + 1, m - 9, day + 1⟩ := by
  have month : (5 * (marchMonthStart m + day) + 2) / 153 = m := by
    unfold marchMonthStart at h ⊢
    omega
  simp only [ofMarchDay, month, Nat.add_sub_cancel_left]

/-- A date that exists is found by counting from the first of March. -/
theorem exists_ofMarchDay {d : Date} (valid : d.isValid = true) :
    ∃ y day, day < marchYearLength y ∧ d = ofMarchDay y day := by
  obtain ⟨year, month, day⟩ := d
  obtain ⟨hm1, hm12, hd1, hd⟩ := isValid_iff.1 valid
  simp only at hm1 hm12 hd1 hd
  -- January and February close the year that starts in March.
  by_cases early : month ≤ 2
  · have year_eq : year - 1 + 1 = year := by omega
    have day_eq : day - 1 + 1 = day := by omega
    have length := marchYearLength_eq (year - 1)
    rw [year_eq] at length
    obtain rfl | rfl : month = 1 ∨ month = 2 := by omega
    · have fits : marchMonthStart 10 + (day - 1) < marchMonthStart 11 := by
        have next : marchMonthStart 11 = _ := marchMonthStart_succ (y := year - 1) (m := 10) (by omega)
        have january : daysInMonth year (10 - 9) = daysInMonth year 1 := rfl
        rw [if_neg (by omega), year_eq] at next
        omega
      refine ⟨year - 1, marchMonthStart 10 + (day - 1), by omega, ?_⟩
      rw [ofMarchDay_marchMonthStart fits, if_neg (by omega), year_eq, day_eq]
    · have fits : marchMonthStart 11 + (day - 1) < marchMonthStart 12 := by
        have february := daysInMonth_february year
        have : marchMonthStart 12 = marchMonthStart 11 + 30 := rfl
        omega
      refine ⟨year - 1, marchMonthStart 11 + (day - 1), by omega, ?_⟩
      rw [ofMarchDay_marchMonthStart fits, if_neg (by omega), year_eq, day_eq]
  · obtain ⟨m, rfl⟩ : ∃ m, month = m + 3 := ⟨month - 3, by omega⟩
    have day_eq : day - 1 + 1 = day := by omega
    have fits : marchMonthStart m + (day - 1) < marchMonthStart (m + 1) := by
      have := marchMonthStart_succ (y := year) (m := m) (by omega)
      rw [if_pos (by omega)] at this
      omega
    refine ⟨year, marchMonthStart m + (day - 1), ?_, ?_⟩
    · have : marchMonthStart (m + 1) ≤ marchMonthStart 10 := by unfold marchMonthStart; omega
      have : marchMonthStart 10 ≤ marchMonthStart 11 := by decide
      have := marchYearLength_eq year
      omega
    · rw [ofMarchDay_marchMonthStart fits, if_pos (by omega), day_eq]

theorem dayNumber_ofDayNumber (n : Int) : (ofDayNumber n).dayNumber = n := by
  obtain ⟨y, day, h, rfl⟩ := exists_marchDay n
  rw [ofDayNumber_marchYearStart h, dayNumber_ofMarchDay h]

theorem isValid_ofDayNumber (n : Int) : (ofDayNumber n).isValid = true := by
  obtain ⟨y, day, h, rfl⟩ := exists_marchDay n
  rw [ofDayNumber_marchYearStart h]
  exact isValid_ofMarchDay h

theorem ofDayNumber_dayNumber {d : Date} (valid : d.isValid = true) :
    ofDayNumber d.dayNumber = d := by
  obtain ⟨y, day, h, rfl⟩ := exists_ofMarchDay valid
  rw [dayNumber_ofMarchDay h, ofDayNumber_marchYearStart h]

end CronCalendar.Date
