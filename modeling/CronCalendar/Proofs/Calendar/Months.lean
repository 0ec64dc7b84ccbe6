import CronCalendar.Proofs.Calendar.DayNumbers

/-!
# Months and day numbers

Months are counted without a break from the start of year 0. `firstDay` is the day number with
which a month begins; a month has begun on a day exactly if it is not later than the month of that
day (`firstDay_le_iff`), which turns questions about the order of dates into arithmetic.
-/

namespace CronCalendar.Date
set_option autoImplicit false

/-- The months counted from the start of year 0. -/
def monthNumber (d : Date) : Int := 12 * d.year + d.month - 1

/-- The day number of the first day of a month. -/
def firstDay (k : Int) : Int := dayNumber ⟨k / 12, (k % 12).toNat + 1, 1⟩

/-- The number of days of a month that is given by its number. -/
def monthLength (k : Int) : Nat := daysInMonth (k / 12) ((k % 12).toNat + 1)

theorem dayNumber_early {y : Int} {m day : Nat} (h : m ≤ 2) :
    dayNumber ⟨y, m, day⟩ =
      marchYearStart (y - 1) + (marchMonthStart (m + 9) : Nat) + day - 1 - epochShift := by
  simp only [dayNumber, marchYear, marchMonth, if_pos h]

theorem dayNumber_late {y : Int} {m day : Nat} (h : 2 < m) :
    dayNumber ⟨y, m, day⟩ =
      marchYearStart y + (marchMonthStart (m - 3) : Nat) + day - 1 - epochShift := by
  simp only [dayNumber, marchYear, marchMonth, if_neg (Nat.not_le.2 h)]

theorem firstDay_succ (k : Int) : firstDay (k + 1) = firstDay k + (monthLength k : Nat) := by
  obtain ⟨y, m, hm, rfl⟩ : ∃ (y : Int) (m : Nat), m < 12 ∧ k = 12 * y + m :=
    ⟨k / 12, (k % 12).toNat, by omega, by omega⟩
  have year : (12 * y + (m : Int)) / 12 = y := by omega
  have month : ((12 * y + (m : Int)) % 12).toNat = m := by omega
  unfold firstDay monthLength
  rw [year, month]
  by_cases december : m = 11
  · subst december
    have year' : (12 * y + ((11 : Nat) : Int) + 1) / 12 = y + 1 := by omega
    have month' : ((12 * y + ((11 : Nat) : Int) + 1) % 12).toNat = 0 := by omega
    have start : marchMonthStart 10 = marchMonthStart 9 + daysInMonth y 12 :=
      marchMonthStart_succ (y := y) (m := 9) (by omega)
    rw [year', month', dayNumber_early (by omega), dayNumber_late (by omega), Int.add_sub_cancel]
    simp only [Nat.zero_add, Nat.reduceAdd, Nat.reduceSub, start]
    omega
  have year' : (12 * y + (m : Int) + 1) / 12 = y := by omega
  have month' : ((12 * y + (m : Int) + 1) % 12).toNat = m + 1 := by omega
  rw [year', month']
  obtain rfl | rfl | late : m = 0 ∨ m = 1 ∨ 2 ≤ m := by omega
  · have start : marchMonthStart 11 = marchMonthStart 10 + daysInMonth (y - 1 + 1) 1 :=
      marchMonthStart_succ (y := y - 1) (m := 10) (by omega)
    rw [dayNumber_early (by omega), dayNumber_early (by omega)]
    simp only [Nat.zero_add, Nat.reduceAdd, start, Int.sub_add_cancel]
    omega
  · have start := marchYearStart_succ (y - 1)
    rw [marchYearLength_eq, Int.sub_add_cancel] at start
    rw [dayNumber_late (by omega), dayNumber_early (by omega), start]
    simp only [Nat.reduceAdd, Nat.reduceSub]
    have : marchMonthStart 0 = 0 := rfl
    omega
  · have start := marchMonthStart_succ (y := y) (m := m - 2) (by omega)
    rw [if_pos (by omega), show m - 2 + 3 = m + 1 by omega] at start
    rw [dayNumber_late (by omega), dayNumber_late (by omega),
      show m + 1 + 1 - 3 = m - 2 + 1 by omega, show m + 1 - 3 = m - 2 by omega, start]
    omega

theorem dayNumber_eq_firstDay {d : Date} (valid : d.isValid = true) :
    d.dayNumber = firstDay d.monthNumber + d.day - 1 := by
  obtain ⟨h1, h12, -, -⟩ := isValid_iff.1 valid
  have year : d.monthNumber / 12 = d.year := by unfold monthNumber; omega
  have month : (d.monthNumber % 12).toNat + 1 = d.month := by unfold monthNumber; omega
  simp only [firstDay, year, month, dayNumber, marchYear, marchMonth]
  omega

theorem monthLength_monthNumber {d : Date} (valid : d.isValid = true) :
    monthLength d.monthNumber = daysInMonth d.year d.month := by
  obtain ⟨h1, h12, -, -⟩ := isValid_iff.1 valid
  have year : d.monthNumber / 12 = d.year := by unfold monthNumber; omega
  have month : (d.monthNumber % 12).toNat + 1 = d.month := by unfold monthNumber; omega
  rw [monthLength, year, month]

theorem monthLength_bounds (k : Int) : 28 ≤ monthLength k ∧ monthLength k ≤ 31 :=
  daysInMonth_bounds _ _

theorem firstDay_add_le (k : Int) (n : Nat) : firstDay k + 28 * n ≤ firstDay (k + n) := by
  induction n with
  | zero => simp
  | succ n ih =>
    have step := firstDay_succ (k + n)
    have length := monthLength_bounds (k + n)
    rw [show k + ((n + 1 : Nat) : Int) = k + n + 1 by omega]
    omega

theorem firstDay_le_add (k : Int) (n : Nat) : firstDay (k + n) ≤ firstDay k + 31 * n := by
  induction n with
  | zero => simp
  | succ n ih =>
    have step := firstDay_succ (k + n)
    have length := monthLength_bounds (k + n)
    rw [show k + ((n + 1 : Nat) : Int) = k + n + 1 by omega]
    omega

/-- A month has begun on a day if it is not later than the month of that day. -/
theorem firstDay_le_iff {k n : Int} : firstDay k ≤ n ↔ k ≤ (ofDayNumber n).monthNumber := by
  have valid := isValid_ofDayNumber n
  have day := isValid_iff.1 valid
  have here := dayNumber_eq_firstDay valid
  rw [dayNumber_ofDayNumber] at here
  have length := monthLength_monthNumber valid
  have next := firstDay_succ (ofDayNumber n).monthNumber
  constructor
  · intro h
    refine Int.not_lt.1 fun later => ?_
    obtain ⟨j, hj⟩ : ∃ j : Nat, k = (ofDayNumber n).monthNumber + 1 + j :=
      ⟨(k - (ofDayNumber n).monthNumber - 1).toNat, by omega⟩
    have := firstDay_add_le ((ofDayNumber n).monthNumber + 1) j
    rw [← hj] at this
    omega
  · intro h
    obtain ⟨j, hj⟩ : ∃ j : Nat, (ofDayNumber n).monthNumber = k + j :=
      ⟨((ofDayNumber n).monthNumber - k).toNat, by omega⟩
    have := firstDay_add_le k j
    rw [← hj] at this
    omega

theorem ofDayNumber_firstDay {k : Int} {day : Nat} (h1 : 1 ≤ day) (h : day ≤ monthLength k) :
    ofDayNumber (firstDay k + day - 1) = ⟨k / 12, (k % 12).toNat + 1, day⟩ := by
  have valid : isValid ⟨k / 12, (k % 12).toNat + 1, day⟩ = true :=
    isValid_iff.2 ⟨by simp, by simp only; omega, h1, h⟩
  have number : monthNumber ⟨k / 12, (k % 12).toNat + 1, day⟩ = k := by
    simp only [monthNumber]
    omega
  rw [← ofDayNumber_dayNumber valid, dayNumber_eq_firstDay valid, number]

/-- A day counted on from the start of a month into the next. -/
theorem ofDayNumber_next_month {k : Int} {n : Nat} (beyond : monthLength k < n)
    (h : n ≤ monthLength k + monthLength (k + 1)) :
    ofDayNumber (firstDay k + n - 1) =
      ⟨(k + 1) / 12, ((k + 1) % 12).toNat + 1, n - monthLength k⟩ := by
  have next := firstDay_succ k
  rw [show firstDay k + (n : Int) - 1 = firstDay (k + 1) + ((n - monthLength k : Nat) : Int) - 1 by omega]
  exact ofDayNumber_firstDay (by omega) (by omega)

/-- A year has begun on a day if it is not later than the year of that day. -/
theorem firstDay_le_iff_year {y n : Int} : firstDay (12 * y) ≤ n ↔ y ≤ (ofDayNumber n).year := by
  obtain ⟨h1, h12, -⟩ := isValid_iff.1 (isValid_ofDayNumber n)
  rw [firstDay_le_iff]
  unfold monthNumber
  omega

/-- The supported years, as a range of days. -/
theorem isSupported_iff {n : Int} :
    (ofDayNumber n).isSupported = true ↔
      firstDay (12 * firstYear) ≤ n ∧ n < firstDay (12 * (lastYear + 1)) := by
  rw [← Int.not_le, firstDay_le_iff_year, firstDay_le_iff_year]
  simp only [isSupported, Bool.and_eq_true, decide_eq_true_eq]
  omega

theorem firstDay_firstYear : firstDay (12 * firstYear) = -96465292 := by decide
theorem firstDay_lastYear : firstDay (12 * (lastYear + 1)) = 95026237 := by decide

end CronCalendar.Date
