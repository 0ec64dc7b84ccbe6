import CronCalendar.Calendar.WallTime
import CronCalendar.Proofs.Calendar.Months

/-!
# Readings of a clock

The parts of a wall time and the count of seconds it stands for: `count_eq` puts the count together
again from day, hour, minute and second, so that an order of wall times is an order of these parts.
Instants are ordered by their seconds first.
-/

namespace CronCalendar
set_option autoImplicit false

namespace WallTime

theorem hour_lt (w : WallTime) : w.hour < 24 := by
  unfold hour secondOfDay secondsPerDay
  omega

theorem minute_lt (w : WallTime) : w.minute < 60 := Nat.mod_lt _ (by decide)

theorem second_lt (w : WallTime) : w.second < 60 := Nat.mod_lt _ (by decide)

theorem count_eq (w : WallTime) :
    w.count = 86400 * w.dayNumber + 3600 * (w.hour : Int) + 60 * (w.minute : Int) + (w.second : Int) := by
  unfold dayNumber hour minute second secondOfDay secondsPerDay
  omega

/-- A count and the parts that add up to it. -/
theorem parts_eq {w : WallTime} {n : Int} {hour minute second : Nat}
    (h : w.count = 86400 * n + 3600 * (hour : Int) + 60 * (minute : Int) + (second : Int))
    (hour_lt : hour < 24) (minute_lt : minute < 60) (second_lt : second < 60) :
    w.dayNumber = n ∧ w.hour = hour ∧ w.minute = minute ∧ w.second = second := by
  have := w.hour_lt
  have := w.minute_lt
  have := w.second_lt
  have := w.count_eq
  omega

theorem second_eq (w : WallTime) : (w.second : Int) = w.count % 60 := by
  unfold second secondOfDay secondsPerDay
  omega

theorem minute_eq (w : WallTime) : (w.minute : Int) = w.count / 60 % 60 := by
  unfold minute secondOfDay secondsPerDay
  omega

/-- The hours counted from 1970 on say which day and which hour it is. -/
theorem sameHour {v w : WallTime} (h : v.count / 3600 = w.count / 3600) :
    v.dayNumber = w.dayNumber ∧ v.hour = w.hour := by
  unfold dayNumber hour secondOfDay secondsPerDay
  omega

theorem count_ofDay (n : Int) (seconds : Nat) : (ofDay n seconds).count = 86400 * n + seconds := rfl

theorem count_atHour (n : Int) (hour : Nat) : (atHour n hour).count = 86400 * n + 3600 * hour := by
  rw [atHour, count_ofDay]
  omega

theorem atHour_parts (n : Int) {hour : Nat} (h : hour < 24) :
    (atHour n hour).dayNumber = n ∧ (atHour n hour).hour = hour ∧ (atHour n hour).minute = 0 ∧
      (atHour n hour).second = 0 := by
  refine parts_eq ?_ h (by omega) (by omega)
  rw [count_atHour]
  omega

theorem eq_of_count {v w : WallTime} (h : v.count = w.count) : v = w := by
  cases v
  cases w
  simp_all

theorem atHour_of_full {w : WallTime} (full : w.count % 3600 = 0) :
    atHour w.dayNumber w.hour = w := by
  have shown := w.count_eq
  have := w.minute_eq
  have := w.second_eq
  apply eq_of_count
  rw [count_atHour]
  omega

theorem ofDay_zero (n : Int) : ofDay n 0 = atHour n 0 := rfl

theorem isSupported_iff {w : WallTime} :
    w.isSupported = true ↔ firstSecond ≤ w.count ∧ w.count ≤ lastSecond := by
  simp [isSupported]

/-- The supported wall times are those of the supported dates. -/
theorem isSupported_date (w : WallTime) : w.date.isSupported = w.isSupported := by
  have shown := w.count_eq
  have := w.hour_lt
  have := w.minute_lt
  have := w.second_lt
  rw [Bool.eq_iff_iff, isSupported_iff, date, Date.isSupported_iff, Date.firstDay_firstYear,
    Date.firstDay_lastYear]
  unfold firstSecond lastSecond
  omega

theorem isSupported_atHour (n : Int) {hour : Nat} (h : hour < 24) :
    (atHour n hour).isSupported = (Date.ofDayNumber n).isSupported := by
  rw [← isSupported_date, date, (atHour_parts n h).1]

/-- Within so many times 336 days, the year does not go up by more than that number. -/
theorem year_le_add (n : Nat) {v w : WallTime} (near : v.dayNumber ≤ w.dayNumber + 336 * n) :
    v.date.year ≤ w.date.year + n := by
  have next : ¬ Date.firstDay (12 * (w.date.year + 1)) ≤ w.dayNumber := by
    intro le
    have : _ ≤ w.date.year := Date.firstDay_le_iff_year.1 le
    omega
  have length := Date.firstDay_add_le (12 * (w.date.year + 1)) (12 * n)
  rw [show 12 * (w.date.year + 1) + ((12 * n : Nat) : Int) = 12 * (w.date.year + n + 1) by omega]
    at length
  have not_begun : ¬ Date.firstDay (12 * (w.date.year + n + 1)) ≤ v.dayNumber := by omega
  have := mt Date.firstDay_le_iff_year.2 not_begun
  unfold date at *
  omega

/-- The year does not go up by more than one within three hundred days. -/
theorem year_le {v w : WallTime} (near : v.dayNumber ≤ w.dayNumber + 300) :
    v.date.year ≤ w.date.year + 1 :=
  year_le_add 1 (by omega)

end WallTime

namespace Instant

theorem eq_of_parts {t u : Instant} (seconds : t.seconds = u.seconds) (nanos : t.nanos = u.nanos) :
    t = u := by
  cases t
  cases u
  simp_all

theorem lt_iff {t u : Instant} :
    t < u ↔ t.seconds < u.seconds ∨ t.seconds = u.seconds ∧ t.nanos < u.nanos := Iff.rfl

theorem le_iff {t u : Instant} : t ≤ u ↔ ¬ u < t := Iff.rfl

protected theorem lt_irrefl (t : Instant) : ¬ t < t := by
  rw [lt_iff]
  omega

protected theorem lt_trans {t u v : Instant} (h : t < u) (h' : u < v) : t < v := by
  rw [lt_iff] at h h' ⊢
  omega

protected theorem le_trans {t u v : Instant} (h : t ≤ u) (h' : u ≤ v) : t ≤ v := by
  rw [le_iff, lt_iff] at *
  omega

protected theorem lt_of_le_of_lt {t u v : Instant} (h : t ≤ u) (h' : u < v) : t < v := by
  rw [le_iff, lt_iff] at h
  rw [lt_iff] at h' ⊢
  omega

protected theorem le_of_lt {t u : Instant} (h : t < u) : t ≤ u := by
  rw [le_iff]
  rw [lt_iff] at h ⊢
  omega

theorem ofSeconds_eq_some_iff {seconds : Int} {t : Instant} :
    ofSeconds? seconds = some t ↔ t.seconds = seconds ∧ t.nanos = 0 := of?_eq_some_iff

theorem exists_ofSeconds {seconds : Int} (first : firstSecond ≤ seconds)
    (last : seconds ≤ lastSecond) : ∃ t, ofSeconds? seconds = some t :=
  ⟨_, dif_pos ⟨by decide, first, last⟩⟩

theorem exists_at {seconds : Int} (first : firstSecond ≤ seconds) (last : seconds ≤ lastSecond) :
    ∃ t : Instant, t.seconds = seconds ∧ t.nanos = 0 :=
  ⟨⟨seconds, 0, zero_lt_nanosPerSecond, first, last⟩, rfl, rfl⟩

end Instant

end CronCalendar
