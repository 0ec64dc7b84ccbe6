import CronCalendar.Calendar.Timestamp
import CronCalendar.Proofs.Calendar.Readings
import CronCalendar.Proofs.Text.Digits

/-!
# Reading written timestamps

The text of an instant is read back as that instant by the lenient reader (`readLenient_text`). The
strict reader takes the text without the fraction exactly if the year has four digits and no sign
(`read_secondsText`). Each part of the text is read by its own reader, up to a character that cannot be
part of it: the year with its sign, the numbers of two digits, and the fraction of the second with 0, 3, 6
or 9 digits.
-/

namespace CronCalendar.Timestamp
set_option autoImplicit false

open Text (EndsRun endsRun_cons)

theorem trimStart_of_not_blank {c : Char} (h : Text.isBlank c = false) (s : List Char) :
    Text.trimStart (c :: s) = c :: s := List.dropWhile_cons_of_neg (by simp [h])

/-- A padded number starts with a digit. -/
theorem exists_padded_cons (width n : Nat) :
    ∃ d ds, Decimal.padded width n = d :: ds ∧ d.isDigit = true := by
  cases shown : Decimal.padded width n with
  | nil => exact absurd (List.append_eq_nil_iff.1 shown).2 (Decimal.digits_ne_nil n)
  | cons d ds => exact ⟨d, ds, rfl, Decimal.isDigit_of_mem_padded (shown ▸ List.mem_cons_self)⟩

theorem trimStart_padded (width n : Nat) (s : List Char) :
    Text.trimStart (Decimal.padded width n ++ s) = Decimal.padded width n ++ s := by
  obtain ⟨d, ds, shown, digit⟩ := exists_padded_cons width n
  rw [shown, List.cons_append, trimStart_of_not_blank (Text.isBlank_of_isDigit digit)]

/-- A padded number is read as the number where a numeral may be as long. -/
theorem read_padded {least most width n : Nat} {s : List Char} (enough : least ≤ width)
    (fits : (Decimal.padded width n).length ≤ most) (ends : EndsRun Char.isDigit s) :
    Decimal.read? least most (Decimal.padded width n ++ s) = some (n, s) := by
  rw [Decimal.read_append (fun _ => Decimal.isDigit_of_mem_padded)
    (Nat.le_trans enough (Decimal.le_length_padded width n)) fits (Or.inr ends), Decimal.value_padded]

theorem lenientNumber_padded {n : Nat} (h : n < 100) {s : List Char} (ends : EndsRun Char.isDigit s) :
    lenientNumber? (Decimal.padded 2 n ++ s) = some (n, s) := by
  rw [lenientNumber?, trimStart_padded]
  exact read_padded (by decide) (Nat.le_of_eq (Decimal.length_padded (by decide) h)) ends

theorem lenientExpect_cons {c : Char} (h : Text.isBlank c = false) (s : List Char) :
    lenientExpect? c (c :: s) = some s := by
  rw [lenientExpect?, trimStart_of_not_blank h, expect?, if_pos rfl]

/-- A year is read with its sign, and with no more than four digits when it has none. -/
theorem lenientYear_yearText (year : Int) {s : List Char} (ends : EndsRun Char.isDigit s) :
    lenientYear? (yearText year ++ s) = some (year, s) := by
  have signed : Decimal.read? 1 (Decimal.padded 4 year.natAbs ++ s).length
      (Decimal.padded 4 year.natAbs ++ s) = some (year.natAbs, s) :=
    read_padded (by decide) (by simp) ends
  unfold yearText
  split
  · rw [List.cons_append, lenientYear?, trimStart_of_not_blank (by decide)]
    simp only [signed, Option.map_some]
    congr
    omega
  split
  · rw [List.cons_append, lenientYear?, trimStart_of_not_blank (by decide)]
    simp only [signed, Option.map_some]
    congr
    omega
  · have unsigned : Decimal.read? 1 4 (Decimal.padded 4 year.natAbs ++ s) = some (year.natAbs, s) :=
      read_padded (by decide) (Nat.le_of_eq (Decimal.length_padded (by decide) (by omega))) ends
    obtain ⟨d, ds, shown, digit⟩ := exists_padded_cons 4 year.natAbs
    rw [lenientYear?, trimStart_padded]
    split
    · rename_i sign
      rw [shown] at sign
      cases sign
      cases digit
    · rename_i sign
      rw [shown] at sign
      cases sign
      cases digit
    · simp only [unsigned, Option.map_some]
      congr
      omega

/-- The digits of a fraction count from the point on. -/
theorem nanosOf_padded {width n : Nat} (positive : 0 < width) (short : width ≤ 9)
    (h : n < 10 ^ width) : nanosOf (Decimal.padded width n) = n * 10 ^ (9 - width) := by
  have places := Decimal.length_padded positive h
  rw [nanosOf, List.take_append, places, List.take_of_length_le (by omega), List.take_replicate,
    Nat.min_eq_left (by omega), Decimal.value_append_zeros, Decimal.value_padded]

theorem fraction_padded {width n : Nat} (positive : 0 < width) (short : width ≤ 9)
    (h : n < 10 ^ width) {s : List Char} (ends : EndsRun Char.isDigit s) :
    fraction? ('.' :: Decimal.padded width n ++ s) = some (n * 10 ^ (9 - width), s) := by
  have digits : (Decimal.padded width n ++ s).takeWhile Char.isDigit = Decimal.padded width n :=
    Text.takeWhile_run (fun _ => Decimal.isDigit_of_mem_padded) ends
  have some_digit : (Decimal.padded width n).isEmpty = false := by
    obtain ⟨d, ds, shown, -⟩ := exists_padded_cons width n
    rw [shown]
    rfl
  simp only [List.cons_append, fraction?, digits, some_digit, nanosOf_padded positive short h,
    List.drop_left]
  rfl

/-- The fraction of a second is exact, whatever number of digits it is written with. -/
theorem fraction_fractionText {nanos : Nat} (h : nanos < nanosPerSecond) {s : List Char}
    (ends : EndsRun Char.isDigit s) (no_point : ∀ c ∈ s.head?, c ≠ '.') :
    fraction? (fractionText nanos ++ s) = some (nanos, s) := by
  unfold nanosPerSecond at h
  unfold fractionText
  split
  · rename_i zero
    rw [List.nil_append, zero]
    cases s with
    | nil => rfl
    | cons c s =>
      rw [fraction?]
      intro rest same
      exact no_point c rfl (List.cons.inj same).1
  split
  · rw [fraction_padded (by decide) (by decide) (by omega) ends]
    congr
    omega
  split
  · rw [fraction_padded (by decide) (by decide) (by omega) ends]
    congr
    omega
  · rw [fraction_padded (by decide) (by decide) (by omega) ends]
    congr
    omega

/-- What a clock in UTC shows at an instant says which instant it is. -/
theorem instant_utcWall (t : Instant) :
    instant? (utcWall t).date (utcWall t).hour (utcWall t).minute (utcWall t).second t.nanos 0 =
      some t := by
  have valid : (utcWall t).date.isValid = true := Date.isValid_ofDayNumber _
  have supported : (utcWall t).date.isSupported = true := by
    rw [WallTime.isSupported_date, WallTime.isSupported_iff]
    exact ⟨t.firstSecond_le, t.le_lastSecond⟩
  have day : (utcWall t).date.dayNumber = (utcWall t).dayNumber := Date.dayNumber_ofDayNumber _
  have shown := (utcWall t).count_eq
  have count : (utcWall t).count = t.seconds := rfl
  simp only [instant?, valid, supported, (utcWall t).hour_lt, (utcWall t).minute_lt,
    (utcWall t).second_lt, decide_true, Bool.and_self, if_true, day]
  rw [Instant.of?_eq_some_iff, WallTime.count_ofDay]
  exact ⟨by omega, rfl⟩

/-- A date is at most a day and a month of two digits. -/
theorem month_day_lt (w : WallTime) : w.date.month < 100 ∧ w.date.day < 100 := by
  obtain ⟨-, month, -, day⟩ := Date.isValid_iff.1 (Date.isValid_ofDayNumber w.dayNumber)
  have := (Date.daysInMonth_bounds w.date.year w.date.month).2
  exact ⟨by unfold WallTime.date; omega, by unfold WallTime.date at *; omega⟩

/-- An instant is read back from its text. -/
theorem readLenient_text (t : Instant) : readLenient? (text t) = some t := by
  have lt_hundred := month_day_lt (utcWall t)
  have hour := (utcWall t).hour_lt
  have minute := (utcWall t).minute_lt
  have second := (utcWall t).second_lt
  have zulu : lenientOffset? ['Z'] = some (0, []) := by decide
  have ends : EndsRun Char.isDigit (fractionText t.nanos ++ ['Z']) := by
    unfold fractionText
    split
    · exact endsRun_cons rfl _
    split
    · exact endsRun_cons rfl _
    split
    all_goals exact endsRun_cons rfl _
  have fraction : fraction? (fractionText t.nanos ++ ['Z']) = some (t.nanos, ['Z']) :=
    fraction_fractionText t.nanos_lt (endsRun_cons rfl _) (by simp)
  simp only [text, wallText, dateText, minuteText, List.append_assoc, List.cons_append]
  unfold readLenient?
  rw [lenientYear_yearText _ (endsRun_cons rfl _)]
  simp only [Option.bind_eq_bind, Option.bind_some, lenientExpect_cons (c := '-') rfl,
    lenientExpect_cons (c := ':') rfl, separator?,
    lenientNumber_padded lt_hundred.1 (endsRun_cons (c := '-') rfl _),
    lenientNumber_padded lt_hundred.2 (endsRun_cons (c := 'T') rfl _),
    lenientNumber_padded (Nat.lt_trans hour (by decide)) (endsRun_cons (c := ':') rfl _),
    lenientNumber_padded (Nat.lt_trans minute (by decide)) (endsRun_cons (c := ':') rfl _),
    lenientNumber_padded (Nat.lt_trans second (by decide)) ends, fraction, zulu]
  exact instant_utcWall t

/-- A number of two digits is read from both. -/
theorem read_two {n : Nat} (h : n < 100) {s : List Char} (ends : EndsRun Char.isDigit s) :
    Decimal.read? 2 2 (Decimal.padded 2 n ++ s) = some (n, s) :=
  read_padded (Nat.le_refl 2) (Nat.le_of_eq (Decimal.length_padded (by decide) h)) ends

theorem expect_cons (c : Char) (s : List Char) : expect? c (c :: s) = some s := if_pos rfl

/-- A year of four digits is written without a sign. -/
theorem yearText_eq {year : Int} (first : 0 ≤ year) (last : year ≤ 9999) :
    yearText year = Decimal.padded 4 year.toNat := by
  rw [yearText, if_neg (by omega), if_neg (by omega)]
  congr
  omega

/-- Any other year is written with a sign, and so not with a digit first. -/
theorem yearText_signed {year : Int} (outside : ¬ (0 ≤ year ∧ year ≤ 9999)) :
    ∃ sign ds, yearText year = sign :: ds ∧ sign.isDigit = false := by
  by_cases negative : year < 0
  · exact ⟨'-', _, if_pos negative, rfl⟩
  · rw [yearText, if_neg negative, if_pos (by omega)]
    exact ⟨'+', _, rfl, rfl⟩

/-- The strict reader takes the text of an instant with the year in four digits, and reads the instant at the
start of its second. -/
theorem read_secondsText_of_year {t : Instant} (first : 0 ≤ (utcWall t).date.year)
    (last : (utcWall t).date.year ≤ 9999) :
    read? (secondsText t) = Instant.ofSeconds? t.seconds := by
  have lt_hundred := month_day_lt (utcWall t)
  have hour := (utcWall t).hour_lt
  have minute := (utcWall t).minute_lt
  have second := (utcWall t).second_lt
  have no_fraction : fraction? ['Z'] = some (0, ['Z']) := rfl
  have zulu : offset? (expect? ':') ['Z'] = some (0, []) := rfl
  have year : (((utcWall t).date.year.toNat : Nat) : Int) = (utcWall t).date.year := by omega
  obtain ⟨start, at_start⟩ := Instant.exists_ofSeconds t.firstSecond_le t.le_lastSecond
  obtain ⟨seconds, nanos⟩ := Instant.ofSeconds_eq_some_iff.1 at_start
  have same : utcWall start = utcWall t := congrArg WallTime.mk seconds
  simp only [secondsText, wallText, dateText, minuteText, yearText_eq first last, List.append_assoc,
    List.cons_append]
  unfold read?
  rw [read_padded (Nat.le_refl 4) (Nat.le_of_eq (Decimal.length_padded (by decide) (by omega)))
    (endsRun_cons rfl _)]
  simp only [Option.bind_eq_bind, Option.bind_some, expect_cons, separator?,
    read_two lt_hundred.1 (endsRun_cons (c := '-') rfl _),
    read_two lt_hundred.2 (endsRun_cons (c := 'T') rfl _),
    read_two (Nat.lt_trans hour (by decide)) (endsRun_cons (c := ':') rfl _),
    read_two (Nat.lt_trans minute (by decide)) (endsRun_cons (c := ':') rfl _),
    read_two (Nat.lt_trans second (by decide)) (endsRun_cons (c := 'Z') rfl _),
    no_fraction, zulu, year]
  rw [at_start, ← instant_utcWall start, same, nanos]
  rfl

/-- It takes no other. -/
theorem read_secondsText_signed {t : Instant}
    (outside : ¬ (0 ≤ (utcWall t).date.year ∧ (utcWall t).date.year ≤ 9999)) :
    read? (secondsText t) = none := by
  obtain ⟨sign, ds, signed, no_digit⟩ := yearText_signed outside
  have none : ∀ s, Decimal.read? 4 4 (sign :: s) = none := fun s => by
    simp [Decimal.read?, no_digit]
  simp only [read?, secondsText, wallText, dateText, signed, List.cons_append, none,
    Option.bind_eq_bind, Option.bind_none]

/-- The strict reader gives an instant back from its text exactly if the instant is at the start of a second
of the years 0 to 9999. -/
theorem read_secondsText {t : Instant} :
    read? (secondsText t) = some t ↔
      t.nanos = 0 ∧ 0 ≤ (utcWall t).date.year ∧ (utcWall t).date.year ≤ 9999 := by
  by_cases inside : 0 ≤ (utcWall t).date.year ∧ (utcWall t).date.year ≤ 9999
  · rw [read_secondsText_of_year inside.1 inside.2, Instant.ofSeconds_eq_some_iff]
    exact ⟨fun h => ⟨h.2, inside⟩, fun h => ⟨rfl, h.1⟩⟩
  · rw [read_secondsText_signed inside]
    exact ⟨nofun, fun h => absurd h.2 inside⟩

end CronCalendar.Timestamp
